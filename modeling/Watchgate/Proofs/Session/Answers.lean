import Watchgate.Proofs.Session.Quiet
import Watchgate.Criteria.Evaluator

/-!
# Acts that give an answer

An act gives a value in a session if it ends with that value and changes no record on the way. Acts
that give values are put together one after the other: what is read from the store by the later ones
is what the first one could have read. An act that tells its result does not even talk to a server. A
session answers for a context if none of the calls to the store fails that routing may make there.
-/

namespace Watchgate

namespace Act

variable {α β : Type}

/-- The act ends with a value and leaves the records as they are. -/
def Gives (x : Act α) (s : Session) (a : α) : Prop := ∃ s', x s = (.ok a, s') ∧ s.SameRecords s'

theorem Gives.value {x : Act α} {s : Session} {a : α} (h : x.Gives s a) : (x s).1 = .ok a := by
  obtain ⟨s', hx, -⟩ := h
  rw [hx]

theorem gives_pure (a : α) (s : Session) : (pure a : Act α).Gives s a := ⟨s, rfl, .refl s⟩

theorem gives_note (level : Level) (text : String) (s : Session) : (note level text).Gives s () :=
  ⟨_, rfl, s.sameRecords_journal _⟩

theorem gives_ofResult {x : Except Failure α} {a : α} (h : x = .ok a) (s : Session) :
    (ofResult x).Gives s a := ⟨s, by rw [ofResult, h], .refl s⟩

/-- A sequence gives what its second act gives after the first. -/
theorem Gives.bind {x : Act α} {f : α → Act β} {s : Session} {a : α} {b : β} (hx : x.Gives s a)
    (hf : ∀ s', s.SameRecords s' → (f a).Gives s' b) : (x >>= f).Gives s b := by
  obtain ⟨s₁, hx, hs⟩ := hx
  obtain ⟨s₂, hf, hs'⟩ := hf s₁ hs
  exact ⟨s₂, (bind_of_ok hx).trans hf, hs.trans hs'⟩

theorem gives_forM {f : α → Act Unit} (hf : ∀ a s, (f a).Gives s ()) (l : List α) (s : Session) :
    (l.forM f).Gives s () := by
  induction l generalizing s with
  | nil => exact gives_pure _ s
  | cons a l ih => exact (hf a s).bind fun s' _ => ih s'

/-- The act ends like this and changes nothing but the journal. -/
def Tells (x : Act α) (s : Session) (r : Except Failure α) : Prop :=
  ∃ entries, x s = (r, { s with journal := entries })

theorem Tells.gives {x : Act α} {s : Session} {a : α} (h : x.Tells s (.ok a)) : x.Gives s a := by
  obtain ⟨entries, hx⟩ := h
  exact ⟨_, hx, s.sameRecords_journal entries⟩

theorem tells_of_eq {x : Act α} {s : Session} {r : Except Failure α} (h : x s = (r, s)) :
    x.Tells s r := ⟨s.journal, h⟩

theorem tells_pure (a : α) (s : Session) : (pure a : Act α).Tells s (.ok a) := tells_of_eq rfl

theorem tells_ofJudgement (x : Criteria.Judgement α) (s : Session) :
    (ofJudgement x).Tells s x.run.value := ⟨_, rfl⟩

theorem Tells.bind {x : Act α} {f : α → Act β} {g : α → Except Failure β} {s : Session}
    {r : Except Failure α} (hx : x.Tells s r)
    (hf : ∀ a entries, r = .ok a → (f a).Tells { s with journal := entries } (g a)) :
    (x >>= f).Tells s (r >>= g) := by
  obtain ⟨entries, hx⟩ := hx
  cases r with
  | error e => exact ⟨entries, bind_of_error hx⟩
  | ok a =>
    obtain ⟨entries', hf⟩ := hf a entries rfl
    exact ⟨entries', (bind_of_ok hx).trans hf⟩

/-- Where one read answers, another one of the same kind does not fail for want of the store. -/
theorem read_elsewhere {call : StoreCall} {first : Option Value} {f : Store → Except Failure α}
    {g : Store → Except Failure β} {s s' : Session} {a : α} {b : β}
    (h : read call first f s = (.ok a, s)) (hout : s'.outages = s.outages) (hg : g s'.store = .ok b) :
    read call first g s' = (.ok b, s') := by
  have hsame : s'.outage? call first = s.outage? call first := by
    unfold Session.outage?
    rw [hout]
  unfold read at h ⊢
  rw [hsame]
  cases ho : s.outage? call first with
  | some e =>
    rw [ho] at h
    cases h
  | none => simp only [hg]

/-- A read that answers in one session answers the same wherever the tables are the same. -/
theorem tells_read {call : StoreCall} {first : Option Value} {f : Store → Except Failure α}
    {s s' : Session} {a : α} (h : read call first f s = (.ok a, s)) (hs : s.SameTables s') :
    (read call first f).Tells s' (.ok a) :=
  tells_of_eq (read_elsewhere h hs.outages (by rw [hs.store]; exact (read_returns h).1))

theorem gives_read {call : StoreCall} {first : Option Value} {f : Store → Except Failure α}
    {s s' : Session} {a : α} (h : read call first f s = (.ok a, s)) (hs : s.SameTables s') :
    (read call first f).Gives s' a := (tells_read h hs).gives

/-- The act leaves the session as it is whenever it ends with a value. -/
def Looks (x : Act α) : Prop := ∀ {s a s'}, x s = (.ok a, s') → s' = s

theorem looks_ofResult (x : Except Failure α) : (ofResult x).Looks := fun h => (ofResult_returns h).2

theorem looks_ask (f : Session → α) : (ask f).Looks := fun h => (ask_returns h).2

theorem looks_read (call : StoreCall) (first : Option Value) (f : Store → Except Failure α) :
    (read call first f).Looks := fun h => (read_returns h).2

theorem looks_bind {x : Act α} {f : α → Act β} (hx : x.Looks) (hf : ∀ a, (f a).Looks) :
    (x >>= f).Looks := by
  intro s b s' h
  obtain ⟨a, s₁, hxs, hfs⟩ := bind_returns h
  exact (hf a hfs).trans (hx hxs)

/-- A read ends alike in two sessions with the same outages if the store answers it alike. -/
theorem read_alike {call : StoreCall} {first : Option Value} {f : Store → Except Failure α}
    {s s' : Session} (hout : s'.outages = s.outages) (h : f s'.store = f s.store) :
    (read call first f s').1 = (read call first f s).1 := by
  unfold read Session.outage?
  rw [hout, h]
  cases (s.outages.find? (·.concerns call first)).map Outage.failure with
  | some e => rfl
  | none => cases f s.store <;> rfl

/-- A sequence that begins with looking ends alike in two sessions if both parts do. -/
theorem bind_alike {x : Act α} {f : α → Act β} {s s' : Session} (hx : x.Looks)
    (hvalue : (x s').1 = (x s).1) (hf : ∀ a, (x s).1 = .ok a → (f a s').1 = (f a s).1) :
    ((x >>= f) s').1 = ((x >>= f) s).1 := by
  rcases hxs : x s with ⟨r, s₁⟩
  rcases hxs' : x s' with ⟨r', s₁'⟩
  rw [hxs, hxs'] at hvalue
  obtain rfl : r' = r := hvalue
  cases r' with
  | error e => rw [bind_of_error hxs, bind_of_error hxs']
  | ok a =>
    obtain rfl := hx hxs
    obtain rfl := hx hxs'
    rw [bind_of_ok hxs, bind_of_ok hxs']
    exact hf a (by rw [hxs])

/-- One act after the other, each of which may use up some of what is left of a budget. -/
theorem mapM_within {γ : Type} {f : α → Act β} {m : γ → α} {g : γ → β} {k : γ → Nat}
    {I : Nat → Session → Prop} {l : List γ}
    (hf : ∀ c ∈ l, ∀ n s, I (k c + n) s → ∃ s', f (m c) s = (.ok (g c), s') ∧ I n s')
    {s : Session} (hs : I ((l.map k).foldr (· + ·) 0) s) :
    ∃ s', (l.map m).mapM f s = (.ok (l.map g), s') ∧ I 0 s' := by
  induction l generalizing s with
  | nil => exact ⟨s, rfl, hs⟩
  | cons c l ih =>
    obtain ⟨s₁, hc, hs₁⟩ := hf c List.mem_cons_self _ s hs
    obtain ⟨s₂, hl, hs₂⟩ := ih (fun x hx => hf x (.tail _ hx)) hs₁
    refine ⟨s₂, ?_, hs₂⟩
    rw [List.map_cons, List.mapM_cons, bind_of_ok hc, bind_of_ok hl]
    rfl

end Act

/-- None of the calls to the store fails that routing makes for a context. -/
structure Session.Answers (s : Session) (context : Context) : Prop where
  rules : ∃ rules, Act.getRules s = (.ok rules, s)
  rulesOfType : ∀ type ∈ Criteria.ruleTypes, ∃ rules, Act.getRulesOfType (.text type) s = (.ok rules, s)
  target : ∀ rule ∈ s.store.rules, ∃ i,
    Act.getInstance rule.targetId (.text context.targetType) s = (.ok i, s)
  syncTarget : ∀ id, context.syncTarget = some id → ∃ i,
    Act.getInstance id (.text context.targetType) s = (.ok i, s)
  standard : ∃ i, Act.getDefaultInstance context.targetType s = (.ok i, s)

end Watchgate
