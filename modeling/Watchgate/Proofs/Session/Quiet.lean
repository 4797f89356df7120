import Watchgate.Session.Tables

/-!
# Quiet acts

What the service keeps account of is the store, the clock, the outages and the attempts to add
content. An act is quiet if it leaves all of these as they are, whether it ends with a value or with
a failure; it may write into the journal, talk to other servers and connect to instances. Quiet acts
are closed under everything that acts are built with, so that each larger act is quiet because its
parts are. Nothing is said here about the values that acts end with.
-/

namespace Watchgate

/-- Every exchange ends with an answer or breaks off; none goes wrong before it is tried. -/
def Network.Ordinary (n : Network) : Prop := ∀ e ∈ n, ∀ r ∈ e.2, ∀ f, r ≠ Reply.failed f

/-- Every reply that is left after some exchanges was there before them, at the same address. -/
def Network.Leaves (n n' : Network) : Prop := ∀ e' ∈ n', ∃ e ∈ n, e.1 = e'.1 ∧ e'.2 ⊆ e.2

namespace Network

theorem Leaves.refl (n : Network) : n.Leaves n := fun e he => ⟨e, he, rfl, List.Subset.refl _⟩

theorem Leaves.trans {n n' n'' : Network} (h : n.Leaves n') (h' : n'.Leaves n'') : n.Leaves n'' := by
  intro e'' he''
  obtain ⟨e', he', haddress', hreplies'⟩ := h' e'' he''
  obtain ⟨e, he, haddress, hreplies⟩ := h e' he'
  exact ⟨e, he, haddress.trans haddress', List.Subset.trans hreplies' hreplies⟩

theorem Leaves.ordinary {n n' : Network} (h : n.Leaves n') (ho : n.Ordinary) : n'.Ordinary := by
  intro e' he' r hr
  obtain ⟨e, he, -, hreplies⟩ := h e' he'
  exact ho e he r (hreplies hr)

end Network

/-- Two sessions with the same store, clock and outages; exchanges may have come between them. -/
structure Session.SameTables (s s' : Session) : Prop where
  store : s'.store = s.store
  now : s'.now = s.now
  outages : s'.outages = s.outages
  network : s.network.Leaves s'.network

/-- Two sessions with the same store, clock, outages and attempts. -/
structure Session.SameRecords (s s' : Session) : Prop extends s.SameTables s' where
  attempts : s'.attempts = s.attempts

namespace Session

theorem SameTables.refl (s : Session) : s.SameTables s := ⟨rfl, rfl, rfl, .refl _⟩

theorem SameTables.trans {s s' s'' : Session} (h : s.SameTables s') (h' : s'.SameTables s'') :
    s.SameTables s'' :=
  ⟨h'.store.trans h.store, h'.now.trans h.now, h'.outages.trans h.outages,
    h.network.trans h'.network⟩

theorem SameRecords.refl (s : Session) : s.SameRecords s := ⟨.refl s, rfl⟩

theorem SameRecords.trans {s s' s'' : Session} (h : s.SameRecords s') (h' : s'.SameRecords s'') :
    s.SameRecords s'' :=
  ⟨h.toSameTables.trans h'.toSameTables, h'.attempts.trans h.attempts⟩

/-- An entry in the journal changes no record. -/
theorem sameRecords_journal (s : Session) (entries : List Entry) :
    s.SameRecords { s with journal := entries } := ⟨⟨rfl, rfl, rfl, .refl _⟩, rfl⟩

theorem sameRecords_afterFailure (s : Session) (e : Failure) : s.SameRecords (s.afterFailure e) := by
  unfold afterFailure
  split
  · exact sameRecords_journal s _
  · exact .refl s

end Session

namespace Act

variable {α β γ : Type}

theorem id_map (x : Act α) : id <$> x = x := by
  funext s
  change (x >>= fun a => pure a) s = x s
  rw [bind_apply]
  rcases x s with ⟨_ | _, _⟩ <;> rfl

theorem bind_assoc (x : Act α) (f : α → Act β) (g : β → Act γ) :
    x >>= f >>= g = x >>= fun a => f a >>= g := by
  funext s
  simp only [bind_apply]
  rcases x s with ⟨_ | _, _⟩ <;> rfl

instance : LawfulMonad Act := LawfulMonad.mk' Act id_map (fun _ _ => rfl) bind_assoc

/-- A sequence either goes on with the value of its first act or ends with that act's failure. -/
theorem bind_cases (x : Act α) (f : α → Act β) (s : Session) :
    (∃ a s', x s = (.ok a, s') ∧ (x >>= f) s = f a s') ∨
      ∃ e s', x s = (.error e, s') ∧ (x >>= f) s = (.error e, s') := by
  rcases hx : x s with ⟨e | a, s'⟩
  · exact .inr ⟨e, s', rfl, bind_of_error hx⟩
  · exact .inl ⟨a, s', rfl, bind_of_ok hx⟩

/-- A sequence succeeds only if each of its acts does. -/
theorem bind_returns {x : Act α} {f : α → Act β} {s s' : Session} {b : β}
    (h : (x >>= f) s = (.ok b, s')) : ∃ a s₁, x s = (.ok a, s₁) ∧ f a s₁ = (.ok b, s') := by
  rcases bind_cases x f s with ⟨a, s₁, hx, hb⟩ | ⟨e, s₁, -, hb⟩
  · exact ⟨a, s₁, hx, hb.symm.trans h⟩
  · rw [hb] at h
    cases h

/-- A sequence fails because its first act does, or what comes after it. -/
theorem bind_fails {x : Act α} {f : α → Act β} {s s' : Session} {e : Failure}
    (h : (x >>= f) s = (.error e, s')) :
    x s = (.error e, s') ∨ ∃ a s₁, x s = (.ok a, s₁) ∧ f a s₁ = (.error e, s') := by
  rcases bind_cases x f s with ⟨a, s₁, hx, hb⟩ | ⟨e', s₁, hx, hb⟩
  · exact .inr ⟨a, s₁, hx, hb.symm.trans h⟩
  · obtain ⟨he, hs⟩ := Prod.mk.inj (hb.symm.trans h)
    rw [← Except.error.inj he, ← hs]
    exact .inl hx

theorem pure_returns {a b : α} {s s' : Session} (h : (pure a : Act α) s = (.ok b, s')) :
    a = b ∧ s' = s := by
  obtain ⟨hv, hs⟩ := Prod.mk.inj h
  exact ⟨Except.ok.inj hv, hs.symm⟩

theorem ask_returns {f : Session → α} {s s' : Session} {a : α} (h : ask f s = (.ok a, s')) :
    f s = a ∧ s' = s := by
  obtain ⟨hv, hs⟩ := Prod.mk.inj h
  exact ⟨Except.ok.inj hv, hs.symm⟩

theorem ofResult_returns {x : Except Failure α} {s s' : Session} {a : α}
    (h : ofResult x s = (.ok a, s')) : x = .ok a ∧ s' = s := by
  obtain ⟨hv, hs⟩ := Prod.mk.inj h
  exact ⟨hv, hs.symm⟩

theorem map_apply (f : α → β) (x : Act α) (s : Session) :
    (f <$> x) s = match x s with
      | (.ok a, s) => (.ok (f a), s)
      | (.error e, s) => (.error e, s) := by
  rw [map_eq_pure_bind, bind_apply]
  rfl

theorem map_of_eq (f : α → β) {x : Act α} {s s' : Session} {r : Except Failure α}
    (h : x s = (r, s')) : (f <$> x) s = (r.map f, s') := by
  rw [map_apply, h]
  cases r <;> rfl

theorem tryCatch_apply (x : Act α) (f : Failure → Act α) (s : Session) :
    (tryCatch x f : Act α) s = match x s with
      | (.ok a, s) => (.ok a, s)
      | (.error e, s) => f e s := rfl

/-- The act changes none of the records. -/
def Quiet (x : Act α) : Prop := ∀ s : Session, s.SameRecords (x s).2

theorem Quiet.of_eq {x : Act α} (h : x.Quiet) {s s' : Session} {r : Except Failure α}
    (hx : x s = (r, s')) : s.SameRecords s' := by
  have := h s
  rwa [hx] at this

theorem quiet_pure (a : α) : (pure a : Act α).Quiet := fun s => .refl s

theorem quiet_throw (e : Failure) : (throw e : Act α).Quiet := fun s => .refl s

theorem quiet_ofResult (x : Except Failure α) : (ofResult x).Quiet := fun s => .refl s

theorem quiet_ask (f : Session → α) : (ask f).Quiet := fun s => .refl s

theorem quiet_note (level : Level) (text : String) : (note level text).Quiet := fun s =>
  s.sameRecords_journal _

theorem quiet_ofJudgement (x : Criteria.Judgement α) : (ofJudgement x).Quiet := fun s =>
  s.sameRecords_journal _

theorem quiet_bind {x : Act α} {f : α → Act β} (hx : x.Quiet) (hf : ∀ a, (f a).Quiet) :
    (x >>= f).Quiet := by
  intro s
  rcases bind_cases x f s with ⟨a, s', h, hb⟩ | ⟨e, s', h, hb⟩
  · rw [hb]
    exact (hx.of_eq h).trans (hf a s')
  · rw [hb]
    exact hx.of_eq h

/-- A quiet act that comes last changes no record either. -/
theorem sameRecords_bind {x : Act α} {f : α → Act β} (hf : ∀ a, (f a).Quiet) (s : Session) :
    (x s).2.SameRecords ((x >>= f) s).2 := by
  rcases bind_cases x f s with ⟨a, s', h, hb⟩ | ⟨e, s', h, hb⟩
  · rw [h, hb]
    exact hf a s'
  · rw [h, hb]
    exact .refl s'

theorem quiet_map {x : Act α} (f : α → β) (hx : x.Quiet) : (f <$> x).Quiet := by
  rw [map_eq_pure_bind]
  exact quiet_bind hx fun a => quiet_pure _

theorem quiet_tryCatch {x : Act α} {f : Failure → Act α} (hx : x.Quiet) (hf : ∀ e, (f e).Quiet) :
    (tryCatch x f : Act α).Quiet := by
  intro s
  rw [tryCatch_apply]
  rcases h : x s with ⟨e | a, s'⟩
  · exact (hx.of_eq h).trans (hf e s')
  · exact hx.of_eq h

theorem quiet_ite {c : Prop} [Decidable c] {x y : Act α} (hx : x.Quiet) (hy : y.Quiet) :
    (if c then x else y).Quiet := by
  split
  · exact hx
  · exact hy

/-- The act changes no table; it may attempt to add content. -/
def KeepsTables (x : Act α) : Prop := ∀ s : Session, s.SameTables (x s).2

theorem Quiet.keepsTables {x : Act α} (h : x.Quiet) : x.KeepsTables := fun s => (h s).toSameTables

theorem KeepsTables.of_eq {x : Act α} (h : x.KeepsTables) {s s' : Session} {r : Except Failure α}
    (hx : x s = (r, s')) : s.SameTables s' := by
  have := h s
  rwa [hx] at this

theorem keepsTables_bind {x : Act α} {f : α → Act β} (hx : x.KeepsTables)
    (hf : ∀ a, (f a).KeepsTables) : (x >>= f).KeepsTables := by
  intro s
  rcases bind_cases x f s with ⟨a, s', h, hb⟩ | ⟨e, s', h, hb⟩
  · rw [hb]
    exact (hx.of_eq h).trans (hf a s')
  · rw [hb]
    exact hx.of_eq h

/-- A read either fails or answers from the store; it never changes a record. -/
theorem read_cases (call : StoreCall) (first : Option Value) (f : Store → Except Failure α)
    (s : Session) :
    (∃ a, f s.store = .ok a ∧ read call first f s = (.ok a, s)) ∨
      ∃ e s', read call first f s = (.error e, s') ∧ s.SameRecords s' := by
  unfold read
  cases s.outage? call first with
  | some e => exact .inr ⟨e, s, rfl, .refl s⟩
  | none =>
    cases f s.store with
    | ok a => exact .inl ⟨a, rfl, rfl⟩
    | error e => exact .inr ⟨e, _, rfl, s.sameRecords_afterFailure e⟩

theorem read_returns {call : StoreCall} {first : Option Value} {f : Store → Except Failure α}
    {s s' : Session} {a : α} (h : read call first f s = (.ok a, s')) :
    f s.store = .ok a ∧ s' = s := by
  rcases read_cases call first f s with ⟨b, hf, hr⟩ | ⟨e, s₁, hr, -⟩
  · obtain ⟨hb, hs⟩ := Prod.mk.inj (hr.symm.trans h)
    exact ⟨hf.trans hb, hs.symm⟩
  · cases hr.symm.trans h

/-- A read whose answer is put differently is a read. -/
theorem read_bind_pure (call : StoreCall) (first : Option Value) (f : Store → Except Failure α)
    (g : α → β) :
    (read call first f >>= fun a => pure (g a)) = read call first fun s => (f s).map g := by
  funext s
  rw [bind_apply]
  unfold read
  cases s.outage? call first with
  | some e => rfl
  | none =>
    dsimp only
    cases f s.store <;> rfl

/-- A write either fails without effect or replaces the store. -/
theorem write_cases (call : StoreCall) (first : Option Value)
    (f : Store → Except Failure (α × Store)) (s : Session) :
    (∃ a store, f s.store = .ok (a, store) ∧ write call first f s = (.ok a, { s with store })) ∨
      ∃ e s', write call first f s = (.error e, s') ∧ s.SameRecords s' := by
  unfold write
  cases s.outage? call first with
  | some e => exact .inr ⟨e, s, rfl, .refl s⟩
  | none =>
    rcases f s.store with e | ⟨a, store⟩
    · exact .inr ⟨e, _, rfl, s.sameRecords_afterFailure e⟩
    · exact .inl ⟨a, store, rfl, rfl⟩

/-- A write that succeeds in one session succeeds alike wherever the tables are the same. -/
theorem write_of_same {call : StoreCall} {first : Option Value}
    {f : Store → Except Failure (α × Store)} {s s' : Session} {a : α}
    (h : (write call first f s).1 = .ok a) (hs : s.SameTables s') :
    ∃ store, f s'.store = .ok (a, store) ∧ write call first f s' = (.ok a, { s' with store }) := by
  have hout : s'.outage? call first = s.outage? call first := by
    unfold Session.outage?
    rw [hs.outages]
  rcases write_cases call first f s with ⟨b, store, hstore, hw⟩ | ⟨e, s₁, hw, -⟩
  · rw [hw] at h
    obtain rfl := Except.ok.inj h
    refine ⟨store, by rw [hs.store, hstore], ?_⟩
    unfold write at hw ⊢
    rw [hout, hs.store]
    cases ho : s.outage? call first with
    | some e =>
      rw [ho] at hw
      cases hw
    | none => simp only [hstore]
  · rw [hw] at h
    cases h

/-- A write before an act that is quiet replaces the store, or it fails and so does the whole. -/
theorem written_cases {call : StoreCall} {first : Option Value}
    {f : Store → Except Failure (α × Store)} {k : α → Act β} (hk : ∀ a, (k a).Quiet)
    {s s' : Session} {r : Except Failure β} (h : (write call first f >>= k) s = (r, s')) :
    (∃ a store, f s.store = .ok (a, store) ∧ ({ s with store } : Session).SameRecords s') ∨
      s.SameRecords s' := by
  rcases write_cases call first f s with ⟨a, store, hstore, hw⟩ | ⟨e, s₁, hw, hs⟩
  · rw [bind_of_ok hw] at h
    exact .inl ⟨a, store, hstore, (hk a).of_eq h⟩
  · rw [bind_of_error hw] at h
    obtain ⟨-, rfl⟩ := Prod.mk.inj h
    exact .inr hs

/-- The act makes no attempt to add content; it may change tables. -/
def KeepsAttempts (x : Act α) : Prop := ∀ s : Session, (x s).2.attempts = s.attempts

theorem Quiet.keepsAttempts {x : Act α} (h : x.Quiet) : x.KeepsAttempts := fun s => (h s).attempts

theorem KeepsAttempts.of_eq {x : Act α} (h : x.KeepsAttempts) {s s' : Session} {r : Except Failure α}
    (hx : x s = (r, s')) : s'.attempts = s.attempts := by
  have := h s
  rwa [hx] at this

theorem keepsAttempts_bind {x : Act α} {f : α → Act β} (hx : x.KeepsAttempts)
    (hf : ∀ a, (f a).KeepsAttempts) : (x >>= f).KeepsAttempts := by
  intro s
  rcases bind_cases x f s with ⟨a, s', h, hb⟩ | ⟨e, s', h, hb⟩
  · rw [hb]
    exact (hf a s').trans (hx.of_eq h)
  · rw [hb]
    exact hx.of_eq h

theorem keepsAttempts_write (call : StoreCall) (first : Option Value)
    (f : Store → Except Failure (α × Store)) : (write call first f).KeepsAttempts := by
  intro s
  rcases write_cases call first f s with ⟨a, store, -, h⟩ | ⟨e, s', h, hs⟩
  · rw [h]
  · rw [h]
    exact hs.attempts

theorem quiet_read (call : StoreCall) (first : Option Value) (f : Store → Except Failure α) :
    (read call first f).Quiet := by
  intro s
  rcases read_cases call first f s with ⟨a, -, h⟩ | ⟨e, s', h, hs⟩
  · rw [h]
    exact .refl s
  · rw [h]
    exact hs

theorem outage?_nil {s : Session} (h : s.outages = []) (call : StoreCall) (first : Option Value) :
    s.outage? call first = none := by
  simp [Session.outage?, h]

/-- Where nothing is out of order a read answers whatever the store answers. -/
theorem read_of_ok {call : StoreCall} {first : Option Value} {f : Store → Except Failure α}
    {s : Session} {a : α} (ho : s.outages = []) (h : f s.store = .ok a) :
    read call first f s = (.ok a, s) := by
  simp [read, outage?_nil ho, h]

/-- Where nothing is out of order a write does whatever it does to the store. -/
theorem write_of_ok {call : StoreCall} {first : Option Value}
    {f : Store → Except Failure (α × Store)} {s : Session} {a : α} {store : Store}
    (ho : s.outages = []) (h : f s.store = .ok (a, store)) :
    write call first f s = (.ok a, { s with store }) := by
  simp [write, outage?_nil ho, h]

/-- An operation that counts the rows it changes notes the number, unless there are none. -/
theorem counted_eq {x : Act Nat} {s s' : Session} {n : Nat} (hx : x s = (.ok n, s'))
    (text : Nat → String) :
    ∃ entries, (n = 0 → entries = []) ∧
      (do
        let n ← x
        if n ≠ 0 then Act.info (text n)
        return n : Act Nat) s = (.ok n, { s' with journal := s'.journal ++ entries }) := by
  by_cases hn : n = 0
  · refine ⟨[], fun _ => rfl, ?_⟩
    rw [bind_of_ok hx]
    simp [hn]
  · refine ⟨[⟨.info, text n⟩], fun h => absurd h hn, ?_⟩
    rw [bind_of_ok hx, if_pos hn]
    rfl

end Act

end Watchgate
