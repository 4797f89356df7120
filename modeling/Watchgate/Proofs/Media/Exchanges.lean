import Watchgate.Proofs.Media.Browsing

/-!
# What is exchanged with other servers

A log holds the calls that an act sends, each with the reply that the network gives to it. What an act
does with the replies is stated as a relation between its log and its result, and such relations are
composed as acts are.
-/

namespace Watchgate

open Act

/-- Calls and the replies to them, in the order in which they were exchanged. -/
abbrev Log := List (Call × Reply)

/-- A network answers the calls of a log one after the other with the replies of the log. -/
inductive Network.Plays : Network → Log → Network → Prop where
  | nil (n : Network) : Plays n [] n
  | cons {n n' : Network} {log : Log} (c : Call) (rest : Plays (n.reply (key c)).2 log n') :
      Plays n ((c, (n.reply (key c)).1) :: log) n'

theorem Network.Plays.append {n n' n'' : Network} {log log' : Log} (h : n.Plays log n')
    (h' : n'.Plays log' n'') : n.Plays (log ++ log') n'' := by
  induction h with
  | nil => exact h'
  | cons c _ ih => exact .cons c (ih h')

/-- From one session to the next the calls of the log were sent, and its replies came back. -/
structure Session.Exchanged (s : Session) (log : Log) (s' : Session) : Prop where
  calls : s'.calls = s.calls ++ log.map Prod.fst
  plays : s.network.Plays log s'.network

namespace Session.Exchanged

variable {s s' s'' : Session} {log log' : Log}

theorem nothing (hc : s'.calls = s.calls) (hn : s'.network = s.network) : s.Exchanged [] s' :=
  ⟨by simp [hc], by rw [hn]; exact .nil _⟩

theorem refl (s : Session) : s.Exchanged [] s := nothing rfl rfl

theorem trans (h : s.Exchanged log s') (h' : s'.Exchanged log' s'') :
    s.Exchanged (log ++ log') s'' :=
  ⟨by simp [h'.calls, h.calls], h.plays.append h'.plays⟩

end Session.Exchanged

namespace Act

variable {α β : Type}

/-- Wherever the act is run, its log and its result are related by `P`. -/
def Exchanges (x : Act α) (P : Log → Except Failure α → Prop) : Prop :=
  ∀ s : Session, ∃ log, s.Exchanged log (x s).2 ∧ P log (x s).1

theorem Exchanges.mono {x : Act α} {P Q : Log → Except Failure α → Prop} (h : x.Exchanges P)
    (hpq : ∀ log r, P log r → Q log r) : x.Exchanges Q := by
  intro s
  obtain ⟨log, hlog, hp⟩ := h s
  exact ⟨log, hlog, hpq _ _ hp⟩

/-- The log of two acts is that of the first and, unless it failed, that of the second. -/
theorem Exchanges.bind {x : Act α} {f : α → Act β} {P : Log → Except Failure α → Prop}
    {Q : α → Log → Except Failure β → Prop} (hx : x.Exchanges P) (hf : ∀ a, (f a).Exchanges (Q a)) :
    (x >>= f).Exchanges fun log r =>
      (∃ e, r = .error e ∧ P log (.error e)) ∨
        ∃ a log₁ log₂, log = log₁ ++ log₂ ∧ P log₁ (.ok a) ∧ Q a log₂ r := by
  intro s
  obtain ⟨log₁, h₁, hp⟩ := hx s
  rcases hs : x s with ⟨e | a, s₁⟩
  · rw [hs] at h₁ hp
    rw [bind_of_error hs]
    exact ⟨log₁, h₁, .inl ⟨e, rfl, hp⟩⟩
  · rw [hs] at h₁ hp
    rw [bind_of_ok hs]
    obtain ⟨log₂, h₂, hq⟩ := hf a s₁
    exact ⟨log₁ ++ log₂, h₁.trans h₂, .inr ⟨a, log₁, log₂, rfl, hp, hq⟩⟩

theorem exchanges_ofResult (x : Except Failure α) :
    (ofResult x).Exchanges fun log r => log = [] ∧ r = x :=
  fun s => ⟨[], .refl s, rfl, rfl⟩

theorem exchanges_pure (a : α) : (pure a : Act α).Exchanges fun log r => log = [] ∧ r = .ok a :=
  exchanges_ofResult (.ok a)

theorem exchanges_throw (e : Failure) :
    (throw e : Act α).Exchanges fun log r => log = [] ∧ r = .error e :=
  exchanges_ofResult (.error e)

theorem exchanges_note (level : Level) (text : String) :
    (note level text).Exchanges fun log r => log = [] ∧ r = .ok () :=
  fun _ => ⟨[], .nothing rfl rfl, rfl, rfl⟩

theorem exchanges_send (c : Call) :
    (send c).Exchanges fun log r => ∃ reply, log = [(c, reply)] ∧ r = .ok reply :=
  fun s => ⟨[(c, (s.network.reply (Network.key c)).1)], ⟨rfl, .cons c (.nil _)⟩, _, rfl, rfl⟩

theorem exchanges_clientFor (i : Instance) :
    (clientFor i).Exchanges fun log r => log = [] ∧ ∃ c, r = .ok c := by
  intro s
  refine ⟨[], ?_, rfl, ?_⟩
  all_goals
    unfold clientFor
    split
  · exact .refl s
  · exact .nothing rfl rfl
  · exact ⟨_, rfl⟩
  · exact ⟨_, rfl⟩

/-- What follows a value that is there without any calls. -/
theorem Exchanges.after {x : Act α} {f : α → Act β} {a : α} {P : Log → Except Failure β → Prop}
    (hx : x.Exchanges fun log r => log = [] ∧ r = .ok a) (hf : (f a).Exchanges P) :
    (x >>= f).Exchanges P := by
  intro s
  obtain ⟨log₁, h₁, rfl, hr⟩ := hx s
  rcases hs : x s with ⟨r, s₁⟩
  rw [hs] at h₁ hr
  obtain rfl : r = .ok a := hr
  rw [bind_of_ok hs]
  obtain ⟨log₂, h₂, hp⟩ := hf s₁
  exact ⟨log₂, h₁.trans h₂, hp⟩

theorem Exchanges.map {x : Act α} {P : Log → Except Failure α → Prop} (hx : x.Exchanges P)
    (f : α → β) : (f <$> x).Exchanges fun log r => ∃ r', P log r' ∧ r = r'.map f := by
  intro s
  obtain ⟨log, hlog, hp⟩ := hx s
  rw [map_of_eq f (Prod.ext rfl rfl : x s = ((x s).1, (x s).2))]
  exact ⟨log, hlog, (x s).1, hp, rfl⟩

/-- The log of an act and, if it failed, that of what is done after the failure. -/
theorem Exchanges.tryCatch {x : Act α} {f : Failure → Act α} {P : Log → Except Failure α → Prop}
    {Q : Failure → Log → Except Failure α → Prop} (hx : x.Exchanges P)
    (hf : ∀ e, (f e).Exchanges (Q e)) :
    (tryCatch x f : Act α).Exchanges fun log r =>
      (∃ a, r = .ok a ∧ P log (.ok a)) ∨
        ∃ e log₁ log₂, log = log₁ ++ log₂ ∧ P log₁ (.error e) ∧ Q e log₂ r := by
  intro s
  obtain ⟨log₁, h₁, hp⟩ := hx s
  rw [tryCatch_apply]
  rcases hs : x s with ⟨e | a, s₁⟩
  · rw [hs] at h₁ hp
    obtain ⟨log₂, h₂, hq⟩ := hf e s₁
    exact ⟨log₁ ++ log₂, h₁.trans h₂, .inr ⟨e, log₁, log₂, rfl, hp, hq⟩⟩
  · rw [hs] at h₁ hp
    exact ⟨log₁, h₁, .inl ⟨a, rfl, hp⟩⟩

/-- What is caught is noted, and anything else is passed on. -/
theorem exchanges_catch (isCaught : Bool) (level : Level) (text : String) (a : α) (e : Failure) :
    (if isCaught = true then do
        note level text
        return a
      else throw e : Act α).Exchanges
      fun log r => log = [] ∧ r = if isCaught then .ok a else .error e := by
  cases isCaught with
  | true => exact (exchanges_note level text).after (exchanges_pure a)
  | false => exact exchanges_throw e

/-! ## Acts without exchanges -/

/-- The act sends no calls. -/
def Silent (x : Act α) : Prop := x.Exchanges fun log _ => log = []

theorem Exchanges.silent {x : Act α} {P : Except Failure α → Prop}
    (hx : x.Exchanges fun log r => log = [] ∧ P r) : x.Silent := hx.mono fun _ _ h => h.1

theorem silent_pure (a : α) : (pure a : Act α).Silent := (exchanges_pure a).silent

theorem silent_read (call : StoreCall) (first : Option Value) (f : Store → Except Failure α) :
    (read call first f).Silent := by
  intro s
  refine ⟨[], ?_, rfl⟩
  unfold read
  cases s.outage? call first with
  | some e => exact .refl s
  | none =>
    cases f s.store with
    | ok a => exact .refl s
    | error e =>
      have hsame : (s.afterFailure e).calls = s.calls ∧ (s.afterFailure e).network = s.network := by
        unfold Session.afterFailure
        split <;> exact ⟨rfl, rfl⟩
      exact .nothing hsame.1 hsame.2

theorem Silent.bind {x : Act α} {f : α → Act β} (hx : x.Silent) (hf : ∀ a, (f a).Silent) :
    (x >>= f).Silent := by
  refine Exchanges.mono (Exchanges.bind hx hf) ?_
  rintro log r (⟨e, -, h⟩ | ⟨a, _, _, rfl, rfl, rfl⟩)
  · exact h
  · rfl

end Act

/-! ## Replies -/

namespace Reply

/-- The call is taken, with the value as answer. -/
def Accepts (r : Reply) (v : Value) : Prop :=
  ∃ status phrase body, r = .answer status phrase body ∧ ¬ (400 ≤ status ∧ status < 600) ∧
    Json.read body = .ok v

/-- The call is taken, but nothing can be made of the answer, not even that it is no JSON; or the call
could not be tried. -/
def Illegible (r : Reply) : Prop :=
  (∃ status phrase body e, r = .answer status phrase body ∧ ¬ (400 ≤ status ∧ status < 600) ∧
    Json.read body = .error e ∧ ∀ fault, e ≠ .json fault) ∨ ∃ e, r = .failed e

/-- What a client makes of a reply. -/
def content (url : String) (r : Reply) : Except Failure Value :=
  (Client.bodyOf url r).bind Client.readBody

theorem content_of_accepts {r : Reply} {v : Value} (h : r.Accepts v) (url : String) :
    r.content url = .ok v := by
  obtain ⟨status, phrase, body, rfl, hfine, hv⟩ := h
  simp [content, Client.bodyOf, hfine, Except.bind, Client.readBody, hv]

theorem Accepts.unique {r : Reply} {v v' : Value} (h : r.Accepts v) (h' : r.Accepts v') : v = v' :=
  Except.ok.inj ((r.content_of_accepts h "").symm.trans (r.content_of_accepts h' ""))

theorem content_cases (url : String) (r : Reply) :
    (∃ v, r.content url = .ok v ∧ r.Accepts v) ∨
      ∃ e, r.content url = .error e ∧ (∀ v, ¬ r.Accepts v) ∧
        ((∃ fault, e = .exchange fault) ∨ r.Illegible) := by
  cases r with
  | broken kind reason => exact .inr ⟨_, rfl, fun v h => by simp [Accepts] at h, .inl ⟨_, rfl⟩⟩
  | failed e => exact .inr ⟨_, rfl, fun v h => by simp [Accepts] at h, .inr (.inr ⟨e, rfl⟩)⟩
  | answer status phrase body =>
    by_cases hs : 400 ≤ status ∧ status < 600
    · have hrefused : (Reply.answer status phrase body).content url
          = .error (.exchange (.status status phrase url)) := by
        simp [content, Client.bodyOf, hs, Except.bind]
      refine .inr ⟨_, hrefused, ?_, .inl ⟨_, rfl⟩⟩
      rintro v ⟨_, _, _, heq, hfine, -⟩
      obtain ⟨rfl, -, -⟩ := Reply.answer.inj heq
      exact hfine hs
    · have hbody : (Reply.answer status phrase body).content url = Client.readBody body := by
        simp [content, Client.bodyOf, hs, Except.bind]
      rw [hbody]
      unfold Client.readBody
      cases hv : Json.read body with
      | ok v => exact .inl ⟨v, rfl, _, _, _, rfl, hs, hv⟩
      | error e =>
        have hnot : ∀ v, ¬ (Reply.answer status phrase body).Accepts v := by
          rintro v ⟨_, _, _, heq, -, hread⟩
          obtain ⟨-, -, rfl⟩ := Reply.answer.inj heq
          cases hv.symm.trans hread
        cases e with
        | json fault => exact .inr ⟨_, rfl, hnot, .inl ⟨_, rfl⟩⟩
        | _ => exact .inr ⟨_, rfl, hnot, .inr (.inl ⟨_, _, _, _, rfl, hs, hv, nofun⟩)⟩

end Reply

namespace Client

/-- A request is one exchange, and its result is what the reply holds. -/
theorem exchanges_request (c : Client) (call : Call) :
    (c.request call).Exchanges fun log r =>
      ∃ reply, log = [(call, reply)] ∧ r = reply.content call.url := by
  have hnote : ∀ e, (c.noteFailure call e).Exchanges fun log r => log = [] ∧ r = .ok () := by
    intro e
    unfold noteFailure
    split
    · exact exchanges_note _ _
    · exact exchanges_pure ()
  have hsent := exchanges_send call
  refine (hsent.bind (Q := fun reply log r => log = [] ∧ r = reply.content call.url) ?_).mono ?_
  · intro reply
    unfold Reply.content
    cases bodyOf call.url reply with
    | ok body => exact exchanges_ofResult _
    | error e => exact (hnote e).after (exchanges_throw e)
  rintro log r (⟨e, -, reply, -, he⟩ | ⟨reply, log₁, log₂, rfl, ⟨reply', rfl, hreply⟩, rfl, hr⟩)
  · cases he
  · obtain rfl := Except.ok.inj hreply
    exact ⟨reply, by simp, hr⟩

end Client

end Watchgate
