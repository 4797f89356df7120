import Watchgate.Proofs.Checks
import Watchgate.Proofs.Session.Quiet
import Watchgate.Web.Routes

/-!
# Messages that are turned away

A message that does not carry the token learns nothing: what it is answered, and what is noted about
it, depends on the message and the settings alone. Such acts are called blind. They are closed under
the steps that the web interface is made of, so that it suffices to see that a message without the
token never gets as far as to an act that looks at the session.
-/

namespace Watchgate

namespace Act

variable {α β : Type}

/-- The act ends alike in every session, and all it does there is to add the same notes to the
journal. -/
def Blind (x : Act α) : Prop :=
  ∃ (r : Except Failure α) (notes : List Entry),
    ∀ s : Session, x s = (r, { s with journal := s.journal ++ notes })

theorem blind_ofResult (x : Except Failure α) : (ofResult x).Blind :=
  ⟨x, [], fun s => by rw [List.append_nil]; rfl⟩

theorem blind_pure (a : α) : (pure a : Act α).Blind := blind_ofResult (.ok a)

theorem blind_note (level : Level) (text : String) : (note level text).Blind :=
  ⟨.ok (), [⟨level, text⟩], fun _ => rfl⟩

theorem blind_bind {x : Act α} {f : α → Act β} (hx : x.Blind) (hf : ∀ a, (f a).Blind) :
    (x >>= f).Blind := by
  obtain ⟨r, notes, hx⟩ := hx
  cases r with
  | error e => exact ⟨.error e, notes, fun s => bind_of_error (hx s)⟩
  | ok a =>
    obtain ⟨r', notes', hf⟩ := hf a
    refine ⟨r', notes ++ notes', fun s => ?_⟩
    rw [bind_of_ok (hx s), hf, List.append_assoc]

end Act

namespace Web

open Act

variable {service : Service} {m : Message}

/-- The message brings a token along: in its header or, if it is a submission, among the headers in
its body. Blanks around what was sent do not count. -/
def Carries (m : Message) (token : String) : Prop :=
  (∃ s, m.header? "X-Webhook-Token" = some s ∧ Text.trim s = token) ∨
    m.path = "/webhook" ∧ ∃ headers name s, m.value.get "headers" = .map headers ∧
      name ∈ tokenNames ∧ Entries.get headers name = .text s ∧ Text.trim s = token

/-! ## The token that is found -/

/-- A value that counts as true was found under one of the names. -/
theorem firstTruthy_mem {entries : Entries} {names : List String} {s : String}
    (h : firstTruthy entries names = .text s) (hs : s ≠ "") :
    ∃ name ∈ names, Entries.get entries name = .text s := by
  unfold firstTruthy at h
  cases hf : (names.map (Entries.get entries)).find? Value.truthy with
  | none =>
    rw [hf] at h
    exact absurd (Value.text.inj h).symm hs
  | some v =>
    rw [hf] at h
    obtain rfl : v = .text s := h
    exact List.mem_map.1 (List.mem_of_find?_eq_some hf)

/-- A token that is found in a body stands there. -/
theorem tokenInBody_ok {body : Value} {t : String} (h : tokenInBody body = .ok t) (ht : t ≠ "") :
    ∃ headers name s, body.get "headers" = .map headers ∧ name ∈ tokenNames ∧
      Entries.get headers name = .text s ∧ Text.trim s = t := by
  unfold tokenInBody at h
  split at h
  case h_1 headers hb =>
    split at h
    case h_1 s hs =>
      obtain rfl : Text.trim s = t := Except.ok.inj h
      have hne : s ≠ "" := by
        rintro rfl
        exact ht rfl
      obtain ⟨name, hn, hget⟩ := firstTruthy_mem hs hne
      exact ⟨headers, name, s, hb, hn, hget, rfl⟩
    case h_2 => cases h
  case h_2 => exact absurd (Except.ok.inj h).symm ht

/-- The token that a message carries stands in its header or in the body. -/
theorem tokenOf_ok {body : Value} {t : String} (h : tokenOf m body = .ok t) (ht : t ≠ "") :
    (∃ s, m.header? "X-Webhook-Token" = some s ∧ Text.trim s = t) ∨ tokenInBody body = .ok t := by
  unfold tokenOf at h
  dsimp only at h
  split at h
  · exact .inr h
  · obtain h := Except.ok.inj h
    cases hh : m.header? "X-Webhook-Token" with
    | none =>
      rw [hh] at h
      exact absurd h.symm ht
    | some s =>
      rw [hh] at h
      exact .inl ⟨s, rfl, h⟩

theorem sameToken_true {a b : String} (h : sameToken a b = .ok true) : a = b := by
  unfold sameToken at h
  split at h
  · exact of_decide_eq_true (Except.ok.inj h)
  · cases h

/-- A message that is let in brings the token along, and no empty one. -/
theorem isAuthorised_true (ht : service.token.truthy = true) {body : Value}
    (h : isAuthorised service m body = .ok true) :
    tokenOf m body = .ok service.token.display ∧ service.token.display ≠ "" := by
  unfold isAuthorised at h
  rw [ht] at h
  obtain ⟨sent, hsent, h⟩ := ok_of_bind (x := tokenOf m body) h
  split at h
  · cases h
  · rename_i hne
    rw [← sameToken_true h]
    exact ⟨hsent, fun h0 => hne (by rw [h0]; rfl)⟩

/-- A message that is let in carries the token; it may be looked for in the body if that is a
submission. -/
theorem carries_of_isAuthorised (ht : service.token.truthy = true) {body : Value}
    (hbody : body = .null ∨ m.path = "/webhook" ∧ body = m.value)
    (h : isAuthorised service m body = .ok true) : Carries m service.token.display := by
  obtain ⟨htoken, hne⟩ := isAuthorised_true ht h
  rcases tokenOf_ok htoken hne with hheader | hin
  · exact .inl hheader
  · obtain ⟨headers, name, s, hget, hrest⟩ := tokenInBody_ok hin hne
    rcases hbody with rfl | ⟨hp, rfl⟩
    · cases hget
    · exact .inr ⟨hp, headers, name, s, hget, hrest⟩

/-! ## What comes of it -/

/-- Every failure is answered. -/
theorem answerFailure_answers (m : Message) (e : Failure) :
    ∃ (answer : Answer) (notes : List Entry),
      ∀ s : Session, answerFailure m e s = (.ok answer, { s with journal := s.journal ++ notes }) := by
  cases e with
  | storage f => exact ⟨_, _, fun _ => rfl⟩
  | _ => exact ⟨_, [], fun s => by rw [List.append_nil]; rfl⟩

/-- A check of the token that a message without it cannot pass. -/
theorem blind_unless {x : Except Failure Bool} (hx : x ≠ .ok true) (text : String) (k : Act Answer) :
    (Act.ofResult x >>= fun passes =>
      if !passes then Act.warning text >>= fun _ => pure unauthorised else k).Blind := by
  cases x with
  | error e => exact ⟨.error e, [], fun s => by rw [List.append_nil]; rfl⟩
  | ok passes =>
    cases passes with
    | true => exact absurd rfl hx
    | false =>
      show (Act.warning text >>= fun _ => pure unauthorised).Blind
      exact blind_bind (blind_note _ _) fun _ => blind_pure _

theorem blind_webhook (h : isAuthorised service m m.value ≠ .ok true) :
    (webhook service m).Blind := blind_unless h _ _

/-- At the address for submissions nothing but a submission gets past the method. -/
theorem blind_dispatch (hp : m.path = "/webhook") (h : isAuthorised service m m.value ≠ .ok true) :
    (dispatch service m).Blind := by
  have hplace : placeOf? ((splitAt '/' m.path.toList).map String.ofList) = some .webhook := by
    rw [hp]
    decide
  unfold dispatch
  rw [hplace]
  dsimp only
  split
  · exact blind_webhook h
  · split
    · exact blind_pure _
    · split
      · rename_i hget
        simp [Place.method] at hget
      · exact blind_pure _

theorem blind_admitOrTurnAway (ht : service.token.truthy = true)
    (hp : m.path = "/webhook" ∨ isProtected m.path = true)
    (hc : ¬ Carries m service.token.display) : (admitOrTurnAway service m).Blind := by
  unfold admitOrTurnAway
  rcases hp with hp | hp
  · have hopen : isProtected m.path = false := by
      rw [hp]
      decide +kernel
    rw [hopen]
    exact blind_dispatch hp fun h => hc (carries_of_isAuthorised ht (.inr ⟨hp, rfl⟩) h)
  · rw [hp]
    exact blind_unless (fun h => hc (carries_of_isAuthorised ht (.inl rfl) h)) _ _

/-- A message without the token, to a place that asks for it, changes no table and makes no call. All
it does is to add notes to the journal, and it is answered the same whatever is in the session. -/
theorem handle_unauthorised (service : Service) (m : Message) (ht : service.token.truthy = true)
    (hp : m.path = "/webhook" ∨ isProtected m.path = true)
    (hc : ¬ Carries m service.token.display) :
    ∃ (answer : Answer) (notes : List Entry),
      ∀ s : Session, handle service m s = (.ok answer, { s with journal := s.journal ++ notes }) := by
  obtain ⟨r, notes, h⟩ := blind_admitOrTurnAway ht hp hc
  unfold handle
  cases r with
  | ok answer => exact ⟨answer, notes, fun s => by rw [tryCatch_apply, h]⟩
  | error e =>
    obtain ⟨answer, notes', h'⟩ := answerFailure_answers m e
    refine ⟨answer, notes ++ notes', fun s => ?_⟩
    rw [tryCatch_apply, h]
    dsimp only
    rw [h', List.append_assoc]

/-- A list of the requests that wait is asked for with a wrong token. -/
theorem handle_unauthorised_approvals :
    let service : Service := { token := .text "secret" }
    let m : Message := {
      method := "GET", path := "/api/approvals", headers := [("X-Webhook-Token", " guess ")] }
    service.token.truthy = true ∧ isProtected m.path = true ∧ ¬ Carries m service.token.display ∧
      ∃ (answer : Answer) (notes : List Entry),
        ∀ s : Session, handle service m s = (.ok answer, { s with journal := s.journal ++ notes }) := by
  intro service m
  have ht : service.token.truthy = true := by decide +kernel
  have hp : isProtected m.path = true := by decide +kernel
  have hc : ¬ Carries m service.token.display := by
    rintro (⟨s, hs, htoken⟩ | ⟨hpath, -⟩)
    · obtain rfl : " guess " = s := Option.some.inj hs
      exact absurd htoken (by decide +kernel)
    · exact absurd hpath (by decide)
  exact ⟨ht, hp, hc, handle_unauthorised service m ht (.inr hp) hc⟩

end Web

end Watchgate
