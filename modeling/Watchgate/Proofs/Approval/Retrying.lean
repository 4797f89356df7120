import Watchgate.Proofs.Approval.Expiry

/-!
# Approving again after a failure of the store

Approving a request that waits calls the store four times: the request is found, moved, read again
once it is moved, and counted once an instance took it. Nothing holds the four together. If one of
them fails and the same approval is asked for again, all depends on whether the request was moved:
before that nothing has happened and the second approval is as good as the first, but after it the
second approval finds a request that is decided and leaves everything as it is. What was not added or
not counted by then never will be.
-/

namespace Watchgate.Desk

open Act Calendar Store

/-! ## Calls to the store that fail -/

/-- A call to the store that approving a waiting request makes, in their order. -/
inductive ApprovalCall where
  | find
  | move
  | reread
  | count
deriving DecidableEq, Repr

/-- An act during an outage that is over when the act ends. -/
def during {α : Type} (o : Outage) (x : Act α) : Act α := fun s =>
  let (result, s') := x { s with outages := o :: s.outages }
  (result, { s' with outages := s.outages })

/-- Approving while one of the calls to the store is out of order. -/
def approveFailing (c : ApprovalCall) (e : Failure) (p : Partners) (id : Int)
    (decidedBy notes : Value) : Act Decision :=
  match c with
  | .find => during ⟨.getRequest, none, e⟩ (approve p id decidedBy notes)
  | .move => during ⟨.transition, none, e⟩ (approve p id decidedBy notes)
  | .reread => approveThen id decidedBy notes
      (during ⟨.getRequest, none, e⟩ (finish p countUse id decidedBy))
  | .count => approveThen id decidedBy notes
      (finish p (fun r => during ⟨.putUsage, none, e⟩ (countUse r)) id decidedBy)

/-- An act that fails before it does anything leaves nothing of the outage. -/
theorem during_of_error {α : Type} {o : Outage} {x : Act α} {s : Session} {e : Failure}
    (h : x { s with outages := o :: s.outages } = (.error e, { s with outages := o :: s.outages })) :
    during o x s = (.error e, s) := by
  unfold during
  rw [h]

theorem during_get (e : Failure) (id : Int) (f : Request → Act Decision) (s : Session) :
    during ⟨.getRequest, none, e⟩ (get id >>= f) s = (.error e, s) := during_of_error rfl

theorem during_countUse (e : Failure) (r : Request) (s : Session) :
    during ⟨.putUsage, none, e⟩ (countUse r) s = (.error e, s) := during_of_error rfl

/-! ## What approvals lead to -/

/-- The request is approved in the end, and these attempts to add content and these counted requests
came in between. -/
structure Leads (id : Int) (attempts : List Attempt) (counted : List Usage) (s s' : Session) :
    Prop where
  approved : ∃ r, s'.store.getRequest id = .ok (some r) ∧ r.status = .approved
  attempts : s'.attempts = s.attempts ++ attempts
  usage : s'.store.usage = s.store.usage ++ counted

/-- As long as the servers stay as they are, what the request proposes is taken. -/
def Accepts (p : Partners) (r : Request) (placement : Placement) (s : Session) : Prop :=
  ∀ s', s.SameServers s' → (p.acquire (itemOf r) placement s').1 = .ok true

variable {s : Session} {id : Int} {r : Request} {decidedBy notes : Value} {p : Partners}
  {placement : Placement}

/-- Approving a request that is decided already leaves everything as it is. -/
theorem approve_decided (ho : s.outages = []) (hfound : s.store.getRequest id = .ok (some r))
    (hdecided : r.status ≠ .pending) :
    approve p id decidedBy notes s = (.ok { request := r, changed := false }, s) := by
  rw [approve_eq]
  unfold decideBy
  rw [bind_of_ok (get_of_ok ho hfound), if_pos hdecided]
  rfl

/-- A session in which a request has just been approved, and where that request came from. -/
structure Moved (s : Session) (id : Int) (r : Request) (s₁ : Session) (moved : Request) : Prop where
  ledger : ∃ rows, s₁ = { s with store := { s.store with requests := rows } }
  found : s₁.store.getRequest id = .ok (some moved)
  matter : r.SameMatter moved
  approved : moved.status = .approved

namespace Moved

variable {s₁ : Session} {moved : Request}

theorem sameServers (h : Moved s id r s₁ moved) : s.SameServers s₁ := by
  obtain ⟨rows, rfl⟩ := h.ledger
  exact ⟨rfl, rfl, rfl, rfl⟩

theorem outages (h : Moved s id r s₁ moved) (ho : s.outages = []) : s₁.outages = [] :=
  h.sameServers.outages.trans ho

/-- Nothing was tried or counted yet. -/
theorem leads (h : Moved s id r s₁ moved) : Leads id [] [] s s₁ where
  approved := ⟨moved, h.found, h.approved⟩
  attempts := by
    obtain ⟨rows, rfl⟩ := h.ledger
    exact (List.append_nil _).symm
  usage := by
    obtain ⟨rows, rfl⟩ := h.ledger
    exact (List.append_nil _).symm

theorem item (h : Moved s id r s₁ moved) : itemOf moved = itemOf r := by
  unfold itemOf
  rw [h.matter.title, h.matter.guids]

/-- An accepted attempt is recorded, and that is all. -/
theorem attempt (h : Moved s id r s₁ moved) (hp : p.Quiet) (haccepts : Accepts p r placement s) :
    ∃ s₂, p.attempt (itemOf moved) placement s₁ = (.ok true, s₂) ∧ s₁.SameTables s₂ ∧
      Leads id [⟨itemOf r, placement, some true⟩] [] s s₂ := by
  have hattempt := Partners.attempted hp (itemOf moved) placement s₁
  have hresult : (p.attempt (itemOf moved) placement s₁).1 = .ok true := by
    rw [Partners.attempt_result, h.item]
    exact haccepts s₁ h.sameServers
  rcases hx : p.attempt (itemOf moved) placement s₁ with ⟨result, s₂⟩
  rw [hx] at hattempt hresult
  obtain rfl : result = .ok true := hresult
  refine ⟨s₂, rfl, hattempt.toSameTables, ?_, ?_, ?_⟩
  · rw [hattempt.store]
    exact ⟨moved, h.found, h.approved⟩
  · rw [hattempt.attempts, h.item, h.leads.attempts, List.append_nil]
    rfl
  · rw [hattempt.store, h.leads.usage]

/-- What an instance took is handed on to be counted. -/
theorem carryOut_taken (h : Moved s id r s₁ moved) (hplaced : r.verdict.proposed = some placement)
    {s₂ : Session} (hattempt : p.attempt (itemOf moved) placement s₁ = (.ok true, s₂))
    (count : Request → Act Unit) :
    carryOut p count moved s₁ = (count moved >>= fun _ => pure true) s₂ := by
  unfold carryOut
  rw [h.matter.verdict, hplaced]
  exact bind_of_ok hattempt

/-- If counting fails, what was tried is not counted. -/
theorem finish_uncounted (h : Moved s id r s₁ moved) (hp : p.Quiet) (ho : s.outages = [])
    (hplaced : r.verdict.proposed = some placement) (haccepts : Accepts p r placement s)
    (e : Failure) (decidedBy : Value) :
    ∃ s₂, finish p (fun r => during ⟨.putUsage, none, e⟩ (countUse r)) id decidedBy s₁
        = (.error e, s₂) ∧ s₂.outages = [] ∧ s₂.store.getRequest id = .ok (some moved) ∧
      Leads id [⟨itemOf r, placement, some true⟩] [] s s₂ := by
  obtain ⟨s₂, hattempt, hsame, hleads⟩ := h.attempt hp haccepts
  have hget : get id s₁ = (.ok moved, s₁) := get_of_ok (h.outages ho) h.found
  have hfails : carryOut p (fun r => during ⟨.putUsage, none, e⟩ (countUse r)) moved s₁
      = (.error e, s₂) :=
    (h.carryOut_taken hplaced hattempt _).trans (bind_of_error (during_countUse e moved s₂))
  refine ⟨s₂, ?_, hsame.outages.trans (h.outages ho), hsame.store ▸ h.found, hleads⟩
  unfold finish
  rw [bind_of_ok hget]
  exact bind_of_error hfails

/-- If nothing fails, what was tried is counted. -/
theorem finish_counted (h : Moved s id r s₁ moved) (hp : p.Quiet) (hw : Waits s id r)
    (hplaced : r.verdict.proposed = some placement) (haccepts : Accepts p r placement s)
    {contentType : String} (htext : r.contentType = .text contentType) (decidedBy : Value) :
    Leads id [⟨itemOf r, placement, some true⟩] [⟨r.userId, contentType, s.now.date⟩] s
      (finish p countUse id decidedBy s₁).2 := by
  obtain ⟨s₂, hattempt, hsame, hleads⟩ := h.attempt hp haccepts
  have hget : get id s₁ = (.ok moved, s₁) := get_of_ok (h.outages hw.outages) h.found
  let counted : Store := { s₂.store with
    usage := s₂.store.usage ++ [⟨r.userId, contentType, s.now.date⟩] }
  have hrecord : countUse moved s₂ = (.ok (), { s₂ with store := counted }) := by
    obtain ⟨rows, rfl⟩ := h.ledger
    have hknown : s₂.store.Knows r.userId := hw.user.of_users (by rw [hsame.store])
    rw [countUse_of_knows (hsame.outages.trans hw.outages) (h.matter.userId ▸ hknown)
      (h.matter.contentType.trans htext), h.matter.userId, hsame.now]
  have hcounts : carryOut p countUse moved s₁ = (.ok true, { s₂ with store := counted }) :=
    (h.carryOut_taken hplaced hattempt _).trans (bind_of_ok hrecord)
  have hquiet := quiet_announce hp
    ("Approval request " ++ Number.integerText id ++ " approved by " ++ decidedBy.display)
    { request := moved, changed := true, executed := true } { s₂ with store := counted }
  unfold finish
  rw [bind_of_ok hget, bind_of_ok hcounts]
  refine ⟨?_, ?_, ?_⟩
  · rw [hquiet.store]
    have hfound : s₂.store.getRequest id = .ok (some moved) := hsame.store ▸ h.found
    exact ⟨moved, hfound, h.approved⟩
  · rw [hquiet.attempts]
    exact hleads.attempts
  · have husage : s₂.store.usage = s.store.usage := by
      rw [hleads.usage, List.append_nil]
    rw [hquiet.store, ← husage]

end Moved

/-! ## Before and after the move -/

/-- In time, approving has moved the request when it goes on. -/
theorem approveThen_moves (h : Waits s id r) (hs : Storable decidedBy notes)
    (hlive : r.isStaleAt s.now = false) :
    ∃ s₁ moved, Moved s id r s₁ moved ∧
      ∀ rest, approveThen id decidedBy notes rest s = rest s₁ := by
  obtain ⟨rows, moved, hmove, hfound, hmatter, hstatus⟩ := move_live h hs hlive .approved
  refine ⟨_, moved, ⟨⟨rows, rfl⟩, hfound, hmatter, hstatus⟩, fun rest => ?_⟩
  have hnow : Act.now s = (.ok s.now, s) := rfl
  unfold approveThen decideBy
  rw [bind_of_ok (get_of_ok h.outages h.found), if_neg (fun hne => hne h.pending), bind_of_ok hnow,
    bind_of_ok hmove]
  rfl

/-- An approval whose move fails has done nothing. -/
theorem approveFailing_move (h : Waits s id r) (e : Failure) :
    approveFailing .move e p id decidedBy notes s = (.error e, s) := by
  let out : Session := { s with outages := ⟨.transition, none, e⟩ :: s.outages }
  have hread : Act.getRequest id out = (.ok (some r), out) := by
    simp [Act.getRequest, Act.read, Session.outage?, Outage.concerns, out, h.outages, h.found]
  have hget : get id out = (.ok r, out) := bind_of_ok hread
  have hnow : Act.now out = (.ok s.now, out) := rfl
  refine during_of_error (x := approve p id decidedBy notes) ?_
  rw [approve_eq]
  unfold decideBy
  rw [bind_of_ok hget, if_neg (fun hne => hne h.pending), bind_of_ok hnow]
  rfl

/-- Where approving left a request, approving again does nothing and says so. -/
def Settles (p : Partners) (id : Int) (decidedBy notes : Value) (s : Session) : Prop :=
  ∃ d, d.changed = false ∧ approve p id decidedBy notes s = (.ok d, s)

/-- Of the four calls to the store that approving a waiting request makes, one fails and the approval
is asked for again. If the request could not be found or moved, the second approval does what the
first would have done: one attempt and one counted request. If it could not be read again after the
move, it is approved without any attempt; if it could not be counted, it is added without being
counted. In these two cases the second approval does nothing. -/
theorem approve_again (hp : p.Quiet) (h : Waits s id r) (hs : Storable decidedBy notes)
    (hlive : r.isStaleAt s.now = false) (hplaced : r.verdict.proposed = some placement)
    (haccepts : Accepts p r placement s) (c : ApprovalCall) (e : Failure) :
    ∃ contentType, r.contentType = .text contentType ∧
      let attempt : Attempt := ⟨itemOf r, placement, some true⟩
      let failed := approveFailing c e p id decidedBy notes s
      Leads id [attempt] [⟨r.userId, contentType, s.now.date⟩] s
          (approve p id decidedBy notes s).2 ∧
        failed.1 = .error e ∧
        match c with
        | .find => failed.2 = s
        | .move => failed.2 = s
        | .reread => Leads id [] [] s failed.2 ∧ Settles p id decidedBy notes failed.2
        | .count => Leads id [attempt] [] s failed.2 ∧ Settles p id decidedBy notes failed.2 := by
  obtain ⟨contentType, htext⟩ := h.contentType
  obtain ⟨s₁, moved, hmoved, happrove⟩ := approveThen_moves h hs hlive
  have hdecided : moved.status ≠ .pending := by
    rw [hmoved.approved]
    exact nofun
  refine ⟨contentType, htext, ?_, ?_⟩
  · unfold approve
    rw [happrove]
    exact hmoved.finish_counted hp h hplaced haccepts htext decidedBy
  cases c with
  | find => exact ⟨rfl, rfl⟩
  | move =>
    rw [approveFailing_move h]
    exact ⟨rfl, rfl⟩
  | reread =>
    have hfails : approveFailing .reread e p id decidedBy notes s = (.error e, s₁) :=
      (happrove _).trans (during_get e id _ s₁)
    rw [hfails]
    exact ⟨rfl, hmoved.leads, _, rfl, approve_decided (hmoved.outages h.outages) hmoved.found hdecided⟩
  | count =>
    obtain ⟨s₂, hfinish, ho, hfound, hleads⟩ :=
      hmoved.finish_uncounted hp h.outages hplaced haccepts e decidedBy
    have hfails : approveFailing .count e p id decidedBy notes s = (.error e, s₂) :=
      (happrove _).trans hfinish
    rw [hfails]
    exact ⟨rfl, hleads, _, rfl, approve_decided ho hfound hdecided⟩

/-- What an instance takes now it takes as long as the servers stay as they are. -/
theorem accepts_of_acquire (service : Service)
    (h : (service.partners.acquire (itemOf r) placement s).1 = .ok true) :
    Accepts service.partners r placement s := fun s' hs => by
  have hnotices := (Acquire.browses_acquire service.isDryRun (itemOf r) placement).noticesServers
  exact (hnotices s s' hs).1.symm.trans h

/-- For instance, a film is added and the store fails when it is counted; the film stays uncounted. -/
theorem approve_again_after_counting_failed :
    let service : Service := {}
    let s := waitingFilms service [{ id := 1, type := .text "radarr", baseUrl := "http://radarr" }]
      [(⟨738959⟩, "Dune", ["tmdb:438631"])]
    let e : Failure := .storage (.outage "db is down")
    let failed := approveFailing .count e service.partners 1 .null .null s
    failed.1 = .error e ∧
      (approve service.partners 1 .null .null s).2.store.usage = [⟨1, "movie", ⟨738959⟩⟩] ∧
      failed.2.attempts.length = 1 ∧ failed.2.store.usage = [] ∧
      Settles service.partners 1 .null .null failed.2 := by
  intro service s e failed
  have hreachable : Reachable s := reachable_waitingFilms ..
  obtain ⟨r, hwaits, hcheck⟩ := exists_waits 1 hreachable (by decide +kernel)
    (fun r => !r.isStaleAt s.now && r.contentType.display = "movie" && r.userId = 1 &&
      r.verdict.proposed.any fun placement =>
        (service.partners.acquire (itemOf r) placement s).1.toOption = some true) (by decide +kernel)
  simp only [Bool.and_eq_true, Bool.not_eq_true', decide_eq_true_eq] at hcheck
  obtain ⟨⟨⟨hlive, htext⟩, huser⟩, hany⟩ := hcheck
  obtain ⟨placement, hplaced, haccepts⟩ := (Option.any_eq_true _ _).1 hany
  have hstorable : Storable .null .null := ⟨⟨_, rfl⟩, ⟨_, rfl⟩⟩
  obtain ⟨contentType, htext', hundisturbed, hfails, hleads, hsettles⟩ := approve_again
    service.quiet_partners hwaits hstorable hlive hplaced
    (accepts_of_acquire service (ok_of_toOption (of_decide_eq_true haccepts))) .count e
  rw [htext'] at htext
  obtain rfl : contentType = "movie" := htext
  have hbefore : s.store.usage = [] ∧ s.attempts.length = 0 ∧ s.now.date = ⟨738959⟩ := by
    decide +kernel
  refine ⟨hfails, ?_, ?_, ?_, hsettles⟩
  · rw [hundisturbed.usage, hbefore.1, huser, hbefore.2.2]
    rfl
  · rw [hleads.attempts, List.length_append, hbefore.2.1]
    rfl
  · rw [hleads.usage, hbefore.1]
    rfl

/-- Approving again does not make up for a request that could not be counted: the film is added once,
and counted not at all. -/
theorem counting_not_made_up :
    let service : Service := {}
    let s := waitingFilms service [{ id := 1, type := .text "radarr", baseUrl := "http://radarr" }]
      [(⟨738959⟩, "Dune", ["tmdb:438631"])]
    let e : Failure := .storage (.outage "db is down")
    let failed := approve service.partners 1 .null .null { s with outages := [⟨.putUsage, none, e⟩] }
    let again := approve service.partners 1 .null .null { failed.2 with outages := [] }
    ∃ r placement, Waits s 1 r ∧ Storable .null .null ∧ r.isStaleAt s.now = false ∧
      r.verdict.proposed = some placement ∧ Accepts service.partners r placement s ∧
      failed.1.isOk = false ∧ again.2.attempts.length = 1 ∧ again.2.store.usage = [] ∧
      (approve service.partners 1 .null .null s).2.store.usage.length = 1 := by
  intro service s e failed again
  have hreachable : Reachable s := reachable_waitingFilms ..
  obtain ⟨r, hwaits, hcheck⟩ := exists_waits 1 hreachable (by decide +kernel)
    (fun r => !r.isStaleAt s.now && r.verdict.proposed.any fun placement =>
      (service.partners.acquire (itemOf r) placement s).1.toOption = some true) (by decide +kernel)
  simp only [Bool.and_eq_true, Bool.not_eq_true'] at hcheck
  obtain ⟨placement, hplaced, haccepts⟩ := (Option.any_eq_true _ _).1 hcheck.2
  have hfails : failed.1.isOk = false := by decide +kernel
  have hcounted : again.2.attempts.length = 1 ∧ again.2.store.usage = [] ∧
      (approve service.partners 1 .null .null s).2.store.usage.length = 1 := by decide +kernel
  exact ⟨r, placement, hwaits, ⟨⟨_, rfl⟩, ⟨_, rfl⟩⟩, hcheck.1, hplaced,
    accepts_of_acquire service (ok_of_toOption (of_decide_eq_true haccepts)), hfails, hcounted⟩

end Watchgate.Desk
