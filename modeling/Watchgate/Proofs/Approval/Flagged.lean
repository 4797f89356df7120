import Watchgate.Proofs.Approval.Deferral
import Watchgate.Proofs.Approval.Failures
import Watchgate.Proofs.Approval.Table

/-!
# Users all of whose requests need approval

A submission of a user who needs approval for everything adds no content, unless the content was
approved for the user before. The user of a submission is found by the id that it names; zero names
nobody, so a user with that id is never asked about.
-/

namespace Watchgate

open Act Calendar Store

/-- An id other than zero that is named alone is the one that a submission is attributed to. -/
theorem Context.primaryUserId_of_decode {entries : Entries} {context : Context} {id : Int}
    (h : decode (.map entries) = .ok context)
    (hone : decodeIds (Entries.get entries "userId") = .ok (.one id)) (hid : id ≠ 0) :
    context.primaryUserId = some id := by
  obtain ⟨read, hentries, h⟩ := ok_of_bind h
  obtain rfl : entries = read := Except.ok.inj hentries
  obtain ⟨userId, huser, h⟩ := ok_of_bind h
  obtain rfl : OneOrMany.one id = userId := Except.ok.inj (hone.symm.trans huser)
  have huserId : context.userId = .one id := by
    dsimp only at h
    split at h
    · obtain ⟨target, -, h⟩ := ok_of_bind h
      rw [← pure_ok h]
    · obtain ⟨target, -, h⟩ := ok_of_bind h
      rw [← pure_ok h]
  unfold primaryUserId userIds
  rw [huserId]
  simp [OneOrMany.toList, hid]

namespace Gate

variable {g : Gate} {item : Item} {context : Context} {p : Placement} {u : User}
  {s s' : Session}

/-- Whatever else fails, a user who needs approval is never let through. -/
theorem reasonToWait_of_flagged {primary : Verdict} {contentType : Value} {reason : Option Wait}
    (hu : s.store.getUser u.id = .ok (some u)) (hflag : u.requiresApproval = true)
    (h : reasonToWait primary p contentType (some u.id) s = (.ok reason, s')) :
    ∃ wait, reason = some wait := by
  cases reason with
  | some wait => exact ⟨wait, rfl⟩
  | none =>
    have hfree := reasonToWait_none h
    rcases hx : userReason contentType u.id p s with ⟨answer, s₂⟩
    rw [hx] at hfree
    obtain rfl : answer = .ok none := hfree
    obtain ⟨found, s₁, hread, -⟩ := bind_returns hx
    obtain ⟨hfound, hs⟩ := read_returns hread
    obtain rfl : found = some u := Except.ok.inj (hfound.symm.trans hu)
    rw [hs] at hread
    rw [userReason_of_flagged hread hflag] at hx
    cases hx

/-- A request that waits or was rejected is answered without trying to add anything. -/
theorem quiet_honour {contentType : Value} {r : Request}
    (h : r.status = .pending ∨ r.status = .rejected) : (g.honour item contentType r).Quiet := by
  unfold honour
  rcases h with h | h
  · rw [h]
    exact quiet_bind (quiet_note _ _) fun _ => quiet_pure _
  · rw [h]
    exact quiet_bind (quiet_note _ _) fun _ => quiet_pure _

theorem attempts_receive_of_flagged (hp : g.partners.Quiet)
    (hu : s.store.getUser u.id = .ok (some u)) (hflag : u.requiresApproval = true)
    (huser : context.primaryUserId = some u.id) (primary : Verdict) (placements : List Placement) :
    (g.receive item context primary p placements s).2.attempts = s.attempts := by
  have hquiet := quiet_reasonToWait primary p context.contentType context.primaryUserId
  unfold receive
  rcases bind_cases (reasonToWait primary p context.contentType context.primaryUserId) _ s with
    ⟨reason, s₁, h, hb⟩ | ⟨e, s₁, h, hb⟩
  · rw [hb]
    have hattempts : s₁.attempts = s.attempts := (hquiet.of_eq h).attempts
    rw [huser] at h
    obtain ⟨wait, rfl⟩ := reasonToWait_of_flagged hu hflag h
    rw [huser]
    exact (keepsAttempts_defer hp u.id wait s₁).trans hattempts
  · rw [hb]
    exact (hquiet.of_eq h).attempts

/-- A request of a user that is found, and was not approved, waits or was rejected. -/
theorem waiting_or_rejected (hs : Reachable s) {r : Request}
    (hfound : s.store.getRequestFor u.id (contentKey item context) = .ok (some r))
    (hlive : r.status ≠ .expired)
    (hunapproved : ∀ r ∈ s.store.requests, r.userId = u.id →
      Column.text (contentKey item context) = .ok r.key → r.status ≠ .approved) :
    r.status = .pending ∨ r.status = .rejected := by
  obtain ⟨stored, row, hkey, hrow, rfl⟩ := getRequestFor_ok hfound
  have hmem := List.mem_of_find?_eq_some hrow
  obtain ⟨huser, hsame⟩ := Prod.mk.inj (isRequestFor_subject (List.find?_some hrow))
  have hnot := hunapproved row hmem huser (hsame ▸ hkey)
  have hall := hs.statuses row hmem
  change row.status = .pending ∨ row.status = .rejected
  simp only [Status.all, List.mem_cons, List.not_mem_nil, or_false] at hall
  rcases hall with h | h | h | h
  · exact .inl h
  · exact absurd h hnot
  · exact .inr h
  · exact absurd h hlive

/-- Wherever operations lead, a submission that names a user who needs approval for everything, by an
id other than zero, adds nothing unless a request of the user for the content was approved. -/
theorem flagged_user_not_routed {s : Session} (hs : Reachable s) (service : Service) {u : User}
    (hu : s.store.getUser u.id = .ok (some u)) (hflag : u.requiresApproval = true)
    (hid : u.id ≠ 0) {entries : Entries} {context : Context}
    (hread : Context.decode (.map entries) = .ok context)
    (hnamed : Context.decodeIds (Entries.get entries "userId") = .ok (.one u.id))
    (hasked : context.syncing = false) (item : Item)
    (hunapproved : ∀ r ∈ s.store.requests, r.userId = u.id →
      Column.text (contentKey item context) = .ok r.key → r.status ≠ .approved)
    (verdicts : List Verdict) :
    (service.gate.process item context verdicts s).2.attempts = s.attempts := by
  have hp := service.quiet_partners
  have huser := Context.primaryUserId_of_decode hread hnamed hid
  have hway := service.gate.process_handles item context verdicts
  generalize service.gate.process item context verdicts = x at hway ⊢
  cases hway with
  | nothing => rfl
  | rejected => rfl
  | synchronised _ syncing =>
    rw [hasked] at syncing
    cases syncing
  | @asked primary p rest =>
    rcases bind_cases (liveRequest context.primaryUserId (contentKey item context))
      (service.gate.answer item context primary p (p :: rest.map Prod.snd)) s with
      ⟨found, s₁, hlive, hb⟩ | ⟨e, s₁, hlive, hb⟩
    · have hsame := (quiet_liveRequest _ _).of_eq hlive
      rw [hb]
      cases found with
      | some r =>
        obtain ⟨userId, hsome, hfound, hlive⟩ := (liveRequest_returns hlive).2 r rfl
        obtain rfl : u.id = userId := Option.some.inj (huser.symm.trans hsome)
        have hstatus := waiting_or_rejected hs hfound hlive hunapproved
        exact ((quiet_honour hstatus).keepsAttempts s₁).trans hsame.attempts
      | none =>
        have hu₁ : s₁.store.getUser u.id = .ok (some u) := by rw [hsame.store, hu]
        exact (attempts_receive_of_flagged hp hu₁ hflag huser _ _).trans hsame.attempts
    · rw [hb]
      exact ((quiet_liveRequest _ _).of_eq hlive).attempts

/-- For instance, nothing that Ann asks for is added before somebody approves it, although the
placement that is proposed bypasses quotas. -/
theorem flagged_user_not_routed_at_once :
    let service : Service := {}
    let s := Course.run [
      ⟨service, .single (.putInstance { id := 1, type := .text "radarr" })⟩,
      ⟨service, .single (.putUser 1 (.text "Ann") (.bool true))⟩] { now := .ofDate ⟨738959⟩ }
    let context : Context := { contentType := .text "movie", userId := .one 1 }
    let placement : Placement := { instanceId := 1, bypassQuota := true }
    Context.decode (.map [("contentType", .text "movie"), ("userId", .int 1)]) = .ok context ∧
      (service.gate.process { title := .text "Dune" } context [.route placement] s).2.attempts
        = s.attempts := by
  intro service s context placement
  have hs : Reachable s := .run (.start rfl) _
  have hread : Context.decode (.map [("contentType", .text "movie"), ("userId", .int 1)])
      = .ok context := rfl
  have hempty : s.store.requests = [] := List.isEmpty_iff.1 (by decide +kernel)
  refine ⟨hread, flagged_user_not_routed hs service (u := ⟨1, .text "Ann", true⟩) rfl rfl (by decide)
    hread rfl rfl _ (fun r hr => ?_) _⟩
  rw [hempty] at hr
  cases hr

/-- A user who is configured under the id zero needs approval for everything, and yet what is submitted
under that id is added at once. -/
theorem user_zero_routed_although_flagged :
    let service : Service := {}
    let config : Entries := [
      ("RADARR_INSTANCES", .list [.map [("id", .int 1), ("name", .text "Radarr"),
        ("base_url", .text "http://radarr:7878"), ("api_key", .text "k"),
        ("root_folder", .text "/movies")]]),
      ("USERS", .list [.map [("id", .int 0), ("name", .text "Ann"),
        ("requires_approval", .bool true)]])]
    let s := Course.run [⟨service, .single (.seed config)⟩] { now := .ofDate ⟨738959⟩ }
    let context : Context := { contentType := .text "movie", userId := .one 0 }
    let submitted := service.gate.process { title := .text "Dune", guids := ["tmdb:438631"] } context
      [.route { instanceId := 1 }] s
    (Config.check config).run.value.toOption = some true ∧ Reachable s ∧
      s.store.getUser 0 = .ok (some ⟨0, .text "Ann", true⟩) ∧
      Context.decode (.map [("contentType", .text "movie"), ("userId", .int 0)]) = .ok context ∧
      context.syncing = false ∧ s.store.requests.length = 0 ∧
      submitted.1.toOption.map Outcome.kind = some .routed ∧ submitted.2.attempts.length = 1 := by
  intro service config s context submitted
  have hs : Reachable s := .next (.start rfl) _ _
  have hcheck : (Config.check config).run.value.toOption = some true := by decide +kernel
  refine ⟨hcheck, hs, rfl, rfl, rfl, ?_⟩
  decide +kernel

end Gate

end Watchgate
