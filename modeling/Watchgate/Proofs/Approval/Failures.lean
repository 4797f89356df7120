import Watchgate.Proofs.Approval.Outcomes
import Watchgate.Proofs.Routing.Resolution

/-!
# Submissions that fail

A submission adds content before it counts anybody for it, and to one instance after the other, so it
can fail when instances took the content already. Where the store works there are two ways: a later
instance fails in a way that is no refusal, or the user of the submission is not stored and cannot be
counted. In both the tables are left as they were, and nothing keeps the same submission from adding
the content again. In every other way of failing nothing was added.
-/

namespace Watchgate

open Act Store

/-! ## Attempts that did not all end -/

/-- If attempts at several placements fail, the first ones ended and the next one failed. -/
theorem Partners.attemptAll_fails {p : Partners} (hp : p.Quiet) {item : Item}
    {placements : List Placement} {s s' : Session} {e : Failure}
    (h : p.attemptAll item placements s = (.error e, s')) :
    ∃ tries placement rest, placements = tries.map Prod.fst ++ placement :: rest ∧
      (∃ s₁, (p.acquire item placement s₁).1 = .error e) ∧ s.SameTables s' ∧
      s'.attempts = s.attempts ++ (Attempt.ended item tries ++ [⟨item, placement, none⟩]) := by
  induction placements generalizing s with
  | nil => cases h
  | cons placement rest ih =>
    rcases bind_fails h with hfirst | ⟨accepted, s₁, hfirst, h⟩
    · have hattempt := attempted hp item placement s
      have hresult := p.attempt_result item placement s
      rw [hfirst] at hattempt hresult
      exact ⟨[], placement, rest, rfl, ⟨s, hresult.symm⟩, hattempt.toSameTables, hattempt.attempts⟩
    · rcases bind_fails h with hrest | ⟨others, s₂, -, h⟩
      · obtain ⟨hsame, hattempt⟩ := attempt_returns hp hfirst
        obtain ⟨tries, failing, left, rfl, hfailure, hsame', hattempts⟩ := ih hrest
        refine ⟨(placement, accepted) :: tries, failing, left, rfl, hfailure, hsame.trans hsame', ?_⟩
        rw [hattempts, hattempt, List.append_assoc]
        rfl
      · cases h

namespace Gate

/-! ## How adding content fails -/

/-- How adding content at some placements fails where the store works, with the attempts that it
leaves; `counted` is the user to count, if any. -/
inductive RouteFailure (p : Partners) (item : Item) (placements : List Placement)
    (counted : Option Int) (store : Store) (e : Failure) : List Attempt → Prop where
  /-- An instance failed after all instances before it had answered. -/
  | brokenOff {tries : List (Placement × Bool)} {placement : Placement} {rest : List Placement}
      {s : Session} (tried : placements = tries.map Prod.fst ++ placement :: rest)
      (fails : (p.acquire item placement s).1 = .error e) :
      RouteFailure p item placements counted store e
        (Attempt.ended item tries ++ [⟨item, placement, none⟩])
  /-- All instances answered, but there is no such user to be counted. -/
  | uncounted {tries : List (Placement × Bool)} {userId : Int}
      (tried : placements = tries.map Prod.fst) (user : counted = some userId)
      (unknown : ¬ store.Knows userId) (cause : e = .storage (.unknownUser userId)) :
      RouteFailure p item placements counted store e (Attempt.ended item tries)

/-- The only instance of all, and a stored user if any: then an instance that took the content is not
followed by a failure. -/
theorem RouteFailure.untaken {p : Partners} {item : Item} {placements : List Placement}
    {counted : Option Int} {store : Store} {e : Failure} {new : List Attempt}
    (h : RouteFailure p item placements counted store e new) (hone : placements.length ≤ 1)
    (hknown : ∀ userId, counted = some userId → store.Knows userId) :
    ∀ a ∈ new, a.accepted ≠ some true := by
  cases h with
  | @brokenOff tries placement rest _ tried =>
    have hnone : tries = [] := by
      rw [tried, List.length_append, List.length_map, List.length_cons] at hone
      exact List.eq_nil_of_length_eq_zero (by omega)
    intro a ha
    rw [hnone] at ha
    obtain rfl := List.mem_singleton.1 ha
    exact nofun
  | uncounted _ user unknown => exact absurd (hknown _ user) unknown

variable {g : Gate} {item : Item} {context : Context} {verdicts : List Verdict} {s s' : Session}
  {e : Failure} {contentType : String}

theorem route_fails (hp : g.partners.Quiet) (ho : s.outages = []) {placements : List Placement}
    {counted : Option Int}
    (hid : ∀ userId, counted = some userId → Column.checked userId = .ok userId)
    (h : g.route item (.text contentType) placements counted s = (.error e, s')) :
    ∃ new, s'.attempts = s.attempts ++ new ∧ s.SameTables s' ∧
      RouteFailure g.partners item placements counted s.store e new := by
  rcases bind_fails h with hall | ⟨taken, s₁, hall, h⟩
  · obtain ⟨tries, placement, rest, htried, ⟨s₁, hfails⟩, hsame, hattempts⟩ :=
      Partners.attemptAll_fails hp hall
    exact ⟨_, hattempts, hsame, .brokenOff htried hfails⟩
  · obtain ⟨tries, htries, -, hattempts, hsame⟩ := Partners.attemptAll_returns hp hall
    split at h
    · cases h
    · rcases bind_fails h with hcount | ⟨_, s₂, -, h⟩
      · cases counted with
        | none => cases hcount
        | some userId =>
          obtain ⟨hunknown, he, rfl⟩ := Quota.recordUsage_fails (hsame.outages.trans ho)
            (hid userId rfl) hcount
          rw [hsame.store] at hunknown
          exact ⟨_, hattempts, hsame, .uncounted htries.symm rfl hunknown he⟩
      · cases h

/-! ## How a submission fails -/

/-- What a submission that failed left behind: nothing was taken, or adding the content failed and the
tables are as they were. -/
def Spoiled (p : Partners) (item : Item) (placements : List Placement) (counted : Option Int)
    (e : Failure) (s s' : Session) : Prop :=
  ∃ new, s'.attempts = s.attempts ++ new ∧
    ((∀ a ∈ new, a.accepted ≠ some true) ∨
      s.SameTables s' ∧ RouteFailure p item placements counted s.store e new)

/-- What came before the failing act does not matter if it changed no record. -/
theorem Spoiled.of_same {p : Partners} {placements : List Placement} {counted : Option Int}
    {s₁ : Session} (hs : s.SameRecords s₁) (h : Spoiled p item placements counted e s₁ s') :
    Spoiled p item placements counted e s s' := by
  obtain ⟨new, hattempts, hcases⟩ := h
  refine ⟨new, hattempts.trans (by rw [hs.attempts]), hcases.imp_right ?_⟩
  rintro ⟨hsame, hfailure⟩
  exact ⟨hs.toSameTables.trans hsame, hs.store ▸ hfailure⟩

theorem spoiled_of_attempts {p : Partners} {placements : List Placement} {counted : Option Int}
    (h : s'.attempts = s.attempts) : Spoiled p item placements counted e s s' :=
  ⟨[], h.trans (List.append_nil _).symm, .inl fun a ha => by cases ha⟩

/-- Keeping a submission as a request adds no content. -/
theorem keepsAttempts_defer (hp : g.partners.Quiet) (userId : Int) (wait : Wait) :
    (g.defer item context userId wait).KeepsAttempts := by
  refine keepsAttempts_bind g.quiet_expiry.keepsAttempts fun expiresAt => ?_
  refine keepsAttempts_bind (fun s => keepsAttempts_write .addRequest none _ s) fun request => ?_
  exact (quiet_announce hp _ request).keepsAttempts

/-- Answering a submission for which there is no request. -/
theorem spoiled_of_receive (hp : g.partners.Quiet) (ho : s.outages = [])
    (htext : context.contentType = .text contentType)
    (hid : ∀ userId, context.primaryUserId = some userId → Column.checked userId = .ok userId)
    {primary : Verdict} {p : Placement} {placements : List Placement}
    (h : g.receive item context primary p placements s = (.error e, s')) :
    Spoiled g.partners item placements context.primaryUserId e s s' := by
  have hquiet := quiet_reasonToWait primary p context.contentType context.primaryUserId
  rcases bind_fails h with hreason | ⟨reason, s₁, hreason, h⟩
  · exact spoiled_of_attempts (hquiet.of_eq hreason).attempts
  have hs : s.SameRecords s₁ := hquiet.of_eq hreason
  refine .of_same hs ?_
  cases reason with
  | none =>
    rw [htext] at h
    obtain ⟨new, hattempts, hsame, hfailure⟩ := route_fails hp (hs.outages.trans ho) hid h
    exact ⟨new, hattempts, .inr ⟨hsame, hfailure⟩⟩
  | some wait =>
    cases huser : context.primaryUserId with
    | none =>
      simp only [huser] at h
      cases h
    | some userId =>
      simp only [huser] at h
      exact spoiled_of_attempts ((keepsAttempts_defer hp userId wait).of_eq h)

/-- Honouring a request tries one placement at most, and counts nobody. -/
theorem untaken_of_honour (hp : g.partners.Quiet) (ho : s.outages = []) {r : Request}
    (h : g.honour item (.text contentType) r s = (.error e, s')) :
    ∃ new, s'.attempts = s.attempts ++ new ∧ ∀ a ∈ new, a.accepted ≠ some true := by
  have hreplay : g.replay item (.text contentType) r s = (.error e, s') →
      ∃ new, s'.attempts = s.attempts ++ new ∧ ∀ a ∈ new, a.accepted ≠ some true := by
    intro h
    unfold replay at h
    cases hproposed : r.verdict.proposed with
    | none =>
      simp only [hproposed] at h
      cases h
    | some p =>
      simp only [hproposed] at h
      rcases bind_fails h with hnote | ⟨_, s₁, hnote, h⟩
      · cases hnote
      have hs : s.SameRecords s₁ := (quiet_note _ _).of_eq hnote
      rcases bind_fails h with hroute | ⟨_, s₂, -, h⟩
      · obtain ⟨new, hattempts, -, hfailure⟩ := route_fails hp (hs.outages.trans ho)
          (fun _ hu => by cases hu) hroute
        exact ⟨new, hattempts.trans (by rw [hs.attempts]),
          hfailure.untaken (Nat.le_refl 1) fun _ hu => by cases hu⟩
      · cases h
  rcases g.honour_cases item (.text contentType) r with ⟨text, o, -, hb⟩ | hb
  · rw [hb] at h
    cases h
  · exact hreplay (hb ▸ h)

/-- Where a request was looked for, the id of the user fits into its column. -/
theorem checked_of_liveRequest {userId? : Option Int} {key : Value} {found : Option Request}
    (h : liveRequest userId? key s = (.ok found, s')) (userId : Int) (hu : userId? = some userId) :
    Column.checked userId = .ok userId := by
  subst hu
  obtain ⟨stored, s₁, hread, -⟩ := bind_returns h
  obtain ⟨n, hn, -⟩ := ok_of_bind (read_returns hread).1
  obtain rfl := Column.checked_ok hn
  exact hn

/-- Whatever a submission fails with, it leaves what a submission that failed leaves. -/
theorem spoiled_of_process (hp : g.partners.Quiet) (ho : s.outages = [])
    (htext : context.contentType = .text contentType)
    (h : g.process item context verdicts s = (.error e, s')) :
    Spoiled g.partners item (verdicts.filterMap Verdict.proposed)
      (if context.syncing then none else context.primaryUserId) e s s' := by
  have hway := g.process_handles item context verdicts
  generalize g.process item context verdicts = x at hway h
  cases hway with
  | nothing => cases h
  | rejected => cases h
  | synchronised first syncing =>
    rw [htext, placements_of_first first] at h
    obtain ⟨new, hattempts, hsame, hfailure⟩ := route_fails hp ho (fun _ hu => by cases hu) h
    rw [if_pos syncing]
    exact ⟨new, hattempts, .inr ⟨hsame, hfailure⟩⟩
  | asked first consults =>
    have hasked : ¬ context.syncing = true := by simp [consults.asked]
    rw [if_neg hasked]
    rcases bind_fails h with hlive | ⟨found, s₁, hlive, h⟩
    · exact spoiled_of_attempts ((quiet_liveRequest _ _).of_eq hlive).attempts
    obtain ⟨rfl, -⟩ := liveRequest_returns hlive
    cases found with
    | none =>
      rw [answer_none, placements_of_first first] at h
      exact spoiled_of_receive hp ho htext (checked_of_liveRequest hlive) h
    | some r =>
      rw [answer_some, htext] at h
      obtain ⟨new, hattempts, huntaken⟩ := untaken_of_honour hp ho h
      exact ⟨new, hattempts, .inl huntaken⟩

end Gate

/-- If a submission with verdicts of the router fails where the store works, then either no instance
took the content, or a later instance failed, or the user to be counted is not stored; in the last
two cases the tables stay as they were. So nothing was added if at most one instance was to take the
content and the user to be counted, if any, is stored. -/
theorem taken_by_failed_submission (service : Service) {item : Item} {context : Context}
    {verdicts : List Verdict} {s₀ s₁ s s' : Session} {e : Failure} (ho : s.outages = [])
    (hresolved : service.router.resolve item context s₀ = (.ok verdicts, s₁))
    (h : service.gate.process item context verdicts s = (.error e, s')) :
    let placements := verdicts.filterMap Verdict.proposed
    let counted := if context.syncing then none else context.primaryUserId
    ∃ new, s'.attempts = s.attempts ++ new ∧
      ((∃ a ∈ new, a.accepted = some true) → s.SameTables s' ∧
        Gate.RouteFailure service.partners item placements counted s.store e new) ∧
      (placements.length ≤ 1 → (∀ userId, counted = some userId → s.store.Knows userId) →
        ∀ a ∈ new, a.accepted ≠ some true) := by
  intro placements counted
  cases hknown : context.knowsContentType with
  | false =>
    have hnone := Router.resolve_unknown service.router hknown item s₀
    rw [hresolved] at hnone
    obtain rfl : verdicts = [] := Except.ok.inj hnone
    cases h
  | true =>
    have htext : ∃ contentType, context.contentType = .text contentType := by
      unfold Context.knowsContentType Value.isOneOf at hknown
      split at hknown
      · exact ⟨_, ‹_›⟩
      · cases hknown
    obtain ⟨contentType, htext⟩ := htext
    obtain ⟨new, hattempts, huntaken | ⟨hsame, hfailure⟩⟩ :=
      Gate.spoiled_of_process service.quiet_partners ho htext h
    · exact ⟨new, hattempts, fun ⟨a, ha, htaken⟩ => absurd htaken (huntaken a ha), fun _ _ => huntaken⟩
    · exact ⟨new, hattempts, fun _ => ⟨hsame, hfailure⟩, hfailure.untaken⟩

/-- For instance, the film of a stored user is to go to one instance, and its identifier cannot be read
there. -/
theorem taken_by_failed_submission_unreadable_identifier :
    let service : Service := { isDryRun := false }
    let s : Session := {
      store := {
        instances := [{
          id := 1, type := .text "radarr", baseUrl := "http://radarr", isDefault := true }]
        users := [{ id := 1, name := .text "Ann" }] }
      now := .ofDate ⟨738959⟩ }
    let item : Item := { title := .text "Dune", guids := ["tmdb:²"] }
    let context : Context := { contentType := .text "movie", userId := .one 1 }
    ∃ vs s₁ e s', service.router.resolve item context s = (.ok vs, s₁) ∧
      service.gate.process item context vs s₁ = (.error e, s') ∧ s'.attempts.length = 1 ∧
      ∀ a ∈ s'.attempts, a.accepted ≠ some true := by
  intro service s item context
  have hcheck : (match service.router.resolve item context s with
    | (.ok vs, s₁) => (vs.filterMap Verdict.proposed).length == 1 &&
      match service.gate.process item context vs s₁ with
      | (.error _, s') => s'.attempts.length == 1
      | (.ok _, _) => false
    | (.error _, _) => false) = true := by decide +kernel
  have hquiet := (Router.browses_resolve service.browses_router item context).quiet
  rcases hresolved : service.router.resolve item context s with ⟨e | vs, s₁⟩
  · rw [hresolved] at hcheck
    cases hcheck
  rw [hresolved] at hcheck
  obtain ⟨hone, hfails⟩ := (Bool.and_eq_true _ _).mp hcheck
  have hs : s.SameRecords s₁ := hquiet.of_eq hresolved
  rcases hprocess : service.gate.process item context vs s₁ with ⟨e | o, s'⟩
  · rw [hprocess] at hfails
    obtain ⟨new, hattempts, -, huntaken⟩ := taken_by_failed_submission service hs.outages hresolved
      hprocess
    have hknown : ∀ userId, some 1 = some userId → s₁.store.Knows userId := fun userId hu => by
      obtain rfl := Option.some.inj hu
      rw [hs.store]
      exact ⟨_, rfl⟩
    rw [hs.attempts] at hattempts
    refine ⟨vs, s₁, e, s', rfl, hprocess, eq_of_beq hfails, ?_⟩
    rw [hattempts]
    exact huntaken (Nat.le_of_eq (eq_of_beq hone)) hknown
  · rw [hprocess] at hfails
    cases hfails

/-- A submission of a user who is not stored fails and is taken all the same, every time that it is
made. -/
theorem taken_twice_without_user :
    let service : Service := {}
    let s : Session := {
      store := {
        instances := [{
          id := 1, type := .text "radarr", baseUrl := "http://radarr", isDefault := true }] }
      now := .ofDate ⟨738959⟩ }
    let submit := service.submit { title := .text "Dune", guids := ["tmdb:438631"] }
      { contentType := .text "movie", userId := .one 99 }
    let again := submit (submit s).2
    s.outages = [] ∧ (submit s).1.isOk = false ∧
      (submit s).2.attempts.map Attempt.accepted = [some true] ∧ again.1.isOk = false ∧
      again.2.attempts.map Attempt.accepted = [some true, some true] ∧ again.2.store.usage = [] := by
  decide +kernel

end Watchgate
