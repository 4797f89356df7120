import Watchgate.Proofs.Approval.Outcomes

/-!
# Submissions while synchronising

While an instance is synchronised, what is submitted is routed without a look at users, quotas,
counted requests or approvals. Two sessions that differ in these alone are run side by side: resolving
browses, and the gate only makes attempts, which leave the same records in both. Whether the content
is taken by anybody is not asked.
-/

namespace Watchgate

open Act

/-- The second session differs from the first in its store alone, and the stores are these two. -/
def Session.Replacing (store store' : Store) (s s' : Session) : Prop :=
  s.store = store ∧ s' = { s with store := store' }

theorem Act.indistinct_replacing {store store' : Store} (h : store.SameSetup store') :
    Indistinct Store.SameSetup (Session.Replacing store store') where
  tables := by
    rintro s s' ⟨rfl, rfl⟩
    exact h
  outages := by
    rintro s s' ⟨-, rfl⟩
    rfl
  network := by
    rintro s s' ⟨-, rfl⟩
    rfl
  clients := by
    rintro s s' ⟨-, rfl⟩
    rfl
  noted := by
    rintro s s' ⟨hs, rfl⟩ entries
    exact ⟨hs, rfl⟩
  sent := by
    rintro s s' ⟨hs, rfl⟩ call network
    exact ⟨hs, rfl⟩
  connected := by
    rintro s s' ⟨hs, rfl⟩ clients
    exact ⟨hs, rfl⟩

/-! ## The gate -/

section

variable {store store' : Store}

namespace Gate

variable {g : Gate} {item : Item} {context : Context} {verdicts : List Verdict}

/-- While synchronising the gate asks nobody. -/
theorem lockstep_process
    (hp : ∀ item placement,
      (g.partners.acquire item placement).Lockstep (Session.Replacing store store'))
    (hsyncing : context.syncing = true) (item : Item) (verdicts : List Verdict) :
    (g.process item context verdicts).Lockstep (Session.Replacing store store') := by
  have hnote : ∀ level text, (note level text).Lockstep (Session.Replacing store store') := by
    rintro level text s s' ⟨hs, rfl⟩
    exact ⟨rfl, hs, rfl⟩
  have hrecorded : ∀ {s s'}, Session.Replacing store store' s s' → ∀ a,
      Session.Replacing store store' { s with attempts := s.attempts ++ [a] }
        { s' with attempts := s'.attempts ++ [a] } := by
    rintro s s' ⟨hs, rfl⟩ a
    exact ⟨hs, rfl⟩
  have hway := g.process_handles item context verdicts
  generalize g.process item context verdicts = x at hway ⊢
  cases hway with
  | nothing => exact lockstep_pure _
  | rejected => exact lockstep_bind (hnote _ _) fun _ => lockstep_pure _
  | synchronised =>
    -- the content is asked for by nobody, so nobody is counted
    refine lockstep_bind (Partners.lockstep_attemptAll hrecorded hp item _) fun taken => ?_
    refine lockstep_ite (lockstep_pure _) ?_
    exact lockstep_bind (lockstep_pure _) fun _ => lockstep_pure _
  | asked _ consults =>
    rw [consults.asked] at hsyncing
    cases hsyncing

end Gate

end

namespace Gate

variable {g : Gate} {item : Item} {context : Context} {verdicts : List Verdict}

/-- While synchronising nothing is kept for approval. -/
theorem kind_of_syncing (hp : g.partners.Quiet) (hsyncing : context.syncing = true)
    {s s' : Session} {o : Outcome} (h : g.process item context verdicts s = (.ok o, s')) :
    o.kind ≠ .pending := by
  have hway := g.process_handles item context verdicts
  generalize g.process item context verdicts = x at hway h
  cases hway with
  | nothing kind =>
    obtain ⟨rfl, -⟩ := pure_returns h
    rw [kind]
    exact nofun
  | rejected kind =>
    obtain ⟨_, s₁, -, h⟩ := bind_returns h
    obtain ⟨rfl, -⟩ := pure_returns h
    rw [kind]
    exact nofun
  | synchronised =>
    obtain ⟨tries, -, hresult⟩ := route_returns hp h
    rcases hresult.result with ⟨hk, -⟩ | ⟨hk, -⟩
    · rw [hk]
      exact nofun
    · rw [hk]
      exact nofun
  | asked _ consults =>
    rw [consults.asked] at hsyncing
    cases hsyncing

end Gate

/-! ## Verdicts -/

namespace Router

variable {context : Context} {item : Item} {s s' : Session} {vs : List Verdict}

theorem action_of_useDefault (h : useDefault context s = (.ok vs, s')) :
    ∀ v ∈ vs, v.action ≠ .requireApproval := by
  obtain ⟨found, s₁, -, h⟩ := bind_returns h
  cases found with
  | none =>
    obtain ⟨_, s₂, -, h⟩ := bind_returns h
    obtain ⟨rfl, -⟩ := pure_returns h
    exact nofun
  | some i =>
    obtain ⟨_, s₂, -, h⟩ := bind_returns h
    obtain ⟨rfl, -⟩ := pure_returns h
    intro v hv
    rw [List.mem_singleton.1 hv]
    exact nofun

theorem action_of_missing {target : Int}
    (h : fallback.missing context target s = (.ok vs, s')) :
    ∀ v ∈ vs, v.action ≠ .requireApproval := by
  obtain ⟨_, s₁, -, h⟩ := bind_returns h
  exact action_of_useDefault h

/-- An item that no rule places is never held up. -/
theorem action_of_fallback (h : fallback context s = (.ok vs, s')) :
    ∀ v ∈ vs, v.action ≠ .requireApproval := by
  unfold fallback at h
  cases hsyncing : context.syncing with
  | false =>
    simp only [hsyncing] at h
    exact action_of_useDefault h
  | true =>
    cases htarget : context.syncTarget with
    | none =>
      simp only [hsyncing, htarget] at h
      exact action_of_useDefault h
    | some target =>
      simp only [hsyncing, htarget] at h
      obtain ⟨found, s₁, -, h⟩ := bind_returns h
      cases found with
      | none => exact action_of_missing h
      | some i =>
        dsimp only at h
        split at h
        · obtain ⟨_, s₂, -, h⟩ := bind_returns h
          obtain ⟨rfl, -⟩ := pure_returns h
          intro v hv
          rw [List.mem_singleton.1 hv]
          exact nofun
        · exact action_of_missing h

theorem action_verdictFor (hsyncing : context.syncing = true) (rule : Option Rule)
    (p : Placement) : (verdictFor rule context p).action ≠ .requireApproval := by
  unfold verdictFor
  cases rule with
  | none => exact nofun
  | some rule =>
    simp only [hsyncing, Bool.or_true, if_true]
    exact nofun

theorem action_of_judge {r : Router} {rules active : List Rule} (hsyncing : context.syncing = true)
    (h : r.judge rules active item context s = (.ok vs, s')) :
    ∀ v ∈ vs, v.action ≠ .requireApproval := by
  obtain ⟨item', s₁, -, h⟩ := bind_returns h
  obtain ⟨found, s₂, -, h⟩ := bind_returns h
  obtain ⟨placements, s₃, -, h⟩ := bind_returns h
  cases placements with
  | none =>
    obtain ⟨rfl, -⟩ := pure_returns h
    intro v hv
    rw [List.mem_singleton.1 hv]
    exact nofun
  | some placements =>
    obtain ⟨selected, s₄, -, h⟩ := bind_returns h
    split at h
    · exact action_of_fallback h
    · obtain ⟨_, s₅, -, h⟩ := bind_returns h
      obtain ⟨rfl, -⟩ := pure_returns h
      intro v hv
      obtain ⟨p, -, rfl⟩ := List.mem_map.1 hv
      exact action_verdictFor hsyncing _ p

/-- While synchronising no verdict asks for approval. -/
theorem action_of_syncing {r : Router} (hsyncing : context.syncing = true)
    (h : r.resolve item context s = (.ok vs, s')) : ∀ v ∈ vs, v.action ≠ .requireApproval := by
  unfold resolve at h
  split at h
  · obtain ⟨_, s₁, -, h⟩ := bind_returns h
    obtain ⟨rfl, -⟩ := pure_returns h
    exact nofun
  obtain ⟨rules, s₁, -, h⟩ := bind_returns h
  dsimp only at h
  split at h
  · exact action_of_fallback h
  · exact action_of_judge hsyncing h

end Router

namespace Service

/-- A submission while synchronising does the same in two stores with the same setup. -/
theorem lockstep_submit (service : Service) {context : Context} (hsyncing : context.syncing = true)
    (item : Item) {store store' : Store} (hsame : store.SameSetup store') :
    (service.submit item context).Lockstep (Session.Replacing store store') := by
  have hblind := indistinct_replacing hsame
  have hacquire : ∀ item placement, (service.gate.partners.acquire item placement).Lockstep
      (Session.Replacing store store') := fun item placement =>
    (Acquire.browses_acquire service.isDryRun item placement).ofInstances.lockstep hblind
  have hresolve := (Router.browses_resolve service.browses_router item context).lockstep hblind
  refine lockstep_bind hresolve fun verdicts => ?_
  exact lockstep_bind (Gate.lockstep_process hacquire hsyncing item verdicts) fun outcome =>
    lockstep_pure _

/-- While synchronising, a submission leads to the same in all stores with the same instances and
rules, and leaves the store as it is; nothing is kept for approval, and no verdict asks for it. -/
theorem submit_syncing (service : Service) {context : Context} (hsyncing : context.syncing = true)
    (item : Item) (s : Session) {store : Store} (hsame : s.store.SameSetup store) :
    service.submit item context { s with store }
      = ((service.submit item context s).1, { (service.submit item context s).2 with store }) ∧
    (service.submit item context s).2.store = s.store ∧
    ∀ vs o, (service.submit item context s).1 = .ok (vs, o) →
      o.kind ≠ .pending ∧ ∀ v ∈ vs, v.action ≠ .requireApproval := by
  obtain ⟨hvalue, hstore, hother⟩ :=
    service.lockstep_submit hsyncing item hsame s { s with store } ⟨rfl, rfl⟩
  refine ⟨Prod.ext hvalue.symm hother, hstore, fun vs o h => ?_⟩
  obtain ⟨verdicts, s₁, hresolve, hrest⟩ :=
    bind_returns (Prod.ext h rfl : service.submit item context s = (.ok (vs, o), _))
  obtain ⟨outcome, s₂, hprocess, hlast⟩ := bind_returns hrest
  obtain ⟨rfl, rfl⟩ := Prod.mk.inj (pure_returns hlast).1
  exact ⟨Gate.kind_of_syncing service.quiet_partners hsyncing hprocess,
    Router.action_of_syncing hsyncing hresolve⟩

/-- For instance, a rule asks for approval of every film of a genre, and in the other store the user
is flagged and may not watch anything. -/
theorem submit_syncing_flagged_user :
    let item : Item := { title := .text "Dune", guids := ["tmdb:841"], genres := [.text "Drama"] }
    let context : Context := { contentType := .text "movie", userId := .one 1, syncing := true }
    let store : Store := {
      instances := [{ id := 1, type := .text "radarr", baseUrl := "http://radarr" }]
      rules := [{
        id := 1, name := .text "Drama", type := .text "genre", targetType := .text "radarr"
        targetId := 1, criteria := .map [("genre", .text "Drama")], alwaysRequireApproval := true }] }
    let guarded : Store := { store with
      users := [{ id := 1, name := .text "Ann", requiresApproval := true }]
      quotas := [{
        userId := 1, contentType := .text "movie", period := .text "daily", limit := .int 0 }] }
    let s : Session := { store, now := .ofDate ⟨738959⟩ }
    ∃ vs o, (({} : Service).submit item context s).1 = .ok (vs, o) ∧ o.kind = .routed ∧
      (({} : Service).submit item context { s with store := guarded }).1 = .ok (vs, o) ∧
      ∀ v ∈ vs, v.action ≠ .requireApproval := by
  intro item context store guarded s
  have hsame : s.store.SameSetup guarded := ⟨rfl, rfl⟩
  have hsyncing : context.syncing = true := rfl
  obtain ⟨hother, -, hopen⟩ := submit_syncing {} hsyncing item s hsame
  have hlist : ({} : Service).router.runList = Criteria.evaluators.map Runner.ofEvaluator :=
    Runner.runList_evaluators
  have hkind : (({} : Service).submit item context s).1.toOption.map (·.2.kind)
      = some .routed := by
    -- the order of the evaluators is known, so they need not be sorted again
    unfold submit Router.resolve Router.judge Router.collect
    simp only [hlist, Criteria.evaluators_eq]
    decide +kernel
  cases h : (({} : Service).submit item context s).1 with
  | error e =>
    rw [h] at hkind
    cases hkind
  | ok answer =>
    obtain ⟨vs, o⟩ := answer
    rw [h] at hkind
    obtain ⟨-, haction⟩ := hopen vs o h
    exact ⟨vs, o, rfl, Option.some.inj hkind, by rw [hother, h], haction⟩

end Service

end Watchgate
