import Watchgate.Proofs.Approval.Table
import Watchgate.Proofs.Routing.Stability

/-!
# What was decided is what is stored

A verdict that was read, or that routing came to, is stored as it is: reading the row gives the same
placement, reason, cause and facts. A verdict that somebody made up without a reason or a cause is stored
with the defaults. Either way what is stored is stable, wherever operations lead, and proposes what was
proposed.
-/

namespace Watchgate

open Act Store

/-- Where verdicts come from: they are read, or routing comes to them. -/
inductive Verdict.Arises : Verdict → Prop where
  | read {data : Value} {v : Verdict} (h : decode data = .ok v) : Arises v
  | resolved {router : Router} {item : Item} {context : Context} {s s' : Session}
      {vs : List Verdict} {v : Verdict} (h : router.resolve item context s = (.ok vs, s'))
      (mem : v ∈ vs) : Arises v

theorem Verdict.Arises.stable {v : Verdict} (h : v.Arises) : v.Stable := by
  cases h with
  | read h => exact stable_of_decode h
  | @resolved router item context _ _ _ _ h mem =>
    exact router.ensures_resolve_stable item context h v mem

namespace Gate

variable {verdicts : List Verdict} {primary v stored : Verdict} {p : Placement}

theorem isExplicit_userDeferral (u : User) (p : Placement) : (userDeferral u p).IsExplicit :=
  ⟨by simp [userDeferral, Value.truthy], rfl⟩

theorem isExplicit_quotaDeferral (status : QuotaStatus) (p : Placement) :
    (quotaDeferral status p).IsExplicit :=
  ⟨by simp [quotaDeferral, Quota.exceededReason, Value.truthy], rfl⟩

/-- The gate defers with a stable verdict if it goes by one. -/
theorem Defers.stable (h : Defers primary p v) (hprimary : primary.Stable) : v.Stable := by
  cases h with
  | verdict => exact hprimary
  | user u => exact Verdict.stable_requireApproval (isExplicit_userDeferral u p)
  | quota status => exact Verdict.stable_requireApproval (isExplicit_quotaDeferral status p)

/-- How a verdict is stored when one of `verdicts` is deferred: `stored` is stable and proposes the
placement at hand, and it is the very verdict that deferred the content unless that was made up. -/
inductive Records (verdicts : List Verdict) (stored : Verdict) : Prop where
  | of {primary v : Verdict} {p : Placement} {rest : List (Verdict × Placement)}
      (first : verdicts.filterMap actionable? = (primary, p) :: rest) (defers : Defers primary p v)
      (proposed : v.proposed = some p) (proposes : stored.proposed = some p)
      (stable : stored.Stable) (same : primary.Arises → stored = v)

theorem records_recoded {rest : List (Verdict × Placement)}
    (hfirst : verdicts.filterMap actionable? = (primary, p) :: rest) (h : Defers primary p v) :
    Records verdicts (recoded v) := by
  have hproposed := h.proposed (proposed_of_first hfirst)
  refine .of hfirst h hproposed ((recoded_proposed v).trans hproposed) (stable_recoded v) fun ha => ?_
  exact recoded_of_stable (h.stable ha.stable)

theorem makes_records (g : Gate) (hp : g.partners.Quiet) (item : Item) (context : Context)
    (verdicts : List Verdict) : (g.process item context verdicts).Makes (Records verdicts) := by
  intro s r hr
  rcases g.makes_process hp item context verdicts s r hr with
    hold | ⟨_, _, _, v, hfirst, hdefers, hstored⟩
  · exact .inl hold
  · rw [hstored]
    exact .inr (records_recoded hfirst hdefers)

end Gate

/-- Wherever operations lead, the stored verdicts are stable. -/
theorem Reachable.stable {s : Session} (h : Reachable s) :
    ∀ r ∈ s.store.requests, r.verdict.Stable :=
  h.verdicts fun {_ _ v} _ => stable_recoded v

/-- Placements, deferrals and verdicts that were read come back as they are when they are written and
read again. So do the verdicts that routing comes to, whichever way it runs and whatever is stored. A
submission stores the verdict that deferred it, and all verdicts that are ever stored come back. -/
theorem verdicts_come_back :
    (∀ data p, Placement.decode data = .ok p → Placement.decode p.encode = .ok p) ∧
    (∀ data d, Deferral.decode data = .ok d → Deferral.decode d.encode = .ok d) ∧
    (∀ data v, Verdict.decode data = .ok v → Verdict.decode v.encode = .ok v) ∧
    (∀ (router : Router) item context s vs s', router.resolve item context s = (.ok vs, s') →
      ∀ v ∈ vs, Verdict.decode v.encode = .ok v) ∧
    (∀ (service : Service) item context verdicts s,
      ∀ r ∈ (service.gate.process item context verdicts s).2.store.requests,
        r ∈ s.store.requests ∨ Gate.Records verdicts r.verdict) ∧
    ∀ s, Reachable s → ∀ r ∈ s.store.requests, Verdict.decode r.verdict.encode = .ok r.verdict := by
  refine ⟨fun _ p _ => p.decode_encode, fun _ d h => ?_, fun _ v h => Verdict.stable_of_decode h,
    fun router item context s vs s' h => router.ensures_resolve_stable item context h,
    fun service item context verdicts =>
      service.gate.makes_records service.quiet_partners item context verdicts,
    fun s hs => hs.stable⟩
  rw [d.decode_encode, Deferral.withDefaults_eq_iff.2 (Deferral.isExplicit_of_decode h)]

/-- For instance, a verdict that gives the weight zero and an empty reason is read with the default
reason, and what is read comes back; so does the verdict of a rule that asks for approval. The submission
that the first one defers is stored with it. -/
theorem verdicts_come_back_unreasoned :
    let placement : Value := .map [("instanceId", .text "3"), ("weight", .int 0),
      ("tags", .list [.int 4, .text "4k"]), ("qualityProfile", .text "7"), ("ruleId", .int 1)]
    let deferral : Value := .map [("reason", .text ""), ("proposedRouting", placement)]
    let data : Value := .map [("action", .text "require_approval"), ("approval", deferral)]
    let item : Item := { title := .text "Dune", guids := ["tmdb:438631"], genres := [.text "Drama"] }
    let context : Context := { contentType := .text "movie", userId := .one 1 }
    let service : Service := {}
    let s := Course.run [
      ⟨service, .single (.putInstance {
        id := 1, type := .text "radarr", name := .text "Radarr", baseUrl := "http://radarr:7878" })⟩,
      ⟨service, .single (.putRule {
        id := 1, name := .text "Drama", type := .text "genre", targetType := .text "radarr"
        targetId := 1, criteria := .map [("genre", .text "Drama")], approvalReason := .text ""
        alwaysRequireApproval := true })⟩,
      ⟨service, .single (.putUser 1 (.text "Ann") (.bool false))⟩] { now := .ofDate ⟨738959⟩ }
    ∃ p d v vs s', Placement.decode placement = .ok p ∧ Placement.decode p.encode = .ok p ∧
      Deferral.decode deferral = .ok d ∧ Deferral.decode d.encode = .ok d ∧
      Verdict.decode data = .ok v ∧ Verdict.decode v.encode = .ok v ∧
      p.priority = 0 ∧ d.reason = .text "Approval required" ∧
      service.router.resolve item context s = (.ok vs, s') ∧ vs.length = 1 ∧
      (∀ w ∈ vs, Verdict.decode w.encode = .ok w) ∧
      let asked := (service.gate.process item context [v] s).2
      asked.store.requests.length = 1 ∧ ∀ r ∈ asked.store.requests,
        Gate.Records [v] r.verdict ∧ Verdict.decode r.verdict.encode = .ok r.verdict := by
  intro placement deferral data item context service s
  have hs : Reachable s := .run (.start rfl) _
  let p : Placement := {
    instanceId := 3, priority := 0, tags := [.int 4, .text "4k"], qualityProfile := .text "7"
    ruleId := .int 1 }
  let d : Deferral := {
    reason := .text "Approval required", triggeredBy := .text "manual_flag", proposed := some p }
  have hp : Placement.decode placement = .ok p := rfl
  have hd : Deferral.decode deferral = .ok d := rfl
  have hv : Verdict.decode data = .ok (.requireApproval d) := rfl
  have hone : (service.router.resolve item context s).1.toOption.map List.length = some 1 := by
    cbv
  rcases hresolve : service.router.resolve item context s with ⟨e | vs, s'⟩
  · rw [hresolve] at hone
    cases hone
  rw [hresolve] at hone
  refine ⟨p, d, .requireApproval d, vs, s', hp, verdicts_come_back.1 _ p hp, hd,
    verdicts_come_back.2.1 _ d hd, hv, verdicts_come_back.2.2.1 _ _ hv, rfl, rfl, rfl,
    Option.some.inj hone, verdicts_come_back.2.2.2.1 _ item context s vs s' hresolve, ?_⟩
  have hasked : Reachable (service.gate.process item context [.requireApproval d] s).2 := by
    have hsame : ((Event.process item context [.requireApproval d]).perform service s).2
        = (service.gate.process item context [.requireApproval d] s).2 := by
      rcases hx : service.gate.process item context [.requireApproval d] s with ⟨result, s''⟩
      exact congrArg Prod.snd (map_of_eq _ hx)
    exact hsame ▸ hs.perform service _
  refine ⟨by decide +kernel, fun r hr => ⟨?_, verdicts_come_back.2.2.2.2.2 _ hasked r hr⟩⟩
  have hnone : s.store.requests = [] := by
    decide +kernel
  refine (verdicts_come_back.2.2.2.2.1 service item context _ s r hr).resolve_left ?_
  rw [hnone]
  exact List.not_mem_nil

end Watchgate
