import Watchgate.Proofs.Routing.Recoding
import Watchgate.Proofs.Routing.TargetType

/-!
# Verdicts that are stable

A verdict is stable if writing it and reading it again changes nothing. Only defaults stand in the way:
a deferral comes back with a reason and a cause in the place of those that count as false. Whatever was
read has them, and so has every verdict that routing comes to, whichever runners and rules there are.
-/

namespace Watchgate

open Act

/-! ## Defaults -/

namespace Value

theorem orElse_of_truthy {v : Value} (h : v.truthy = true) (w : Value) : v.orElse w = v := if_pos h

theorem truthy_orElse (v : Value) {w : Value} (h : w.truthy = true) : (v.orElse w).truthy = true := by
  unfold orElse
  split
  · assumption
  · exact h

end Value

namespace Deferral

/-- The reason and the cause are there, so that no default takes their place. -/
structure IsExplicit (d : Deferral) : Prop where
  reason : d.reason.truthy = true
  triggeredBy : d.triggeredBy.truthy = true

theorem isExplicit_withDefaults (d : Deferral) : d.withDefaults.IsExplicit :=
  ⟨Value.truthy_orElse _ rfl, Value.truthy_orElse _ rfl⟩

theorem withDefaults_eq_iff {d : Deferral} : d.withDefaults = d ↔ d.IsExplicit := by
  constructor
  · intro h
    rw [← h]
    exact d.isExplicit_withDefaults
  · intro h
    unfold withDefaults
    rw [Value.orElse_of_truthy h.reason, Value.orElse_of_truthy h.triggeredBy]

theorem isExplicit_of_decode {data : Value} {d : Deferral} (h : decode data = .ok d) :
    d.IsExplicit := by
  obtain ⟨entries, -, h⟩ := ok_of_bind h
  obtain ⟨facts, -, h⟩ := ok_of_bind h
  obtain ⟨proposed, -, h⟩ := ok_of_bind h
  rw [← pure_ok h]
  exact ⟨Value.truthy_orElse _ rfl, Value.truthy_orElse _ rfl⟩

end Deferral

namespace Verdict

/-- Writing the verdict and reading it changes nothing. -/
def Stable (v : Verdict) : Prop := decode v.encode = .ok v

theorem stable_iff {v : Verdict} : v.Stable ↔ ∀ d, v.deferral = some d → d.IsExplicit := by
  obtain ⟨action, routing, deferral⟩ := v
  unfold Stable
  rw [decode_encode]
  cases deferral with
  | none =>
    refine ⟨fun _ d hd => ?_, fun _ => rfl⟩
    cases hd
  | some d =>
    rw [Option.map_some, Except.ok.injEq, mk.injEq, Option.some.injEq, Deferral.withDefaults_eq_iff]
    constructor
    · rintro ⟨-, -, h⟩ e he
      obtain rfl := Option.some.inj he
      exact h
    · exact fun h => ⟨rfl, rfl, h d rfl⟩

theorem stable_route (p : Placement) : (route p).Stable :=
  stable_iff.2 fun d hd => by cases hd

theorem stable_reject : reject.Stable :=
  stable_iff.2 fun d hd => by cases hd

theorem stable_requireApproval {d : Deferral} (h : d.IsExplicit) : (requireApproval d).Stable :=
  stable_iff.2 fun e he => by
    obtain rfl := Option.some.inj he
    exact h

theorem stable_of_decode {data : Value} {v : Verdict} (h : decode data = .ok v) : v.Stable := by
  obtain ⟨entries, -, h⟩ := ok_of_bind h
  obtain ⟨routing, -, h⟩ := ok_of_bind h
  obtain ⟨deferral, hdeferral, h⟩ := ok_of_bind h
  rw [← pure_ok h]
  refine stable_iff.2 fun d hd => ?_
  obtain rfl : deferral = some d := hd
  unfold decodeDeferral? at hdeferral
  split at hdeferral
  · obtain ⟨e, hread, he⟩ := ok_of_map hdeferral
    obtain rfl := Option.some.inj he
    exact Deferral.isExplicit_of_decode hread
  · cases hdeferral

end Verdict

/-! ## Verdicts that are stored -/

namespace Store

theorem recoded_of_stable {v : Verdict} (h : v.Stable) : recoded v = v := by
  unfold recoded
  rw [h]

theorem stable_recoded (v : Verdict) : (recoded v).Stable := by
  unfold recoded
  rw [Verdict.decode_encode]
  refine Verdict.stable_iff.2 fun d hd => ?_
  obtain ⟨e, -, rfl⟩ := Option.map_eq_some_iff.1 hd
  exact e.isExplicit_withDefaults

end Store

/-! ## Verdicts that routing comes to -/

namespace Router

theorem stable_verdictFor (rule : Option Rule) (context : Context) (p : Placement) :
    (verdictFor rule context p).Stable := by
  unfold verdictFor
  split
  · exact Verdict.stable_route p
  · rename_i rule
    split
    · exact Verdict.stable_route p
    · refine Verdict.stable_requireApproval ⟨Value.truthy_orElse _ ?_, ?_⟩
      · simp [Value.truthy]
      · dsimp only
        split <;> rfl

/-- Every one of the verdicts is stable. -/
def AllStable (vs : List Verdict) : Prop := ∀ v ∈ vs, v.Stable

theorem allStable_nil : AllStable [] := fun v hv => by cases hv

theorem allStable_singleton {v : Verdict} (h : v.Stable) : AllStable [v] := by
  intro w hw
  rw [List.mem_singleton.1 hw]
  exact h

theorem ensures_useDefault_stable (context : Context) : (useDefault context).Ensures AllStable := by
  refine ensures_after fun found => ?_
  cases found with
  | none => exact ensures_after fun _ => ensures_pure allStable_nil
  | some i =>
    exact ensures_after fun _ => ensures_pure (allStable_singleton (Verdict.stable_route _))

theorem ensures_fallback_stable (context : Context) : (fallback context).Ensures AllStable := by
  have hmissing : ∀ target, (fallback.missing context target).Ensures AllStable :=
    fun target => ensures_after fun _ => ensures_useDefault_stable context
  unfold fallback
  split
  · refine ensures_after fun found => ?_
    cases found with
    | none => exact hmissing _
    | some i =>
      refine ensures_ite (ensures_after fun _ => ensures_pure ?_) (hmissing _)
      exact allStable_singleton (Verdict.stable_route _)
  · exact ensures_useDefault_stable context

theorem ensures_judge_stable (r : Router) (rules active : List Rule) (item : Item)
    (context : Context) : (r.judge rules active item context).Ensures AllStable := by
  refine ensures_after fun item => ensures_after fun found => ensures_after fun sifted => ?_
  cases sifted with
  | none => exact ensures_pure (allStable_singleton Verdict.stable_reject)
  | some ps =>
    refine ensures_after fun selected => ?_
    refine ensures_ite (ensures_fallback_stable context) (ensures_after fun _ => ensures_pure ?_)
    intro v hv
    obtain ⟨p, -, rfl⟩ := List.mem_map.1 hv
    exact stable_verdictFor _ context p

/-- Whatever runs, is stored and fails, the verdicts that routing comes to are stable. -/
theorem ensures_resolve_stable (r : Router) (item : Item) (context : Context) :
    (r.resolve item context).Ensures AllStable := by
  refine ensures_ite (ensures_after fun _ => ensures_pure allStable_nil) ?_
  refine ensures_after fun rules => ensures_ite (ensures_fallback_stable context) ?_
  exact r.ensures_judge_stable _ _ item context

end Router

end Watchgate
