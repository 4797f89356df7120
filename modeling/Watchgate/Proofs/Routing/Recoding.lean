import Watchgate.Store.Requests

/-!
# Verdicts survive being stored

A verdict is stored in the form in which it is shown and read back when its request is read. Every
field of a placement comes back as it was, and so does the placement that a verdict proposes. A
reason or a cause that is missing comes back as the default one.
-/

namespace Watchgate

/-- A placement is read as what was written. -/
theorem Placement.decode_encode (p : Placement) : decode p.encode = .ok p := by
  obtain ⟨instanceId, instanceType, profile, folder, tags, priority, search, season, series,
    availability, ruleId, ruleName, bypass⟩ := p
  cases tags <;> rfl

namespace Deferral

/-- A deferral with the defaults that reading puts in the place of what is missing. -/
def withDefaults (d : Deferral) : Deferral :=
  { d with
    reason := d.reason.orElse (.text "Approval required")
    triggeredBy := d.triggeredBy.orElse (.text "manual_flag") }

theorem decodePlacement?_encode (p : Option Placement) :
    decodePlacement? ((p.map Placement.encode).getD .null) = .ok p := by
  cases p with
  | none => rfl
  | some p =>
    have h : decodePlacement? p.encode = (Placement.decode p.encode).map some := rfl
    rw [Option.map_some, Option.getD_some, h, Placement.decode_encode]
    rfl

/-- A deferral is read as what was written, apart from defaults. -/
theorem decode_encode (d : Deferral) : decode d.encode = .ok d.withDefaults := by
  have hfacts : ((Value.map d.facts).orElse (.map [])).toMapping = .ok d.facts := by
    unfold Value.orElse
    cases d.facts <;> rfl
  change (((Value.map d.facts).orElse (.map [])).toMapping >>= fun facts =>
    decodePlacement? ((d.proposed.map Placement.encode).getD .null) >>= fun proposed => _) = _
  rw [hfacts, decodePlacement?_encode]
  rfl

end Deferral

namespace Verdict

theorem decodeDeferral?_encode (d : Option Deferral) :
    decodeDeferral? ((d.map Deferral.encode).getD .null)
      = .ok (d.map Deferral.withDefaults) := by
  cases d with
  | none => rfl
  | some d =>
    have h : decodeDeferral? d.encode = (Deferral.decode d.encode).map some := rfl
    rw [Option.map_some, Option.getD_some, h, Deferral.decode_encode]
    rfl

theorem ofValue_word (a : Action) : Action.ofValue (.text a.word) = a := by
  cases a <;> rfl

/-- A verdict is read as what was written, apart from the defaults of its deferral. -/
theorem decode_encode (v : Verdict) :
    decode v.encode = .ok { v with deferral := v.deferral.map Deferral.withDefaults } := by
  obtain ⟨action, routing, deferral⟩ := v
  let entries : Entries := [("action", .text action.word)]
    ++ (routing.map fun p => ("routing", p.encode)).toList
    ++ (deferral.map fun d => ("approval", d.encode)).toList
  have haction : Entries.get entries "action" = .text action.word := rfl
  have hrouting : Entries.get entries "routing" = (routing.map Placement.encode).getD .null := by
    cases routing <;> cases deferral <;> rfl
  have hdeferral : Entries.get entries "approval" = (deferral.map Deferral.encode).getD .null := by
    cases routing <;> cases deferral <;> rfl
  change (Deferral.decodePlacement? (Entries.get entries "routing") >>= fun routing =>
    decodeDeferral? (Entries.get entries "approval") >>= fun deferral =>
      pure (⟨.ofValue (Entries.get entries "action"), routing, deferral⟩ : Verdict)) = _
  rw [haction, hrouting, hdeferral, Deferral.decodePlacement?_encode, decodeDeferral?_encode,
    ofValue_word]
  rfl

end Verdict

/-- What a stored verdict proposes is what was proposed before. -/
theorem Store.recoded_proposed (v : Verdict) : (recoded v).proposed = v.proposed := by
  unfold recoded
  rw [Verdict.decode_encode]
  obtain ⟨action, routing, deferral⟩ := v
  cases action <;> cases deferral <;> rfl

theorem Store.recoded_action (v : Verdict) : (recoded v).action = v.action := by
  unfold recoded
  rw [Verdict.decode_encode]

end Watchgate
