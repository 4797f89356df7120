import Watchgate.Proofs.Store.Columns
import Watchgate.Proofs.Store.Upsert

/-!
# The table of rules

Rule ids are the key of their table, and storing and dropping rules keeps them distinct. A rule is
read as it was stored but for its quality profile, so the rules of one type are those among all rules.
-/

namespace Watchgate.Store

/-- No two rows of the table of rules share an id. -/
def RulesKeyed (s : Store) : Prop := (s.rules.map Rule.id).Nodup

/-- A rule that is stored takes the place of the one with its id. -/
theorem putRule_ok {s s' : Store} {r : Rule} (h : s.putRule r = .ok ((), s')) :
    ∃ row, ruleRow r = .ok row ∧ s' = { s with rules := upsert (·.id = row.id) row s.rules } := by
  obtain ⟨-, -, h⟩ := ok_of_bind h
  obtain ⟨row, hrow, h⟩ := ok_of_bind h
  exact ⟨row, hrow, (Prod.mk.inj (pure_ok h)).2.symm⟩

theorem RulesKeyed.putRule {s s' : Store} {r : Rule} (h : s.RulesKeyed)
    (hput : s.putRule r = .ok ((), s')) : s'.RulesKeyed := by
  obtain ⟨row, -, rfl⟩ := putRule_ok hput
  exact nodup_upsert (fun _ => decide_eq_true_iff) h

theorem RulesKeyed.keepRules {s s' : Store} {ids : List Int} {n : Nat} (h : s.RulesKeyed)
    (hkeep : s.keepRules ids = .ok (n, s')) : s'.RulesKeyed := by
  obtain ⟨kept, -, hkeep⟩ := ok_of_bind hkeep
  obtain rfl := (Prod.mk.inj (pure_ok hkeep)).2
  exact h.sublist (List.filter_sublist.map Rule.id)

/-- The criteria of every rule are a mapping. -/
def CriteriaMapped (s : Store) : Prop := ∀ row ∈ s.rules, ∃ entries, row.criteria = .map entries

/-- How a rule became a row: each value went through its column, and the others are kept. -/
structure RuleRow (r row : Rule) : Prop where
  criteria : ∃ entries, r.criteria.toMapping = .ok entries ∧ row.criteria = .map entries
  id : Column.checked r.id = .ok row.id
  name : Column.requiredText r.name = .ok row.name
  type : Column.requiredText r.type = .ok row.type
  targetType : Column.requiredText r.targetType = .ok row.targetType
  rootFolder : Column.text r.rootFolder = .ok row.rootFolder
  order : Column.checked r.order = .ok row.order
  seriesType : Column.text r.seriesType = .ok row.seriesType
  seasonMonitoring : Column.text r.seasonMonitoring = .ok row.seasonMonitoring
  searchOnAdd : Column.truth r.searchOnAdd = .ok row.searchOnAdd
  minimumAvailability : Column.text r.minimumAvailability = .ok row.minimumAvailability
  action : Column.requiredText r.action = .ok row.action
  approvalReason : Column.text r.approvalReason = .ok row.approvalReason
  approvalTrigger : Column.requiredText r.approvalTrigger = .ok row.approvalTrigger
  kept : row = { row with
    targetId := r.targetId, tags := r.tags, enabled := r.enabled
    alwaysRequireApproval := r.alwaysRequireApproval, bypassUserQuotas := r.bypassUserQuotas
    qualityProfile := Column.profile r.qualityProfile }

theorem ruleRow_ok {r row : Rule} (h : ruleRow r = .ok row) : RuleRow r row := by
  obtain ⟨criteria, hcriteria, h⟩ := ok_of_bind h
  obtain ⟨id, hid, h⟩ := ok_of_bind h
  obtain ⟨name, hname, h⟩ := ok_of_bind h
  obtain ⟨type, htype, h⟩ := ok_of_bind h
  obtain ⟨targetType, htarget, h⟩ := ok_of_bind h
  obtain ⟨rootFolder, hfolder, h⟩ := ok_of_bind h
  obtain ⟨order, horder, h⟩ := ok_of_bind h
  obtain ⟨seriesType, hseries, h⟩ := ok_of_bind h
  obtain ⟨seasonMonitoring, hseason, h⟩ := ok_of_bind h
  obtain ⟨searchOnAdd, hsearch, h⟩ := ok_of_bind h
  obtain ⟨minimumAvailability, hminimum, h⟩ := ok_of_bind h
  obtain ⟨action, haction, h⟩ := ok_of_bind h
  obtain ⟨approvalReason, hreason, h⟩ := ok_of_bind h
  obtain ⟨approvalTrigger, htrigger, h⟩ := ok_of_bind h
  obtain rfl := pure_ok h
  exact ⟨⟨criteria, hcriteria, rfl⟩, hid, hname, htype, htarget, hfolder, horder, hseries, hseason,
    hsearch, hminimum, haction, hreason, htrigger, rfl⟩

/-! ## Reading -/

theorem readRule_ok {row r : Rule} (h : readRule row = .ok r) :
    ∃ p, Column.readProfile row.qualityProfile = .ok p ∧ r = { row with qualityProfile := p } := by
  obtain ⟨p, hp, hr⟩ := ok_of_map h
  exact ⟨p, hp, hr.symm⟩

/-- A rule cannot be read only if its profile is a text of digits that write no number. -/
theorem readRule_fails {row : Rule} {failure : Failure} (h : readRule row = .error failure) :
    ∃ fault, failure = .value fault := by
  have hprofile := error_of_map h
  unfold Column.readProfile at hprofile
  split at hprofile
  · split at hprofile
    · have hdigits := error_of_map hprofile
      unfold Value.integerOfText at hdigits
      split at hdigits
      · cases hdigits
      all_goals exact ⟨_, (Except.error.inj hdigits).symm⟩
    · cases hprofile
  · cases hprofile

theorem readRule_id {row r : Rule} (h : readRule row = .ok r) : r.id = row.id := by
  obtain ⟨p, -, rfl⟩ := readRule_ok h
  rfl

variable {s : Store} {rules : List Rule}

theorem row_of_mem_getRules (h : s.getRules = .ok rules) {r : Rule} (hr : r ∈ rules) :
    ∃ row ∈ s.rules, readRule row = .ok r := by
  obtain ⟨row, hrow, hread⟩ := mem_of_mapM_ok h hr
  exact ⟨row, List.mem_mergeSort.1 hrow, hread⟩

/-- Rules that are read are known by their ids. -/
theorem RulesKeyed.eq_of_id (hs : s.RulesKeyed) (h : s.getRules = .ok rules) :
    ∀ a ∈ rules, ∀ b ∈ rules, a.id = b.id → a = b := by
  intro a ha b hb hid
  obtain ⟨rowa, hrowa, hreada⟩ := row_of_mem_getRules h ha
  obtain ⟨rowb, hrowb, hreadb⟩ := row_of_mem_getRules h hb
  have hids : rowa.id = rowb.id := by rw [← readRule_id hreada, hid, readRule_id hreadb]
  obtain rfl : rowa = rowb := List.inj_on_of_nodup_map hs hrowa hrowb hids
  exact Except.ok.inj (hreada.symm.trans hreadb)

theorem same_text (v : Value) (t : String) : Column.same v (.text t) = v.isOneOf [t] := by
  cases v <;> simp [Column.same, Value.isOneOf]

theorem getRulesOfType_text (s : Store) (type : String) : s.getRulesOfType (.text type) =
    ((sortedBy Rule.id s.rules).filter fun row => row.type.isOneOf [type]).mapM readRule := by
  simp only [← same_text]
  rfl

theorem getRulesOfType_fails {type : String} {failure : Failure}
    (h : s.getRulesOfType (.text type) = .error failure) : ∃ fault, failure = .value fault := by
  rw [getRulesOfType_text] at h
  obtain ⟨row, -, hrow⟩ := error_of_mapM h
  exact readRule_fails hrow

/-- The rules of a type are those among all rules. -/
theorem getRulesOfType_eq (h : s.getRules = .ok rules) (type : String) :
    s.getRulesOfType (.text type) = .ok (rules.filter fun r => r.type.isOneOf [type]) := by
  rw [getRulesOfType_text]
  refine mapM_filter (fun row r hread => ?_) h
  obtain ⟨p, -, rfl⟩ := readRule_ok hread
  rfl

end Watchgate.Store
