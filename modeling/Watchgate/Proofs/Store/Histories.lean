import Watchgate.Proofs.Store.Profiles
import Watchgate.Proofs.Config.Seeding
import Mathlib.Data.String.Basic

/-!
# Histories of the tables that routing reads

Rules and instances come into the store by single writes, and rules leave it when all but some are
dropped. What the tables hold follows from the writes that the store took: each rule and each instance
that was written and not written over or dropped since. A read fails exactly if it comes upon a quality
profile that cannot be read, and whatever can be read comes back as it was written.
-/

namespace Watchgate

open Store.Column (Legible fits)

namespace Store

/-- A write to the tables that routing reads. -/
inductive Write where
  | putInstance (i : Instance)
  | putRule (r : Rule)
  /-- All rules but some are dropped. -/
  | keepRules (ids : List Int)

/-- The store takes a write, and it is another one afterwards. -/
def Takes (s : Store) : Write → Store → Prop
  | .putInstance i, s' => s.putInstance i = .ok ((), s')
  | .putRule r, s' => s.putRule r = .ok ((), s')
  | .keepRules ids, s' => ∃ n, s.keepRules ids = .ok (n, s')

/-- The writes that were taken, starting with an empty store. Whatever else happened to the store left
its rules and instances alone. -/
inductive Written : List Write → Store → Prop where
  | empty : Written [] {}
  | write {ws : List Write} {w : Write} {s s' : Store} (before : Written ws s) (takes : s.Takes w s') :
      Written (ws ++ [w]) s'
  | other {ws : List Write} {s s' : Store} (before : Written ws s) (same : s.SameSetup s') :
      Written ws s'

/-- The write puts a rule over the one with an id, or drops it. -/
def Write.TouchesRule (id : Int) : Write → Prop
  | .putInstance _ => False
  | .putRule r => r.id = id
  | .keepRules ids => id ∉ ids

/-- The write puts an instance under the key of a given one. -/
def Write.TouchesInstance (i : Instance) : Write → Prop
  | .putInstance j => j.id = i.id ∧ Column.requiredText j.type = Column.requiredText i.type
  | .putRule _ => False
  | .keepRules _ => False

/-- The quality profile of what is written can be read again. -/
def Write.Legible : Write → Prop
  | .putInstance i => Column.Legible i.qualityProfile
  | .putRule r => Column.Legible r.qualityProfile
  | .keepRules _ => True

/-- The rule was written, and neither written over nor dropped since. -/
def RuleStands (ws : List Write) (r : Rule) : Prop :=
  Latest (· = .putRule r) (·.TouchesRule r.id) ws

/-- The instance was written, and not written over since. -/
def InstanceStands (ws : List Write) (i : Instance) : Prop :=
  Latest (· = .putInstance i) (·.TouchesInstance i) ws

variable {s s' : Store} {ws : List Write}

theorem putInstance_ok {i : Instance} (h : s.putInstance i = .ok ((), s')) :
    ∃ row, instanceRow i = .ok row ∧
      s' = { s with instances := upsert (isInstance row.id row.type) row s.instances } := by
  obtain ⟨row, hrow, h⟩ := ok_of_bind h
  exact ⟨row, hrow, (Prod.mk.inj (pure_ok h)).2.symm⟩

/-! ## What the tables hold -/

/-- A table holds the rows of what stands also after a write, which stands from then on, and nothing that
it touches. -/
theorem mem_upsert_rows {α β κ : Type} {key : α → κ} {p : α → Bool} {encode : β → Except Failure α}
    {Stands Touched : β → Prop} {x : β} {new row : α} {rows : List α}
    (hp : ∀ a, p a = true ↔ key a = key new) (hnew : encode x = .ok new)
    (htouched : ∀ y row, encode y = .ok row → (key row = key new ↔ Touched y))
    (hrows : row ∈ rows ↔ ∃ y, Stands y ∧ encode y = .ok row) :
    row ∈ upsert p new rows ↔ ∃ y, (x = y ∨ Stands y ∧ ¬ Touched y) ∧ encode y = .ok row := by
  rw [mem_upsert_iff hp, hrows]
  constructor
  · rintro (rfl | ⟨⟨y, hstands, hrow⟩, hother⟩)
    · exact ⟨x, .inl rfl, hnew⟩
    · exact ⟨y, .inr ⟨hstands, mt (htouched y row hrow).2 hother⟩, hrow⟩
  · rintro ⟨y, rfl | ⟨hstands, hother⟩, hrow⟩
    · exact .inl (Except.ok.inj (hrow.symm.trans hnew))
    · exact .inr ⟨⟨y, hstands, hrow⟩, mt (htouched y row hrow).1 hother⟩

namespace Written

theorem rulesKeyed (h : Written ws s) : s.RulesKeyed := by
  induction h with
  | empty => exact List.nodup_nil
  | @write ws w s s' _ takes ih =>
    cases w with
    | putInstance i =>
      obtain ⟨row, -, rfl⟩ := putInstance_ok takes
      exact ih
    | putRule r => exact ih.putRule takes
    | keepRules ids =>
      obtain ⟨n, hkeep⟩ := takes
      exact ih.keepRules hkeep
  | other _ same ih =>
    unfold RulesKeyed
    rwa [same.rules]

theorem instancesKeyed (h : Written ws s) : (s.instances.map Instance.key).Nodup := by
  induction h with
  | empty => exact List.nodup_nil
  | @write ws w s s' _ takes ih =>
    cases w with
    | putInstance i =>
      obtain ⟨row, hrow, rfl⟩ := putInstance_ok takes
      exact nodup_upsert (isInstance_row hrow) ih
    | putRule r =>
      obtain ⟨row, -, rfl⟩ := putRule_ok takes
      exact ih
    | keepRules ids =>
      obtain ⟨-, rfl⟩ := keepRules_ok_iff.1 takes
      exact ih
  | other _ same ih => rwa [same.instances]

/-- The table of rules holds the rows of the rules that stand. -/
theorem mem_rules_iff (h : Written ws s) {row : Rule} :
    row ∈ s.rules ↔ ∃ r, RuleStands ws r ∧ ruleRow r = .ok row := by
  induction h with
  | empty => exact ⟨nofun, fun ⟨r, hstands, _⟩ => absurd hstands not_latest_nil⟩
  | @write ws w s s' _ takes ih =>
    unfold RuleStands at ih ⊢
    simp only [latest_append_singleton]
    cases w with
    | putInstance i =>
      obtain ⟨-, -, rfl⟩ := putInstance_ok takes
      simpa [Write.TouchesRule] using ih
    | putRule r =>
      obtain ⟨new, hnew, rfl⟩ := putRule_ok takes
      have hid := (ruleRow_ok hnew).id_eq
      simp only [Write.putRule.injEq]
      refine mem_upsert_rows (fun _ => decide_eq_true_iff) hnew (fun r' row' hrow' => ?_) ih
      rw [(ruleRow_ok hrow').id_eq, hid, eq_comm]
      rfl
    | keepRules ids =>
      obtain ⟨-, rfl⟩ := keepRules_ok_iff.1 takes
      rw [List.mem_filter, ih]
      constructor
      · rintro ⟨⟨r, hstands, hrow⟩, hkept⟩
        rw [(ruleRow_ok hrow).id_eq, List.contains_iff_mem] at hkept
        exact ⟨r, .inr ⟨hstands, not_not_intro hkept⟩, hrow⟩
      · rintro ⟨r, hsame | ⟨hstands, hkept⟩, hrow⟩
        · cases hsame
        · refine ⟨⟨r, hstands, hrow⟩, ?_⟩
          rw [(ruleRow_ok hrow).id_eq, List.contains_iff_mem]
          exact not_not.1 hkept
  | other _ same ih => rw [same.rules, ih]

/-- The table of instances holds the rows of the instances that stand. -/
theorem mem_instances_iff (h : Written ws s) {row : Instance} :
    row ∈ s.instances ↔ ∃ i, InstanceStands ws i ∧ instanceRow i = .ok row := by
  induction h with
  | empty => exact ⟨nofun, fun ⟨i, hstands, _⟩ => absurd hstands not_latest_nil⟩
  | @write ws w s s' _ takes ih =>
    unfold InstanceStands at ih ⊢
    simp only [latest_append_singleton]
    cases w with
    | putInstance i =>
      obtain ⟨new, hnew, rfl⟩ := putInstance_ok takes
      simp only [Write.putInstance.injEq]
      refine mem_upsert_rows (isInstance_row hnew) hnew (fun j row' hrow' => ?_) ih
      have hold := instanceRow_ok hrow'
      have hrow := instanceRow_ok hnew
      rw [Write.TouchesInstance, hold.type, hrow.type, Instance.key, Instance.key, Prod.mk.injEq,
        hold.id_eq, hrow.id_eq, Except.ok.injEq, and_comm, eq_comm, eq_comm (a := row'.type)]
    | putRule r =>
      obtain ⟨-, -, rfl⟩ := putRule_ok takes
      simpa [Write.TouchesInstance] using ih
    | keepRules ids =>
      obtain ⟨-, rfl⟩ := keepRules_ok_iff.1 takes
      simpa [Write.TouchesInstance] using ih
  | other _ same ih => rw [same.instances, ih]

/-- A rule or an instance that was written has a row. -/
theorem exists_row (h : Written ws s) : (∀ r, .putRule r ∈ ws → ∃ row, ruleRow r = .ok row) ∧
    ∀ i, .putInstance i ∈ ws → ∃ row, instanceRow i = .ok row := by
  induction h with
  | empty => exact ⟨nofun, nofun⟩
  | @write ws w s s' _ takes ih =>
    refine ⟨fun r hr => ?_, fun i hi => ?_⟩
    · rcases List.mem_append.1 hr with hr | hr
      · exact ih.1 r hr
      · obtain rfl := List.mem_singleton.1 hr
        obtain ⟨row, hrow, -⟩ := putRule_ok takes
        exact ⟨row, hrow⟩
    · rcases List.mem_append.1 hi with hi | hi
      · exact ih.2 i hi
      · obtain rfl := List.mem_singleton.1 hi
        obtain ⟨row, hrow, -⟩ := putInstance_ok takes
        exact ⟨row, hrow⟩
  | other _ _ ih => exact ih

theorem row_of_rule (h : Written ws s) {r : Rule} (hstands : RuleStands ws r) :
    ∃ row ∈ s.rules, ruleRow r = .ok row := by
  obtain ⟨front, _, back, rfl, rfl, -⟩ := id hstands
  obtain ⟨row, hrow⟩ := h.exists_row.1 r (List.mem_append_right _ List.mem_cons_self)
  exact ⟨row, h.mem_rules_iff.2 ⟨r, hstands, hrow⟩, hrow⟩

theorem row_of_instance (h : Written ws s) {i : Instance} (hstands : InstanceStands ws i) :
    ∃ row ∈ s.instances, instanceRow i = .ok row := by
  obtain ⟨front, _, back, rfl, rfl, -⟩ := id hstands
  obtain ⟨row, hrow⟩ := h.exists_row.2 i (List.mem_append_right _ List.mem_cons_self)
  exact ⟨row, h.mem_instances_iff.2 ⟨i, hstands, hrow⟩, hrow⟩

theorem instance_type (h : Written ws s) {row : Instance} (hrow : row ∈ s.instances) :
    ∃ t, row.type = .text t := by
  obtain ⟨i, -, hi⟩ := h.mem_instances_iff.1 hrow
  exact (Column.requiredText_ok (instanceRow_ok hi).type).2

end Written

/-! ## Reading rules -/

/-- A row with its key is found. -/
theorem find?_of_key {α κ : Type} [DecidableEq κ] {key : α → κ} {rows : List α} {row : α}
    (hkeyed : (rows.map key).Nodup) (hrow : row ∈ rows) :
    rows.find? (fun a => key a = key row) = some row := by
  cases hfound : rows.find? (fun a => key a = key row) with
  | none => exact absurd (decide_eq_true rfl) (List.find?_eq_none.1 hfound row hrow)
  | some a =>
    have hkey : key a = key row := by simpa using List.find?_some hfound
    rw [List.inj_on_of_nodup_map hkeyed (List.mem_of_find?_eq_some hfound) hrow hkey]

theorem RulesKeyed.getRule (hs : s.RulesKeyed) {row : Rule} (hrow : row ∈ s.rules)
    (hfits : fits row.id = true) : s.getRule row.id = (readRule row).map some := by
  unfold Store.getRule
  simp only [Column.checked_eq hfits, ok_bind, find?_of_key hs hrow]

namespace Written

theorem exists_getRules_iff (h : Written ws s) :
    (∃ rules, s.getRules = .ok rules) ↔ ∀ r, RuleStands ws r → Legible r.qualityProfile := by
  unfold Store.getRules
  rw [exists_mapM_iff]
  constructor
  · intro hread r hstands
    obtain ⟨row, hrow, hr⟩ := h.row_of_rule hstands
    exact (exists_readRule_iff hr).1 (hread row (List.mem_mergeSort.2 hrow))
  · intro hlegible row hrow
    obtain ⟨r, hstands, hr⟩ := h.mem_rules_iff.1 (List.mem_mergeSort.1 hrow)
    exact (exists_readRule_iff hr).2 (hlegible r hstands)

theorem exists_getRulesOfType_iff (h : Written ws s) (t : String) :
    (∃ rules, s.getRulesOfType (.text t) = .ok rules) ↔ ∀ r, RuleStands ws r →
      Column.requiredText r.type = .ok (.text t) → Legible r.qualityProfile := by
  rw [getRulesOfType_text, exists_mapM_iff]
  constructor
  · intro hread r hstands htype
    obtain ⟨row, hrow, hr⟩ := h.row_of_rule hstands
    have hrowType : row.type = .text t := Except.ok.inj ((ruleRow_ok hr).type.symm.trans htype)
    refine (exists_readRule_iff hr).1 (hread row (List.mem_filter.2 ⟨List.mem_mergeSort.2 hrow, ?_⟩))
    exact Rule.isOneOf_singleton.2 hrowType
  · intro hlegible row hrow
    obtain ⟨hrow, htype⟩ := List.mem_filter.1 hrow
    obtain ⟨r, hstands, hr⟩ := h.mem_rules_iff.1 (List.mem_mergeSort.1 hrow)
    refine (exists_readRule_iff hr).2 (hlegible r hstands ?_)
    rw [(ruleRow_ok hr).type, Rule.isOneOf_singleton.1 htype]

theorem exists_getRule_iff (h : Written ws s) {id : Int} (hfits : fits id = true) :
    (∃ found, s.getRule id = .ok found) ↔
      ∀ r, RuleStands ws r → r.id = id → Legible r.qualityProfile := by
  constructor
  · rintro ⟨found, hfound⟩ r hstands rfl
    obtain ⟨row, hrow, hr⟩ := h.row_of_rule hstands
    rw [← (ruleRow_ok hr).id_eq] at hfits hfound
    rw [h.rulesKeyed.getRule hrow hfits] at hfound
    obtain ⟨back, hback, -⟩ := ok_of_map hfound
    exact (exists_readRule_iff hr).1 ⟨back, hback⟩
  · intro hlegible
    unfold Store.getRule
    rw [Column.checked_eq hfits, ok_bind]
    cases hfound : s.rules.find? fun a => a.id = id with
    | none => exact ⟨none, rfl⟩
    | some row =>
      obtain ⟨r, hstands, hr⟩ := h.mem_rules_iff.1 (List.mem_of_find?_eq_some hfound)
      have hid : row.id = id := by simpa using List.find?_some hfound
      obtain ⟨back, hback⟩ := (exists_readRule_iff hr).2
        (hlegible r hstands ((ruleRow_ok hr).id_eq.symm.trans hid))
      exact ⟨some back, by simp only [hback]; rfl⟩

/-- A rule that stands and can be read comes back from every read that ends. -/
theorem rule_comes_back (h : Written ws s) {r : Rule} (hstands : RuleStands ws r)
    (hr : r.IsTextual) (hlegible : Legible r.qualityProfile) :
    ∃ back, r.ComesBack back ∧ s.getRule r.id = .ok (some back) ∧
      (∀ rules, s.getRules = .ok rules → back ∈ rules) ∧
      ∀ rules, s.getRulesOfType r.type = .ok rules → back ∈ rules := by
  obtain ⟨row, hrow, hwritten⟩ := h.row_of_rule hstands
  obtain ⟨back, hback⟩ := (exists_readRule_iff hwritten).2 hlegible
  have hid := (ruleRow_ok hwritten).id_eq
  refine ⟨back, comesBack_of_readRule hr hwritten hback, ?_, fun rules hrules => ?_,
    fun rules hrules => ?_⟩
  · have hfits : fits row.id = true := hid ▸ (ruleRow_ok hwritten).fits.id
    rw [← hid, h.rulesKeyed.getRule hrow hfits, hback]
    rfl
  · obtain ⟨back', hmem, hback'⟩ := exists_mem_of_mapM_ok hrules (List.mem_mergeSort.2 hrow)
    rwa [Except.ok.inj (hback.symm.trans hback')]
  · obtain ⟨t, ht⟩ := hr.words r.type (by simp)
    have htype : row.type = .text t := by
      have hrowType := (ruleRow_ok hwritten).type
      rw [ht, Column.requiredText_text] at hrowType
      exact (Except.ok.inj hrowType).symm
    rw [ht, getRulesOfType_text] at hrules
    obtain ⟨back', hmem, hback'⟩ := exists_mem_of_mapM_ok hrules
      (List.mem_filter.2 ⟨List.mem_mergeSort.2 hrow, Rule.isOneOf_singleton.2 htype⟩)
    rwa [Except.ok.inj (hback.symm.trans hback')]

end Written

/-! ## Reading instances -/

/-- The type of a row as a text. -/
def typeText (i : Instance) : String := i.type.text?.getD ""

/-- A row is of the type that is asked for, if one is. -/
def IsAsked (type : Option String) (v : Value) : Prop := ∀ t, type = some t → t ≠ "" → v = .text t

theorem none_asks (v : Value) : IsAsked none v := nofun

/-- The type that is asked for, as reads take it. -/
def typeValue : Option String → Value
  | none => .null
  | some t => .text t

theorem empty_le (t : String) : "" ≤ t :=
  String.not_lt.1 fun h => List.not_lt_nil _ (String.lt_iff_toList_lt.1 h)

/-- Among rows whose types are texts, those whose types come first stand first. -/
theorem sortInstances_sorted {rows : List Instance} (hrows : ∀ row ∈ rows, ∃ t, row.type = .text t) :
    (sortInstances rows).Pairwise fun a b => typeText a ≤ typeText b := by
  have hsame : sortInstances rows = (sortedBy Instance.id rows).mergeSort fun a b =>
      decide (typeText a ≤ typeText b) := by
    have hcongr : ∀ a ∈ sortedBy Instance.id rows, ∀ b ∈ sortedBy Instance.id rows,
        Column.before a.type b.type = decide (typeText a ≤ typeText b) := by
      intro a ha b hb
      obtain ⟨t, ht⟩ := hrows a (List.mem_mergeSort.1 ha)
      obtain ⟨u, hu⟩ := hrows b (List.mem_mergeSort.1 hb)
      unfold typeText
      rw [ht, hu]
      rfl
    have hmap := List.map_mergeSort (r := fun a b : Instance => Column.before a.type b.type)
      (s := fun a b => decide (typeText a ≤ typeText b)) (f := id) hcongr
    rwa [List.map_id, List.map_id] at hmap
  rw [hsame]
  refine (List.pairwise_mergeSort ?_ ?_ _).imp of_decide_eq_true
  · intro a b c hab hbc
    exact decide_eq_true (String.le_trans (of_decide_eq_true hab) (of_decide_eq_true hbc))
  · intro a b
    simpa using String.le_total (typeText a) (typeText b)

theorem instanceRows_asked (s : Store) (type : Option String) :
    ∃ rows, s.instanceRows (typeValue type) = .ok (sortInstances rows) ∧
      ∀ row, row ∈ rows ↔ row ∈ s.instances ∧ IsAsked type row.type := by
  cases type with
  | none => exact ⟨s.instances, rfl, fun row => (and_iff_left nofun).symm⟩
  | some t =>
    by_cases ht : t = ""
    · subst ht
      exact ⟨s.instances, rfl, fun row => (and_iff_left fun _ h hne => absurd (Option.some.inj h).symm hne).symm⟩
    · have htruthy : (Value.text t).truthy = true := by simpa [Value.truthy] using ht
      refine ⟨s.instances.filter fun i => Column.same i.type (.text t), ?_, fun row => ?_⟩
      · unfold instanceRows typeValue
        rw [if_pos htruthy]
        rfl
      · rw [List.mem_filter, same_text, Rule.isOneOf_singleton]
        refine and_congr_right fun _ => ⟨fun htype u hu _ => ?_, fun h => h t rfl ht⟩
        rw [htype, Option.some.inj hu]

theorem mem_sortInstances {rows : List Instance} {row : Instance} :
    row ∈ sortInstances rows ↔ row ∈ rows := by
  rw [sortInstances, List.mem_mergeSort, sortedBy, List.mem_mergeSort]

/-- What a row of the asked type is read as is among what is listed. -/
theorem mem_of_getInstances {type : Option String} {row back : Instance} {is : List Instance}
    (hrow : row ∈ s.instances) (hasked : IsAsked type row.type) (hback : readInstance row = .ok back)
    (his : s.getInstances (typeValue type) = .ok is) : back ∈ is := by
  obtain ⟨rows, hrows, hmem⟩ := instanceRows_asked s type
  unfold Store.getInstances at his
  rw [hrows, ok_bind] at his
  obtain ⟨back', hmember, hback'⟩ := exists_mem_of_mapM_ok his
    (mem_sortInstances.2 ((hmem row).2 ⟨hrow, hasked⟩))
  rwa [Except.ok.inj (hback.symm.trans hback')]

/-- Of sorted rows the first with an id is one whose type comes first. -/
theorem find?_of_sorted {rows : List Instance} {row : Instance}
    (hsorted : rows.Pairwise fun a b => typeText a ≤ typeText b) (hrow : row ∈ rows)
    (hfirst : ∀ a ∈ rows, a.id = row.id → typeText a ≤ typeText row → a = row) :
    rows.find? (fun a => a.id = row.id) = some row := by
  induction rows with
  | nil => cases hrow
  | cons a rows ih =>
    obtain ⟨hhead, htail⟩ := List.pairwise_cons.1 hsorted
    obtain ⟨hfirstHead, hfirstTail⟩ := List.forall_mem_cons.1 hfirst
    rw [List.find?_cons]
    by_cases hid : a.id = row.id
    · have hle : typeText a ≤ typeText row := by
        rcases List.mem_cons.1 hrow with rfl | hrow
        · exact String.le_refl _
        · exact hhead row hrow
      simp [hfirstHead hid hle]
    · rcases List.mem_cons.1 hrow with rfl | hrow
      · exact absurd rfl hid
      · simpa [hid] using ih htail hrow hfirstTail

namespace Written

/-- A row is found by its id if no other row with that id is asked for before it. -/
theorem getInstance_row (h : Written ws s) {row : Instance} (hrow : row ∈ s.instances)
    (hfits : fits row.id = true) (type : Option String) (hasked : IsAsked type row.type)
    (hfirst : ∀ a ∈ s.instances, a.id = row.id → IsAsked type a.type → typeText row ≤ typeText a) :
    s.getInstance row.id (typeValue type) = (readInstance row).map some := by
  obtain ⟨rows, hrows, hmem⟩ := instanceRows_asked s type
  have hsorted := sortInstances_sorted fun a ha => h.instance_type ((hmem a).1 ha).1
  have hfound : (sortInstances rows).find? (fun a => a.id = row.id) = some row := by
    refine find?_of_sorted hsorted (mem_sortInstances.2 ((hmem row).2 ⟨hrow, hasked⟩)) ?_
    intro a ha hid hle
    obtain ⟨ha, haskedA⟩ := (hmem a).1 (mem_sortInstances.1 ha)
    obtain ⟨t, ht⟩ := h.instance_type ha
    obtain ⟨u, hu⟩ := h.instance_type hrow
    have hsame : typeText a = typeText row := String.le_antisymm hle (hfirst a ha hid haskedA)
    have hkey : a.key = row.key := by
      unfold typeText at hsame
      rw [ht, hu] at hsame
      have htu : t = u := hsame
      rw [Instance.key, Instance.key, hid, ht, hu, htu]
    exact List.inj_on_of_nodup_map h.instancesKeyed ha hrow hkey
  unfold Store.getInstance
  simp only [Column.checked_eq hfits, hrows, ok_bind, hfound]

theorem exists_getInstances_iff (h : Written ws s) (type : Option String) :
    (∃ is, s.getInstances (typeValue type) = .ok is) ↔ ∀ i v, InstanceStands ws i →
      Column.requiredText i.type = .ok v → IsAsked type v → Legible i.qualityProfile := by
  obtain ⟨rows, hrows, hmem⟩ := instanceRows_asked s type
  unfold Store.getInstances
  rw [hrows, ok_bind, exists_mapM_iff]
  constructor
  · intro hread i v hstands htype hasked
    obtain ⟨row, hrow, hi⟩ := h.row_of_instance hstands
    obtain rfl := Except.ok.inj ((instanceRow_ok hi).type.symm.trans htype)
    exact (exists_readInstance_iff hi).1
      (hread row (mem_sortInstances.2 ((hmem row).2 ⟨hrow, hasked⟩)))
  · intro hlegible row hrow
    obtain ⟨hrow, hasked⟩ := (hmem row).1 (mem_sortInstances.1 hrow)
    obtain ⟨i, hstands, hi⟩ := h.mem_instances_iff.1 hrow
    exact (exists_readInstance_iff hi).2 (hlegible i row.type hstands (instanceRow_ok hi).type hasked)

theorem exists_getInstance (h : Written ws s) {id : Int} (hfits : fits id = true)
    (type : Option String) (hlegible : ∀ i v, InstanceStands ws i → i.id = id →
      Column.requiredText i.type = .ok v → IsAsked type v → Legible i.qualityProfile) :
    ∃ found, s.getInstance id (typeValue type) = .ok found := by
  obtain ⟨rows, hrows, hmem⟩ := instanceRows_asked s type
  unfold Store.getInstance
  rw [Column.checked_eq hfits, hrows, ok_bind, ok_bind]
  cases hfound : (sortInstances rows).find? fun a => a.id = id with
  | none => exact ⟨none, rfl⟩
  | some row =>
    obtain ⟨hrow, hasked⟩ := (hmem row).1 (mem_sortInstances.1 (List.mem_of_find?_eq_some hfound))
    obtain ⟨i, hstands, hi⟩ := h.mem_instances_iff.1 hrow
    have hid : row.id = id := by simpa using List.find?_some hfound
    obtain ⟨back, hback⟩ := (exists_readInstance_iff hi).2 (hlegible i row.type hstands
      ((instanceRow_ok hi).id_eq.symm.trans hid) (instanceRow_ok hi).type hasked)
    exact ⟨some back, by simp only [hback]; rfl⟩

theorem exists_getDefaultInstance (h : Written ws s)
    (hlegible : ∀ i, InstanceStands ws i → Legible i.qualityProfile) (type : String) :
    ∃ found, s.getDefaultInstance type = .ok found := by
  unfold Store.getDefaultInstance
  split
  · rename_i row hfound
    obtain ⟨i, hstands, hi⟩ := h.mem_instances_iff.1 (List.mem_of_find?_eq_some hfound)
    obtain ⟨back, hback⟩ := (exists_readInstance_iff hi).2 (hlegible i hstands)
    exact ⟨some back, by rw [hback]; rfl⟩
  · exact ⟨none, rfl⟩

/-- An instance that stands and can be read comes back from every read that ends: by its id and type, by
its id alone if its type comes first among those with that id, and among all and among those of its
type. -/
theorem instance_comes_back (h : Written ws s) {i : Instance} (hstands : InstanceStands ws i)
    (hi : i.IsTextual) (hlegible : Legible i.qualityProfile) :
    ∃ back, i.ComesBack back ∧ s.getInstance i.id i.type = .ok (some back) ∧
      ((∀ j t, InstanceStands ws j → j.id = i.id → Column.requiredText j.type = .ok (.text t) →
        typeText i ≤ t) → s.getInstance i.id .null = .ok (some back)) ∧
      ∀ is, s.getInstances .null = .ok is ∨ s.getInstances i.type = .ok is → back ∈ is := by
  obtain ⟨row, hrow, hwritten⟩ := h.row_of_instance hstands
  obtain ⟨back, hback⟩ := (exists_readInstance_iff hwritten).2 hlegible
  have htype := (instanceRow_ok hwritten).type
  have hid := (instanceRow_ok hwritten).id_eq
  obtain ⟨t, ht⟩ := hi.words i.type (by simp)
  rw [ht, Column.requiredText_text] at htype
  have hrowType : row.type = .text t := (Except.ok.inj htype).symm
  have hrowText : typeText row = t := by
    unfold typeText
    rw [hrowType]
    rfl
  have hfits : fits row.id = true := hid ▸ (instanceRow_ok hwritten).fits.id
  have hmine : IsAsked (some t) row.type := fun u hu _ => by rw [hrowType, Option.some.inj hu]
  refine ⟨back, comesBack_of_readInstance hi hwritten hback, ?_, fun hfirst => ?_, ?_⟩
  · rw [← hid, ht]
    refine (h.getInstance_row hrow hfits (some t) hmine fun a ha _ hasked => ?_).trans
      (by rw [hback]; rfl)
    by_cases hempty : t = ""
    · rw [hrowText, hempty]
      exact empty_le _
    · unfold typeText
      rw [hasked t rfl hempty, hrowType]
  · rw [← hid]
    refine (h.getInstance_row hrow hfits none (none_asks _) fun a ha hsame _ => ?_).trans
      (by rw [hback]; rfl)
    obtain ⟨j, hj, hwrittenJ⟩ := h.mem_instances_iff.1 ha
    obtain ⟨u, hu⟩ := h.instance_type ha
    have hrowJ := instanceRow_ok hwrittenJ
    have hle := hfirst j u hj (hrowJ.id_eq.symm.trans (hsame.trans hid)) (hu ▸ hrowJ.type)
    unfold typeText at hle ⊢
    rw [ht] at hle
    rw [hrowType, hu]
    exact hle
  · rintro is (his | his)
    · exact mem_of_getInstances hrow (none_asks _) hback his
    · rw [ht] at his
      exact mem_of_getInstances hrow hmine hback his

end Written

/-! ## What comes of it -/

/-- How rules are read, given what was written. -/
structure RecallsRules (ws : List Write) (s : Store) : Prop where
  all : (∃ rules, s.getRules = .ok rules) ↔ ∀ r, RuleStands ws r → Legible r.qualityProfile
  ofType : ∀ t, (∃ rules, s.getRulesOfType (.text t) = .ok rules) ↔ ∀ r, RuleStands ws r →
    Column.requiredText r.type = .ok (.text t) → Legible r.qualityProfile
  one : ∀ id, fits id = true → ((∃ found, s.getRule id = .ok found) ↔
    ∀ r, RuleStands ws r → r.id = id → Legible r.qualityProfile)
  back : ∀ r, RuleStands ws r → r.IsTextual → Legible r.qualityProfile →
    ∃ back, r.ComesBack back ∧ s.getRule r.id = .ok (some back) ∧
      (∀ rules, s.getRules = .ok rules → back ∈ rules) ∧
      ∀ rules, s.getRulesOfType r.type = .ok rules → back ∈ rules

/-- How instances are read, given what was written. -/
structure RecallsInstances (ws : List Write) (s : Store) : Prop where
  all : ∀ type, (∃ is, s.getInstances (typeValue type) = .ok is) ↔ ∀ i v, InstanceStands ws i →
    Column.requiredText i.type = .ok v → IsAsked type v → Legible i.qualityProfile
  one : ∀ id type, fits id = true → (∀ i v, InstanceStands ws i → i.id = id →
    Column.requiredText i.type = .ok v → IsAsked type v → Legible i.qualityProfile) →
      ∃ found, s.getInstance id (typeValue type) = .ok found
  default : (∀ i, InstanceStands ws i → Legible i.qualityProfile) →
    ∀ t, ∃ found, s.getDefaultInstance t = .ok found
  back : ∀ i, InstanceStands ws i → i.IsTextual → Legible i.qualityProfile →
    ∃ back, i.ComesBack back ∧ s.getInstance i.id i.type = .ok (some back) ∧
      ((∀ j t, InstanceStands ws j → j.id = i.id → Column.requiredText j.type = .ok (.text t) →
        typeText i ≤ t) → s.getInstance i.id .null = .ok (some back)) ∧
      ∀ is, s.getInstances .null = .ok is ∨ s.getInstances i.type = .ok is → back ∈ is

namespace Written

/-- A read fails exactly if it comes upon a quality profile that cannot be read; all else comes back. -/
theorem recalls (h : Written ws s) : RecallsRules ws s ∧ RecallsInstances ws s where
  left :=
    ⟨h.exists_getRules_iff, h.exists_getRulesOfType_iff, fun _ hfits => h.exists_getRule_iff hfits,
      fun _ hstands hr hlegible => h.rule_comes_back hstands hr hlegible⟩
  right :=
    ⟨h.exists_getInstances_iff, fun _ type hfits => h.exists_getInstance hfits type,
      h.exists_getDefaultInstance, fun _ hstands hi hlegible => h.instance_comes_back hstands hi hlegible⟩

/-- The criteria of the stored rules are mappings. -/
theorem criteriaMapped (h : Written ws s) : s.CriteriaMapped := fun row hrow => by
  obtain ⟨r, -, hr⟩ := h.mem_rules_iff.1 hrow
  obtain ⟨entries, -, hentries⟩ := (ruleRow_ok hr).criteria
  exact ⟨entries, hentries⟩

/-- If only legible quality profiles were written, all rules and all instances can be read. -/
theorem reads (h : Written ws s) (hlegible : ∀ w ∈ ws, w.Legible) :
    (∃ rules, s.getRules = .ok rules) ∧ ∃ is, s.getInstances .null = .ok is := by
  refine ⟨h.exists_getRules_iff.2 fun r hr => ?_, (h.exists_getInstances_iff none).2 fun i _ hi _ _ => ?_⟩
  · obtain ⟨front, _, back, rfl, rfl, -⟩ := hr
    exact hlegible (.putRule r) (List.mem_append_right _ List.mem_cons_self)
  · obtain ⟨front, _, back, rfl, rfl, -⟩ := hi
    exact hlegible (.putInstance i) (List.mem_append_right _ List.mem_cons_self)

end Written

end Store

end Watchgate
