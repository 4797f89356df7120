import Watchgate.Proofs.Condition.BooleanLaws
import Mathlib.Data.List.Lattice
import Mathlib.Data.List.Pairwise

/-!
# What checking a condition says about judging it

A condition is checked against the families in the order in which they are listed, and judged by those
that the evaluator of conditional rules knows, in the order of their priority. No two families answer for
one field, so both find the same family for each field (`familyFor?_congr`), whatever the order.

A condition without a problem is judged by comparing data alone: no leaf meets an unknown field or
operator. A leaf with a problem holds for nothing (`problem?_predicts_judge`).
-/

namespace Watchgate

open Criteria

namespace Condition

/-! ## The family of a field -/

/-- No two families answer for one field. -/
theorem eq_of_claims {f g : Family} {field : String} (hf : f ∈ fieldFamilies)
    (hg : g ∈ fieldFamilies) (hfield : f.claims field = true) (hfield' : g.claims field = true) :
    f = g := by
  have hnodup : (fieldFamilies.flatMap Family.fields).Nodup := by decide
  have hapart := (List.nodup_flatMap.1 hnodup).2
  by_contra hne
  have hsymm : Std.Symm (Function.onFun List.Disjoint Family.fields) := ⟨fun _ _ h => h.symm⟩
  have hdisjoint := hapart.forall hf hg hne
  exact hdisjoint (by simpa [Family.claims] using hfield) (by simpa [Family.claims] using hfield')

variable {fs : List Family}

theorem mem_of_familyFor? {field : String} {f : Family} (h : familyFor? fs field = some f) :
    f ∈ fs ∧ f.claims field = true := by
  have hclaims := List.find?_some h
  exact ⟨List.mem_of_find?_eq_some h, hclaims⟩

/-- Whatever the order, the family of a field is the one that answers for it. -/
theorem familyFor?_eq_some_iff (hfs : ∀ f, f ∈ fs ↔ f ∈ fieldFamilies) {field : String}
    {f : Family} : familyFor? fs field = some f ↔ f ∈ fieldFamilies ∧ f.claims field = true := by
  constructor
  · intro h
    obtain ⟨hf, hclaims⟩ := mem_of_familyFor? h
    exact ⟨(hfs f).1 hf, hclaims⟩
  · rintro ⟨hf, hclaims⟩
    have hsome : (familyFor? fs field).isSome := List.find?_isSome.2 ⟨f, (hfs f).2 hf, hclaims⟩
    obtain ⟨g, hg⟩ := Option.isSome_iff_exists.1 hsome
    obtain ⟨hgmem, hgclaims⟩ := mem_of_familyFor? hg
    rw [hg, eq_of_claims ((hfs g).1 hgmem) hf hgclaims hclaims]

theorem familyFor?_congr (hfs : ∀ f, f ∈ fs ↔ f ∈ fieldFamilies) (field : String) :
    familyFor? fs field = familyFor? fieldFamilies field := by
  ext f
  rw [familyFor?_eq_some_iff hfs, familyFor?_eq_some_iff fun _ => Iff.rfl]

/-- The evaluator of conditional rules knows the families that answer for fields, if it was made of all
families. -/
theorem mem_leafFamilies (hfs : ∀ f, f ∈ fs ↔ f ∈ families) {e : Evaluator} {known : List Family}
    (he : e ∈ evaluatorsOf fs) (hknown : e.leafFamilies = some known) (f : Family) :
    f ∈ known ↔ f ∈ fieldFamilies := by
  obtain ⟨g, -, rfl⟩ := List.mem_map.1 he
  dsimp only at hknown
  split at hknown
  · obtain rfl := Option.some.inj hknown
    have hconditional : ∀ g ∈ fieldFamilies, g.isConditional = false := by decide
    rw [List.mem_filter, byPriority, List.mem_mergeSort, hfs, families, List.mem_cons]
    constructor
    · rintro ⟨rfl | hf, hother⟩
      · cases hother
      · exact hf
    · intro hf
      exact ⟨.inr hf, by simp [hconditional f hf]⟩
  · cases hknown

/-! ## Problems -/

/-- Some family answers for the leaf's field and knows its operator. -/
def Supported (l : Leaf) : Prop :=
  ∃ f ∈ fieldFamilies, f.claims l.field = true ∧ l.operator.isOneOf (f.operatorsFor l.field) = true

/-- The text tells what is wrong with a leaf. -/
inductive Describes (l : Leaf) : String → Prop
  /-- Nobody answers for the field. -/
  | field (h : ∀ f ∈ fieldFamilies, f.claims l.field = false) :
    Describes l ("unknown field '" ++ l.field ++ "'")
  /-- The family that answers for the field does not know the operator. -/
  | operator {f : Family} (hf : f ∈ fieldFamilies) (hclaims : f.claims l.field = true)
    (h : l.operator.isOneOf (f.operatorsFor l.field) = false) :
    Describes l ("operator '" ++ l.operator.display ++ "' is not supported for field '" ++ l.field
      ++ "'")

theorem Describes.not_supported {l : Leaf} {text : String} (h : Describes l text) :
    ¬ Supported l := by
  rintro ⟨g, hg, hclaims, hoperator⟩
  cases h with
  | field h =>
    rw [h g hg] at hclaims
    cases hclaims
  | operator hf hclaims' h =>
    obtain rfl := eq_of_claims hg hf hclaims hclaims'
    rw [h] at hoperator
    cases hoperator

/-- A leaf is supported, or it is told what is wrong with it. -/
theorem leafProblem?_cases (l : Leaf) :
    (leafProblem? fieldFamilies l = none ∧ Supported l) ∨
      ∃ text, leafProblem? fieldFamilies l = some text ∧ Describes l text := by
  unfold leafProblem?
  cases hf : familyFor? fieldFamilies l.field with
  | none =>
    refine .inr ⟨_, rfl, .field fun f hf' => ?_⟩
    simpa using List.find?_eq_none.1 hf f hf'
  | some f =>
    obtain ⟨hmem, hclaims⟩ := (familyFor?_eq_some_iff fun _ => Iff.rfl).1 hf
    dsimp only
    split
    · rename_i hoperator
      exact .inl ⟨rfl, f, hmem, hclaims, hoperator⟩
    · rename_i hoperator
      exact .inr ⟨_, rfl, .operator hmem hclaims (by simpa using hoperator)⟩

theorem leafProblem?_eq_none_iff {l : Leaf} :
    leafProblem? fieldFamilies l = none ↔ Supported l := by
  rcases leafProblem?_cases l with ⟨hnone, hl⟩ | ⟨text, htext, hl⟩
  · simp [hnone, hl]
  · simp [htext, hl.not_supported]

theorem describes_of_leafProblem? {l : Leaf} {text : String}
    (h : leafProblem? fieldFamilies l = some text) : Describes l text := by
  rcases leafProblem?_cases l with ⟨hnone, -⟩ | ⟨text', htext, hl⟩
  · rw [hnone] at h
    cases h
  · rw [htext] at h
    exact Option.some.inj h ▸ hl

theorem firstProblem?_eq_findSome? {cs : List Condition}
    (h : ∀ c ∈ cs, problem? fs c = c.leaves.findSome? (leafProblem? fs)) :
    firstProblem? fs cs = (cs.flatMap leaves).findSome? (leafProblem? fs) := by
  induction cs with
  | nil => rfl
  | cons c cs ih =>
    rw [List.forall_mem_cons] at h
    rw [firstProblem?, h.1, ih h.2, List.flatMap_cons, List.findSome?_append]

/-- The problem of a condition is that of the first leaf that has one. -/
theorem problem?_eq_findSome? (c : Condition) :
    problem? fs c = c.leaves.findSome? (leafProblem? fs) := by
  induction c using children_induction with
  | leaf l negated => rw [problem?, leaves_leaf]; simp
  | group k children negated ih => rw [problem?, leaves_group, firstProblem?_eq_findSome? ih]

/-! ## Judging -/

variable {item : Item} {context : Context}

theorem judgeLeaf_congr {fs' : List Family} {l : Leaf}
    (h : familyFor? fs l.field = familyFor? fs' l.field) :
    judgeLeaf fs l item context = judgeLeaf fs' l item context := by
  unfold judgeLeaf
  rw [h]

/-- A leaf that is supported is compared with the data, and nothing else happens to it. -/
theorem judgeLeaf_of_supported {l : Leaf} (h : Supported l) :
    ∃ f o, familyFor? fieldFamilies l.field = some f ∧ l.operator = .text o ∧
      judgeLeaf fieldFamilies l item context
        = forgiving l.field (f.holds o l.value item context) := by
  obtain ⟨f, hf, hclaims, hoperator⟩ := h
  have hfamily : familyFor? fieldFamilies l.field = some f :=
    (familyFor?_eq_some_iff fun _ => Iff.rfl).2 ⟨hf, hclaims⟩
  obtain ⟨o, hmem, ho⟩ := Value.text_of_isOneOf hoperator
  refine ⟨f, o, hfamily, ho, ?_⟩
  have hknown : o ∈ f.operatorNames := by simpa [Family.operatorsFor, hclaims] using hmem
  unfold judgeLeaf
  rw [hfamily]
  dsimp only
  unfold Family.judge
  simp [hclaims, ho, Value.hashable, Value.isOneOf, hknown]

/-- A leaf with a problem holds for nothing. -/
theorem outcome_judgeLeaf_of_not_supported {l : Leaf} (h : ¬ Supported l) :
    outcome (judgeLeaf fieldFamilies l item context) = .ok false := by
  cases hf : familyFor? fieldFamilies l.field with
  | none => exact outcome_judgeLeaf_of_unclaimed hf
  | some f =>
    obtain ⟨hmem, hclaims⟩ := (familyFor?_eq_some_iff fun _ => Iff.rfl).1 hf
    have hoperator : l.operator.isOneOf f.operatorNames = false := by
      by_contra hne
      exact h ⟨f, hmem, hclaims, by simpa [Family.operatorsFor, hclaims] using hne⟩
    cases hhash : l.operator.hashable with
    | false =>
      have hfails : outcome (f.judge l item context)
          = .error (.kind (.unhashable l.operator.kind)) := by
        unfold Family.judge
        simp only [hclaims, hhash]
        rfl
      exact outcome_judgeLeaf_of_misfit hf hfails rfl
    | true =>
      refine outcome_judgeLeaf_of_ok hf ?_
      unfold Family.judge
      simp only [hclaims, hhash, hoperator]
      rfl

theorem judgeAll_congr {fs' : List Family} {cs : List Condition}
    (h : ∀ c ∈ cs, judge fs item context c = judge fs' item context c) :
    judgeAll fs item context cs = judgeAll fs' item context cs := by
  induction cs with
  | nil => rw [judgeAll, judgeAll]
  | cons c cs ih =>
    rw [List.forall_mem_cons] at h
    rw [judgeAll, judgeAll, h.1, ih h.2]

theorem judgeAny_congr {fs' : List Family} {cs : List Condition}
    (h : ∀ c ∈ cs, judge fs item context c = judge fs' item context c) :
    judgeAny fs item context cs = judgeAny fs' item context cs := by
  induction cs with
  | nil => rw [judgeAny, judgeAny]
  | cons c cs ih =>
    rw [List.forall_mem_cons] at h
    rw [judgeAny, judgeAny, h.1, ih h.2]

/-- Judging looks at the families only to find those of the fields. -/
theorem judge_congr {fs' : List Family} (h : ∀ field, familyFor? fs field = familyFor? fs' field)
    (c : Condition) : judge fs item context c = judge fs' item context c := by
  induction c using children_induction with
  | leaf l negated => rw [judge, judge, judgeLeaf_congr (h l.field)]
  | group k children negated ih =>
    cases k with
    | all => rw [judge, judge, judgeAll_congr ih]
    | any => rw [judge, judge, judgeAny_congr ih]

/-- A condition is without a problem exactly if each of its leaves is supported; otherwise the problem is
that of the first leaf that is not. The evaluator of conditional rules hands the leaves of a condition
without a problem to the families that the check found, and nothing else happens to them; the leaf with
the problem holds for nothing. -/
theorem problem?_predicts_judge {e : Evaluator} {known : List Family}
    (hfs : ∀ f, f ∈ fs ↔ f ∈ families) (he : e ∈ evaluatorsOf fs)
    (hknown : e.leafFamilies = some known) (c : Condition) :
    (c.problem? fieldFamilies = none ↔ ∀ l ∈ c.leaves, Supported l) ∧
      (∀ text, c.problem? fieldFamilies = some text → ∃ left l right,
        c.leaves = left ++ l :: right ∧ (∀ k ∈ left, Supported k) ∧ ¬ Supported l ∧
          Describes l text ∧
          ∀ item context, outcome (judgeLeaf known l item context) = .ok false) ∧
      ∀ item context, c.judge known item context = c.judge fieldFamilies item context ∧
        (c.problem? fieldFamilies = none → ∀ l ∈ c.leaves, ∃ f o,
          familyFor? fieldFamilies l.field = some f ∧ familyFor? known l.field = some f ∧
            l.operator = .text o ∧
            judgeLeaf known l item context
              = forgiving l.field (f.holds o l.value item context)) := by
  have hsame := familyFor?_congr (mem_leafFamilies hfs he hknown)
  have hnone : c.problem? fieldFamilies = none ↔ ∀ l ∈ c.leaves, Supported l := by
    simp only [problem?_eq_findSome?, List.findSome?_eq_none_iff, leafProblem?_eq_none_iff]
  refine ⟨hnone, fun text htext => ?_, fun item context => ⟨judge_congr hsame c, ?_⟩⟩
  · rw [problem?_eq_findSome?, List.findSome?_eq_some_iff] at htext
    obtain ⟨left, l, right, hleaves, hl, hleft⟩ := htext
    have hdescribes := describes_of_leafProblem? hl
    refine ⟨left, l, right, hleaves, fun k hk => leafProblem?_eq_none_iff.1 (hleft k hk),
      hdescribes.not_supported, hdescribes, fun item context => ?_⟩
    rw [judgeLeaf_congr (hsame l.field)]
    exact outcome_judgeLeaf_of_not_supported hdescribes.not_supported
  · intro hgood l hl
    obtain ⟨f, o, hf, ho, hjudge⟩ := judgeLeaf_of_supported (hnone.1 hgood l hl)
    refine ⟨f, o, hf, (hsame l.field).trans hf, ho, ?_⟩
    rw [judgeLeaf_congr (hsame l.field)]
    exact hjudge

/-- The language is asked for under another name of its field, and a year is asked whether it contains
another. -/
theorem problem?_predicts_judge_two_leaves :
    let language : Leaf := ⟨"originalLanguage", .text "equals", .text "French"⟩
    let year : Leaf := ⟨"year", .text "contains", .int 1984⟩
    let text := "operator 'contains' is not supported for field 'year'"
    conditionEvaluator ∈ evaluatorsOf families ∧
      (Condition.leaf language true).problem? fieldFamilies = none ∧
      (Condition.group .any [.leaf language true, .leaf year false] false).problem? fieldFamilies
        = some text ∧
      ∀ item context,
        judgeLeaf fieldFamilies language item context = forgiving "originalLanguage"
          (Criteria.language.holds "equals" (.text "French") item context) ∧
        outcome (judgeLeaf fieldFamilies year item context) = .ok false := by
  intro language year text
  have hgood : (Condition.leaf language true).problem? fieldFamilies = none := rfl
  have hbad : (Condition.group .any [.leaf language true, .leaf year false] false).problem?
      fieldFamilies = some text := rfl
  refine ⟨conditionEvaluator_mem, hgood, hbad, fun item context => ⟨?_, ?_⟩⟩
  · obtain ⟨-, -, hjudges⟩ := problem?_predicts_judge (fun _ => Iff.rfl) conditionEvaluator_mem rfl
      (.leaf language true)
    obtain ⟨f, o, hf, -, ho, hjudge⟩ :=
      (hjudges item context).2 hgood language (List.mem_singleton_self _)
    obtain rfl : Criteria.language = f := Option.some.inj hf
    obtain rfl : "equals" = o := Value.text.inj ho
    exact hjudge
  · obtain ⟨-, hproblem, -⟩ := problem?_predicts_judge (fun _ => Iff.rfl) conditionEvaluator_mem rfl
      (.group .any [.leaf language true, .leaf year false] false)
    obtain ⟨left, l, right, hleaves, -, hl, -, hfalse⟩ := hproblem text hbad
    have hlanguage : Supported language := (problem?_predicts_judge (fun _ => Iff.rfl)
      conditionEvaluator_mem rfl (.leaf language true)).1.1 hgood language (List.mem_singleton_self _)
    have hmem : l ∈ [language, year] := by
      change l ∈ (Condition.group .any [.leaf language true, .leaf year false] false).leaves
      rw [hleaves]
      simp
    rcases List.mem_pair.1 hmem with rfl | rfl
    · exact absurd hlanguage hl
    · exact hfalse item context

end Condition
end Watchgate
