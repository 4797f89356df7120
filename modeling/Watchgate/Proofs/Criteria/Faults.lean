import Watchgate.Proofs.Criteria.Shorthand

/-!
# Criteria that cannot be judged

Whatever a rule's criteria hold, most of it is an answer: a value of the wrong kind, an unknown operator
and a missing condition match nothing. Three things are no answer: an operator that is a list or a
mapping, a pattern that passes the screen and cannot be read for its counts or flags, and a user's name
of digits that write no number. Inside of a condition only the counts of a pattern remain, since all else
is forgiven there.

No family goes wrong for another reason (`judge_fails`), and so no evaluator does (`answer_fails`).
-/

namespace Watchgate

open Criteria

/-! ## Failures without an answer -/

namespace Pattern

open Screen

/-- The pattern passes the screen, and this is why it cannot be read. -/
def Unreadable (pattern : String) (failure : Failure) : Prop :=
  isSafe pattern = true ∧
    ∃ ignoreCase fault, read ignoreCase pattern = .error fault ∧ fault.failure? = some failure

theorem searchAny_fails {pattern : String} {values : List Value} {place : String} {ignoreCase : Bool}
    {failure : Failure} (h : (searchAny pattern values place ignoreCase).value = .error failure) :
    Unreadable pattern failure := by
  unfold searchAny at h
  split at h
  · cases h
  · rename_i hsafe
    split at h
    · rename_i fault hread
      split at h
      · rename_i cause hcause
        obtain rfl : cause = failure := Except.error.inj h
        exact ⟨by simpa using hsafe, ignoreCase, fault, hread, hcause⟩
      · cases h
    · cases h

end Pattern

namespace Criteria

namespace User

/-- The candidate is shown as digits, and this is why they write no number. -/
def Illegible (v : Value) (failure : Failure) : Prop :=
  v.int? = none ∧ Text.allDigits (Text.trim v.display) = true ∧
    Value.integerOfText (Text.trim v.display) = .error failure

theorem namesId_fails {ids : List Int} {text : String} {failure : Failure}
    (h : namesId ids text = .error failure) :
    Text.allDigits text = true ∧ Value.integerOfText text = .error failure := by
  unfold namesId at h
  split at h
  · rename_i hdigits
    exact ⟨hdigits, error_of_map h⟩
  · cases h

theorem isUser_fails {ids : List Int} {names : List String} {v : Value} {failure : Failure}
    (h : isUser ids names v = .error failure) : Illegible v failure := by
  have htext : ∀ w : Value, w.int? = none →
      (namesId ids (Text.trim w.display) >>= fun isId =>
        if isId then pure true
        else pure (names.contains (normal (.text (Text.trim w.display))))) = .error failure →
      Illegible w failure := by
    intro w hint hw
    rcases error_of_bind hw with hid | ⟨isId, -, hw⟩
    · exact ⟨hint, namesId_fails hid⟩
    · cases isId <;> cases hw
  cases v with
  | null => cases h
  | bool b => cases h
  | int n => cases h
  | real x => exact htext (.real x) rfl h
  | text s => exact htext (.text s) rfl h
  | list items => exact htext (.list items) rfl h
  | map entries => exact htext (.map entries) rfl h

theorem isAmong_fails {context : Context} {vs : List Value} {failure : Failure}
    (h : isAmong context vs = .error failure) : ∃ v ∈ vs, Illegible v failure := by
  unfold isAmong at h
  induction vs with
  | nil => cases h
  | cons v vs ih =>
    rcases error_of_bind h with hv | ⟨found, -, h⟩
    · exact ⟨v, List.mem_cons_self, isUser_fails hv⟩
    · cases found with
      | true => cases h
      | false =>
        obtain ⟨w, hw, hill⟩ := ih h
        exact ⟨w, .tail _ hw, hill⟩

end User

/-! ## Leaves -/

/-- Why a family cannot judge a leaf. -/
inductive Family.Hindrance (f : Family) (leaf : Leaf) : Failure → Prop
  /-- The operator is a list or a mapping. -/
  | operator (h : leaf.operator.hashable = false) :
    Hindrance f leaf (.kind (.unhashable leaf.operator.kind))
  /-- The value is a pattern that cannot be read. -/
  | pattern {p : String} {failure : Failure} (hknown : "regex" ∈ f.operatorNames)
    (hregex : leaf.operator = .text "regex") (hvalue : leaf.value = .text p)
    (h : Pattern.Unreadable p failure) : Hindrance f leaf failure
  /-- One of the users is named by digits that write no number. -/
  | candidate {v : Value} {failure : Failure} (huser : f.ruleType = user.ruleType)
    (hother : leaf.operator ≠ .text "regex") (hv : v ∈ User.candidates leaf.value)
    (h : User.Illegible v failure) : Hindrance f leaf failure

namespace Family

variable {item : Item} {context : Context} {failure : Failure}

theorem genre_holds_fails {operator : String} {v : Value}
    (h : outcome (genre.holds operator v item context) = .error failure) :
    operator = "regex" ∧ ∃ p, v = .text p ∧ Pattern.Unreadable p failure := by
  change outcome (Genre.holds operator v item context) = _ at h
  unfold Genre.holds at h
  dsimp only at h
  by_cases hheld : (Genre.present item).isEmpty = true
  · rw [if_pos hheld] at h
    cases h
  rw [if_neg hheld] at h
  split at h
  case h_6 =>
    cases v with
    | text p => exact ⟨rfl, p, rfl, Pattern.searchAny_fails h⟩
    | _ => cases h
  all_goals cases h

theorem certification_holds_fails {operator : String} {v : Value}
    (h : outcome (certification.holds operator v item context) = .error failure) :
    operator = "regex" ∧ ∃ p, v = .text p ∧ Pattern.Unreadable p failure := by
  simp only [certification] at h
  split at h
  · unfold Certification.holds at h
    split at h <;> try cases h
    exact ⟨rfl, _, rfl, Pattern.searchAny_fails h⟩
  · cases h

theorem user_holds_fails {operator : String} {v : Value}
    (h : outcome (user.holds operator v item context) = .error failure) :
    (operator = "regex" ∧ ∃ p, v = .text p ∧ Pattern.Unreadable p failure) ∨
      operator ≠ "regex" ∧ ∃ c ∈ User.candidates v, User.Illegible c failure := by
  change outcome (User.holds operator v item context) = _ at h
  unfold User.holds at h
  split at h
  · cases h
  · split at h
    · cases v with
      | text p =>
        left
        simp only at h
        split at h
        · cases h
        · exact ⟨rfl, p, rfl, Pattern.searchAny_fails h⟩
      | _ => cases h
    · exact .inr ⟨by decide, User.isAmong_fails h⟩
    · exact .inr ⟨by decide, User.isAmong_fails h⟩
    · split at h
      · cases h
      · exact .inr ⟨by decide, User.isAmong_fails (error_of_map h)⟩
    · split at h
      · cases h
      · exact .inr ⟨by decide, User.isAmong_fails (error_of_map h)⟩
    · cases h

/-- A family goes wrong over a leaf for one of three reasons. -/
theorem judge_fails {f : Family} (hf : f ∈ fieldFamilies) {leaf : Leaf}
    (h : outcome (f.judge leaf item context) = .error failure) :
    f.claims leaf.field = true ∧ f.Hindrance leaf failure := by
  unfold Family.judge at h
  split at h
  · cases h
  rename_i hclaims
  refine ⟨by simpa using hclaims, ?_⟩
  split at h
  · rename_i hhash
    obtain rfl : _ = failure := Except.error.inj h
    exact .operator (by simpa using hhash)
  split at h
  · rename_i hknown
    obtain ⟨o, hmem, ho⟩ := Value.text_of_isOneOf hknown
    have hshown : leaf.operator.display = o := by rw [ho]; rfl
    rw [hshown] at h
    have hpattern : o = "regex" ∧ (∃ p, leaf.value = .text p ∧ Pattern.Unreadable p failure) →
        f.Hindrance leaf failure := by
      rintro ⟨rfl, p, hp, hread⟩
      exact .pattern hmem ho hp hread
    simp only [fieldFamilies, List.mem_cons, List.not_mem_nil, or_false] at hf
    rcases hf with rfl | rfl | rfl | rfl | rfl | rfl
    · exact hpattern (genre_holds_fails h)
    · rcases user_holds_fails h with hregex | ⟨hother, c, hc, hill⟩
      · exact hpattern hregex
      · exact .candidate rfl (by simpa [ho] using hother) hc hill
    -- years, seasons and languages are compared without patterns and without reading numbers
    · cases h
    · cases h
    · cases h
    · exact hpattern (certification_holds_fails h)
  · cases h

end Family

end Criteria

/-! ## Conditions -/

namespace Condition

/-- Why one of several leaves cannot be judged, where that is not forgiven. -/
def Hindrance (families : List Family) (leaves : List Leaf) (failure : Failure) : Prop :=
  isMisfit failure = false ∧
    ∃ leaf ∈ leaves, ∃ f ∈ families, f.claims leaf.field = true ∧ f.Hindrance leaf failure

theorem Hindrance.mono {families : List Family} {leaves leaves' : List Leaf} {failure : Failure}
    (h : Hindrance families leaves failure) (hsub : leaves ⊆ leaves') :
    Hindrance families leaves' failure := by
  obtain ⟨hgrave, leaf, hleaf, hf⟩ := h
  exact ⟨hgrave, leaf, hsub hleaf, hf⟩

theorem forgiving_fails {field : String} {x : Judgement Bool} {failure : Failure}
    (h : outcome (forgiving field x) = .error failure) :
    isMisfit failure = false ∧ outcome x = .error failure := by
  unfold forgiving at h
  cases hx : outcome x with
  | ok b =>
    rw [outcome_tryCatch_of_ok hx] at h
    cases h
  | error e =>
    rw [outcome_tryCatch, hx] at h
    dsimp only at h
    cases hmisfit : isMisfit e with
    | true =>
      rw [hmisfit] at h
      cases h
    | false =>
      rw [hmisfit] at h
      obtain rfl : e = failure := Except.error.inj h
      exact ⟨hmisfit, rfl⟩

section Judging

variable {item : Item} {context : Context} {failure : Failure}

theorem judgeLeaf_fails {leaf : Leaf}
    (h : outcome (judgeLeaf fieldFamilies leaf item context) = .error failure) :
    Hindrance fieldFamilies [leaf] failure := by
  unfold judgeLeaf at h
  split at h
  · cases h
  · rename_i f hf
    obtain ⟨hgrave, h⟩ := forgiving_fails h
    have hmem := List.mem_of_find?_eq_some hf
    exact ⟨hgrave, leaf, List.mem_singleton_self leaf, f, hmem, Family.judge_fails hmem h⟩

mutual

/-- A condition goes wrong only where one of its leaves does. -/
theorem judge_fails {c : Condition}
    (h : outcome (judge fieldFamilies item context c) = .error failure) :
    Hindrance fieldFamilies c.leaves failure := by
  match c with
  | .leaf l negated =>
    rw [judge, outcome_bind] at h
    rcases error_of_bind h with h | ⟨_, -, h⟩
    · exact judgeLeaf_fails h
    · cases h
  | .group .all children negated =>
    rw [judge, outcome_bind] at h
    rcases error_of_bind h with h | ⟨_, -, h⟩
    · exact judgeAll_fails h
    · cases h
  | .group .any children negated =>
    rw [judge, outcome_bind] at h
    rcases error_of_bind h with h | ⟨_, -, h⟩
    · exact judgeAny_fails h
    · cases h

theorem judgeAll_fails {cs : List Condition}
    (h : outcome (judgeAll fieldFamilies item context cs) = .error failure) :
    Hindrance fieldFamilies (leavesOf cs) failure := by
  match cs with
  | [] =>
    rw [judgeAll] at h
    cases h
  | c :: cs =>
    rw [judgeAll, outcome_bind] at h
    rw [leavesOf]
    rcases error_of_bind h with h | ⟨holds, -, h⟩
    · exact (judge_fails h).mono (List.subset_append_left _ _)
    · cases holds with
      | true => exact (judgeAll_fails h).mono (List.subset_append_right _ _)
      | false => cases h

theorem judgeAny_fails {cs : List Condition}
    (h : outcome (judgeAny fieldFamilies item context cs) = .error failure) :
    Hindrance fieldFamilies (leavesOf cs) failure := by
  match cs with
  | [] =>
    rw [judgeAny] at h
    cases h
  | c :: cs =>
    rw [judgeAny, outcome_bind] at h
    rw [leavesOf]
    rcases error_of_bind h with h | ⟨holds, -, h⟩
    · exact (judge_fails h).mono (List.subset_append_left _ _)
    · cases holds with
      | true => cases h
      | false => exact (judgeAny_fails h).mono (List.subset_append_right _ _)

end

end Judging

end Condition

/-! ## Criteria that say nothing -/

namespace Criteria

/-- Whether a number can be compared with the value. -/
def isNumeric : Value → Bool
  | .int _ => true
  | .list items => (integers? items).isSome
  | .map entries => (Range.ofEntries? entries).isSome
  | _ => false

theorem Year.holds_of_not_numeric {v : Value} (h : isNumeric v = false) (n : Int) (operator : String) :
    Year.holds n operator v = false := by
  cases v with
  | int m => cases h
  | list items =>
    have hnone : integers? items = none := by simpa [isNumeric] using h
    simp [Year.holds, hnone]
  | map entries =>
    have hnone : Range.ofEntries? entries = none := by simpa [isNumeric] using h
    simp [Year.holds, hnone]
  | _ => rfl

theorem Season.holds_of_not_numeric {v : Value} (h : isNumeric v = false) (ns : List Int)
    (operator : String) : Season.holds ns operator v = false := by
  cases ns with
  | nil => rfl
  | cons n ns =>
    cases v with
    | int m => cases h
    | list items =>
      have hnone : integers? items = none := by simpa [isNumeric] using h
      simp [Season.holds, hnone]
    | map entries =>
      have hnone : Range.ofEntries? entries = none := by simpa [isNumeric] using h
      simp [Season.holds, hnone]
    | _ => rfl

namespace Family

variable {item : Item} {context : Context} {f : Family} {leaf : Leaf}

/-- A leaf holds only with an operator that the family knows, and only if the comparison does. -/
theorem holds_of_judge (h : outcome (f.judge leaf item context) = .ok true) :
    leaf.operator.isOneOf f.operatorNames = true ∧
      outcome (f.holds leaf.operator.display leaf.value item context) = .ok true := by
  unfold Family.judge at h
  split at h
  · cases h
  split at h
  · cases h
  split at h
  · rename_i hknown
    exact ⟨hknown, h⟩
  · cases h

theorem judge_of_unknown_operator (h : leaf.operator.isOneOf f.operatorNames = false) :
    outcome (f.judge leaf item context) ≠ .ok true := by
  intro hjudge
  rw [(holds_of_judge hjudge).1] at h
  cases h

theorem judge_of_not_numeric (hf : f = year ∨ f = season) (h : isNumeric leaf.value = false) :
    outcome (f.judge leaf item context) ≠ .ok true := by
  intro hjudge
  have hholds := (holds_of_judge hjudge).2
  rcases hf with rfl | rfl
  · simp [year, Year.holds_of_not_numeric h, outcome] at hholds
  · simp [season, Season.holds_of_not_numeric h, outcome] at hholds

end Family

end Criteria

/-! ## Rules -/

namespace Criteria

namespace Evaluator

/-- Why an evaluator cannot judge a rule. -/
inductive Hindrance (e : Evaluator) (r : Rule) : Failure → Prop
  /-- The family cannot judge the leaf that the rule's shorthand stands for. -/
  | shorthand {leaf : Leaf} {failure : Failure} (hfamilies : e.leafFamilies = none)
    (hleaf : e.family.shorthand r.criteria = .ok (some leaf))
    (h : e.family.Hindrance leaf failure) : Hindrance e r failure
  /-- A leaf of the rule's condition cannot be judged. -/
  | condition {families : List Family} {raw : Value} {c : Condition} {failure : Failure}
    (hfamilies : e.leafFamilies = some families) (hraw : conditionOf r = .ok raw)
    (hc : Condition.decode raw = .ok c) (h : Condition.Hindrance families c.leaves failure) :
    Hindrance e r failure

/-- Criteria that say nothing to an evaluator. -/
inductive Void (e : Evaluator) (r : Rule) : Prop
  /-- The shorthand holds no value for the family. -/
  | valueless (hfamilies : e.leafFamilies = none) (h : e.family.shorthand r.criteria = .ok none)
  /-- The family does not know the operator. -/
  | operator {leaf : Leaf} (hfamilies : e.leafFamilies = none)
    (hleaf : e.family.shorthand r.criteria = .ok (some leaf))
    (h : leaf.operator.isOneOf e.family.operatorNames = false)
  /-- A number is compared with what is neither a number nor a list or range of numbers. -/
  | number {leaf : Leaf} (hfamilies : e.leafFamilies = none)
    (hfamily : e.family = year ∨ e.family = season)
    (hleaf : e.family.shorthand r.criteria = .ok (some leaf)) (h : isNumeric leaf.value = false)
  /-- There is no condition. -/
  | unconditional (hfamilies : e.leafFamilies.isSome = true) (h : conditionOf r = .ok .null)
  /-- The condition cannot be read. -/
  | malformed {raw : Value} {fault : ConditionFault} (hfamilies : e.leafFamilies.isSome = true)
    (hraw : conditionOf r = .ok raw) (h : Condition.decode raw = .error fault)

variable {item : Item} {context : Context} {r : Rule}

theorem Hindrance.of_criteria {e : Evaluator} {r' : Rule} {failure : Failure}
    (h : e.Hindrance r failure) (hsame : r'.criteria = r.criteria) : e.Hindrance r' failure := by
  have hcondition : conditionOf r' = conditionOf r := by rw [conditionOf, hsame, conditionOf]
  cases h with
  | shorthand hfamilies hleaf h => exact .shorthand hfamilies (hsame ▸ hleaf) h
  | condition hfamilies hraw hc h => exact .condition hfamilies (hcondition.trans hraw) hc h

theorem Void.of_criteria {e : Evaluator} {r' : Rule} (h : e.Void r)
    (hsame : r'.criteria = r.criteria) : e.Void r' := by
  have hcondition : conditionOf r' = conditionOf r := by rw [conditionOf, hsame, conditionOf]
  cases h with
  | valueless hfamilies h => exact .valueless hfamilies (hsame ▸ h)
  | operator hfamilies hleaf h => exact .operator hfamilies (hsame ▸ hleaf) h
  | number hfamilies hfamily hleaf h => exact .number hfamilies hfamily (hsame ▸ hleaf) h
  | unconditional hfamilies h => exact .unconditional hfamilies (hcondition.trans h)
  | malformed hfamilies hraw h => exact .malformed hfamilies (hcondition.trans hraw) h

@[simp] theorem outcome_skip (ruleType reason : String) : outcome (skip ruleType r reason) = .ok false :=
  rfl

theorem firstValue_of_map (entries : Entries) (keys : List String) :
    ∃ found, Family.firstValue (.map entries) keys = .ok found := by
  induction keys with
  | nil => exact ⟨none, rfl⟩
  | cons key keys ih =>
    unfold Family.firstValue
    simp only [Family.holdsKey, Family.valueAt, ok_bind]
    split
    · split
      · exact ih
      · exact ⟨_, rfl⟩
    · exact ih

theorem orElse_map {v : Value} (h : ∃ entries, v = .map entries) :
    ∃ entries, v.orElse (.map []) = .map entries := by
  unfold Value.orElse
  split
  · exact h
  · exact ⟨[], rfl⟩

/-- A shorthand of entries can be read. -/
theorem shorthand_of_map (f : Family) {criteria : Value} (h : ∃ entries, criteria = .map entries) :
    ∃ leaf, f.shorthand criteria = .ok leaf := by
  obtain ⟨entries, hentries⟩ := orElse_map h
  obtain ⟨found, hfound⟩ := firstValue_of_map entries f.criteriaKeys
  unfold Family.shorthand
  rw [hentries, hfound]
  cases found <;> exact ⟨_, rfl⟩

theorem conditionOf_of_map (h : ∃ entries, r.criteria = .map entries) :
    ∃ raw, conditionOf r = .ok raw := by
  obtain ⟨entries, hentries⟩ := orElse_map h
  unfold conditionOf
  rw [hentries]
  exact ⟨_, rfl⟩

/-- An evaluator goes wrong over a rule only for one of the reasons above. -/
theorem answer_fails {e : Evaluator} (he : e ∈ evaluators) (hmap : ∃ entries, r.criteria = .map entries)
    {failure : Failure} (h : e.answer item context r = .error failure) : e.Hindrance r failure := by
  rw [evaluators_eq] at he
  rcases List.mem_cons.1 he with rfl | he
  · obtain ⟨raw, hraw⟩ := conditionOf_of_map hmap
    change outcome (matchesCondition fieldFamilies r item context) = _ at h
    unfold matchesCondition at h
    rw [outcome_bind_of_ok (x := ofResult (conditionOf r)) hraw] at h
    split at h
    · cases h
    split at h
    · cases h
    · rename_i c hc
      exact .condition rfl hraw hc (Condition.judge_fails h)
  · obtain ⟨f, hf, rfl⟩ := List.mem_map.1 he
    obtain ⟨found, hfound⟩ := shorthand_of_map f hmap
    change outcome (matchesShorthand f r item context) = _ at h
    unfold matchesShorthand at h
    rw [outcome_bind_of_ok (x := ofResult (f.shorthand r.criteria)) hfound] at h
    cases found with
    | none => cases h
    | some leaf => exact .shorthand rfl hfound (Family.judge_fails hf h).2

/-- A rule whose criteria say nothing never matches. -/
theorem answer_of_void {e : Evaluator} (hvoid : e.Void r) : e.answer item context r ≠ .ok true := by
  obtain ⟨f, families⟩ := e
  cases families with
  | none =>
    change outcome (matchesShorthand f r item context) ≠ _
    unfold matchesShorthand
    cases hvoid with
    | valueless _ h =>
      rw [outcome_bind_of_ok (x := ofResult (f.shorthand r.criteria)) h]
      simp [outcome_skip]
    | operator _ hleaf h =>
      rw [outcome_bind_of_ok (x := ofResult (f.shorthand r.criteria)) hleaf]
      exact Family.judge_of_unknown_operator h
    | number _ hfamily hleaf h =>
      rw [outcome_bind_of_ok (x := ofResult (f.shorthand r.criteria)) hleaf]
      exact Family.judge_of_not_numeric hfamily h
    | unconditional hsome _ => cases hsome
    | malformed hsome _ _ => cases hsome
  | some families =>
    change outcome (matchesCondition families r item context) ≠ _
    unfold matchesCondition
    cases hvoid with
    | valueless hnone _ => cases hnone
    | operator hnone _ _ => cases hnone
    | number hnone _ _ _ => cases hnone
    | unconditional _ h =>
      rw [outcome_bind_of_ok (x := ofResult (conditionOf r)) h]
      simp [outcome_skip]
    | malformed _ hraw h =>
      rw [outcome_bind_of_ok (x := ofResult (conditionOf r)) hraw]
      split
      · simp [outcome_skip]
      · simp [h, outcome_skip]

end Evaluator
end Criteria
end Watchgate
