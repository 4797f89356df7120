import Watchgate.Proofs.Condition.Grammar
import Watchgate.Proofs.Criteria.Data

/-!
# A shorthand as a condition

A rule that holds a shorthand can be written as a conditional rule whose condition is the leaf that the
shorthand stands for. The leaf is then judged by the same family. What the family does without data, and
what becomes of a judgement that goes wrong, differs between the two; but a family holds nothing without
data, and where the rule with the shorthand does not go wrong the conditional one gives the same answer.
-/

namespace Watchgate

namespace Criteria

section Outcome

variable {α β : Type}

/-- What a judgement says, whatever it notes. -/
def outcome (x : Judgement α) : Except Failure α := x.run.value

theorem outcome_bind (x : Judgement α) (f : α → Judgement β) :
    outcome (x >>= f) = outcome x >>= fun a => outcome (f a) := by
  change (ExceptT.bindCont f x.run.value).value = _
  unfold outcome
  cases x.run.value <;> rfl

theorem outcome_bind_of_ok {x : Judgement α} {f : α → Judgement β} {a : α} (h : outcome x = .ok a) :
    outcome (x >>= f) = outcome (f a) := by
  rw [outcome_bind, h]
  rfl

theorem outcome_tryCatch (x : Judgement α) (f : Failure → Judgement α) :
    outcome (tryCatch x f) = match outcome x with
      | .ok a => .ok a
      | .error e => outcome (f e) := by
  have hvalue : x.value = outcome x := rfl
  generalize outcome x = result at hvalue
  unfold outcome tryCatch instMonadExceptOfMonadExceptOf tryCatchThe
  simp only [MonadExceptOf.tryCatch, ExceptT.tryCatch, ExceptT.run_mk]
  rw [Noted.value_bind, hvalue]
  cases result <;> rfl

theorem outcome_tryCatch_of_ok {x : Judgement α} {f : Failure → Judgement α} {a : α}
    (h : outcome x = .ok a) : outcome (tryCatch x f) = .ok a := by
  rw [outcome_tryCatch, h]

end Outcome

namespace Family

variable {context : Context} {item : Item}

/-- Without data a family holds nothing. -/
theorem holds_of_no_data {f : Family} (hf : f ∈ fieldFamilies) (h : f.hasData item context = false)
    (operator : String) (v : Value) : f.holds operator v item context = pure false := by
  simp only [fieldFamilies, List.mem_cons, List.not_mem_nil, or_false] at hf
  rcases hf with rfl | rfl | rfl | rfl | rfl | rfl
  · have hgenres : item.genres = [] := by simpa [genre] using h
    change Genre.holds operator v item context = pure false
    unfold Genre.holds Genre.present
    rw [hgenres]
    rfl
  · have hknown : User.isKnown context = false := h
    change User.holds operator v item context = pure false
    unfold User.holds
    rw [hknown]
    rfl
  · have hyear : Year.year? item = none := by simpa [year] using h
    simp only [year, hyear]
    rfl
  · have hseasons : Season.isShow context = true → Season.numbers item = [] := by
      simpa [season] using h
    change (pure (Season.isShow context && Season.holds (Season.numbers item) operator v)
      : Judgement Bool) = pure false
    cases hshow : Season.isShow context with
    | false => rfl
    | true =>
      rw [hseasons hshow]
      rfl
  · have hlanguage : Language.language? item = none := by simpa [language] using h
    simp only [language, hlanguage]
    rfl
  · have hrating : Certification.certification? item = none := by simpa [certification] using h
    simp only [certification, hrating]

theorem judge_of_no_data {f : Family} (hf : f ∈ fieldFamilies) (h : f.hasData item context = false)
    {leaf : Leaf} (hoperator : leaf.operator.hashable = true) :
    outcome (f.judge leaf item context) = .ok false := by
  unfold Family.judge
  rw [holds_of_no_data hf h, hoperator]
  cases f.claims leaf.field with
  | false => rfl
  | true => cases leaf.operator.isOneOf f.operatorNames <;> rfl

/-- The family that answers for the field of a shorthand is the one whose shorthand it is. -/
theorem familyFor_shorthand {f : Family} (hf : f ∈ fieldFamilies) :
    Condition.familyFor? fieldFamilies (f.fields.headD "") = some f ∧ f.fields.headD "" ≠ "" := by
  simp only [fieldFamilies, List.mem_cons, List.not_mem_nil, or_false] at hf
  rcases hf with rfl | rfl | rfl | rfl | rfl | rfl
  all_goals exact ⟨rfl, by decide⟩

theorem field_of_shorthand {f : Family} {criteria : Value} {leaf : Leaf}
    (h : f.shorthand criteria = .ok (some leaf)) : leaf.field = f.fields.headD "" := by
  obtain ⟨found, -, h⟩ := ok_of_bind h
  cases found with
  | none => cases h
  | some v =>
    obtain rfl := Option.some.inj (pure_ok h)
    rfl

end Family

/-- The evaluator of conditional rules. -/
def conditionEvaluator : Evaluator := { family := conditional, leafFamilies := some fieldFamilies }

theorem conditionEvaluator_mem : conditionEvaluator ∈ evaluators := by
  rw [evaluators_eq]
  exact List.mem_cons_self

theorem evaluator_mem {f : Family} (hf : f ∈ fieldFamilies) :
    ({ family := f } : Evaluator) ∈ evaluators := by
  rw [evaluators_eq]
  exact .tail _ (List.mem_map.2 ⟨f, hf, rfl⟩)

/-- No two evaluators judge rules of one type. -/
theorem evaluator_eq_of_ruleType {e e' : Evaluator} (he : e ∈ evaluators) (he' : e' ∈ evaluators)
    (h : e.family.ruleType = e'.family.ruleType) : e = e' := by
  have hnodup : (evaluators.map fun e => e.family.ruleType).Nodup := by
    rw [evaluators_eq]
    decide
  exact List.inj_on_of_nodup_map hnodup he he' h

end Criteria

open Criteria

namespace Rule

/-- The leaf that a rule's shorthand stands for, if the rule holds one with a text as operator. -/
def shorthandLeaf? (r : Rule) : Option Leaf :=
  match fieldFamilies.find? fun f => r.type.isOneOf [f.ruleType] with
  | none => none
  | some f =>
    match f.shorthand r.criteria with
    | .ok (some leaf) => if leaf.operator.text?.isSome then some leaf else none
    | _ => none

/-- The conditional rule that is a rule in all but its type and its criteria. -/
def withCondition (r : Rule) (c : Condition) : Rule :=
  { r with type := .text conditional.ruleType, criteria := .map [("condition", c.encode)] }

/-- The rule with its shorthand as a condition, if that is wanted for its id. -/
def recast (chosen : Int → Bool) (r : Rule) : Rule :=
  if chosen r.id then
    match r.shorthandLeaf? with
    | some leaf => r.withCondition (.leaf leaf false)
    | none => r
  else r

/-- The rule holds the shorthand of a family. -/
structure Abbreviates (r : Rule) (f : Family) (leaf : Leaf) : Prop where
  family : f ∈ fieldFamilies
  type : r.type = .text f.ruleType
  shorthand : f.shorthand r.criteria = .ok (some leaf)
  operator : ∃ o, leaf.operator = .text o

theorem abbreviates_of_shorthandLeaf {r : Rule} {leaf : Leaf} (h : r.shorthandLeaf? = some leaf) :
    ∃ f, r.Abbreviates f leaf := by
  unfold shorthandLeaf? at h
  split at h
  · cases h
  rename_i f hf
  split at h
  · rename_i leaf' hshort
    split at h
    · rename_i htext
      obtain rfl := Option.some.inj h
      have htype : r.type = .text f.ruleType := isOneOf_singleton.1 (by simpa using List.find?_some hf)
      refine ⟨f, List.mem_of_find?_eq_some hf, htype, hshort, ?_⟩
      cases ho : leaf'.operator with
      | text o => exact ⟨o, rfl⟩
      | _ => simp [ho, Value.text?] at htext
    · cases h
  · cases h

/-- A rule is left as it is, or its shorthand becomes a condition. -/
theorem recast_cases (chosen : Int → Bool) (r : Rule) : r.recast chosen = r ∨
    ∃ f leaf, r.Abbreviates f leaf ∧ r.recast chosen = r.withCondition (.leaf leaf false) := by
  unfold recast
  split
  · split
    · rename_i leaf hleaf
      obtain ⟨f, hf⟩ := abbreviates_of_shorthandLeaf hleaf
      exact .inr ⟨f, leaf, hf, rfl⟩
    · exact .inl rfl
  · exact .inl rfl

/-- Nothing but the type and the criteria is changed. -/
theorem recast_eq (chosen : Int → Bool) (r : Rule) : r.recast chosen =
    { r with type := (r.recast chosen).type, criteria := (r.recast chosen).criteria } := by
  rcases recast_cases chosen r with h | ⟨f, leaf, -, h⟩ <;> rw [h]
  rfl

end Rule

namespace Criteria.Evaluator

variable {context : Context} {item item' : Item} {r : Rule} {f : Family} {leaf : Leaf}

/-- A rule with a shorthand is judged by its family. -/
theorem answer_shorthand (h : r.Abbreviates f leaf) :
    answer { family := f } item context r = outcome (f.judge leaf item context) := by
  have hleaf : outcome (ofResult (f.shorthand r.criteria)) = .ok (some leaf) := h.shorthand
  exact outcome_bind_of_ok hleaf

theorem answer_withCondition {o : String} (hfield : leaf.field ≠ "") (ho : leaf.operator = .text o)
    {b : Bool} (h : outcome (Condition.judgeLeaf fieldFamilies leaf item context) = .ok b) :
    conditionEvaluator.answer item context (r.withCondition (.leaf leaf false)) = .ok b := by
  have hcondition : outcome (ofResult (conditionOf (r.withCondition (.leaf leaf false))))
      = .ok (Condition.leaf leaf false).encode := rfl
  change outcome (matchesCondition fieldFamilies (r.withCondition (.leaf leaf false)) item context) = _
  unfold matchesCondition
  rw [outcome_bind_of_ok hcondition]
  have hdecode : Condition.decode (Condition.leaf leaf false).encode = .ok (.leaf leaf false) := by
    refine Condition.decode_encode ?_
    rw [Condition.leaves_leaf, List.forall_mem_singleton]
    exact ⟨hfield, o, ho⟩
  obtain ⟨entries, hentries⟩ : ∃ entries, (Condition.leaf leaf false).encode = .map entries :=
    ⟨_, by rw [Condition.encode]⟩
  rw [hentries] at hdecode ⊢
  simp only [hdecode]
  rw [Condition.judge, outcome_bind_of_ok h]
  cases b <;> rfl

/-- Where a rule with a shorthand does not go wrong, the conditional rule in its place answers, and it
holds just where there is data and the shorthand holds. -/
theorem answer_recast (h : r.Abbreviates f leaf) (hsame : f.SeesSame context item item')
    (hcalm : f.hasData item context = true → ∃ b, answer { family := f } item context r = .ok b) :
    ∃ b, conditionEvaluator.answer item' context (r.withCondition (.leaf leaf false)) = .ok b ∧
      (b = true ↔ f.hasData item context = true ∧
        answer { family := f } item context r = .ok true) := by
  obtain ⟨o, ho⟩ := h.operator
  obtain ⟨hfamily, hfield⟩ := Family.familyFor_shorthand h.family
  rw [← Family.field_of_shorthand h.shorthand] at hfamily hfield
  have hjudge : ∀ b, outcome (f.judge leaf item context) = .ok b →
      conditionEvaluator.answer item' context (r.withCondition (.leaf leaf false)) = .ok b := by
    intro b hb
    refine answer_withCondition hfield ho ?_
    unfold Condition.judgeLeaf
    rw [hfamily]
    refine outcome_tryCatch_of_ok ?_
    rw [hsame.judge]
    exact hb
  cases hdata : f.hasData item context with
  | false =>
    refine ⟨false, hjudge false (Family.judge_of_no_data h.family hdata (by rw [ho]; rfl)), ?_⟩
    simp
  | true =>
    obtain ⟨b, hb⟩ := hcalm hdata
    refine ⟨b, hjudge b (by rw [← answer_shorthand h]; exact hb), ?_⟩
    simp [hb]

end Criteria.Evaluator

end Watchgate
