import Watchgate.Condition.Basic

/-!
# Trees of comparisons

What is proved of every condition is proved of the leaves and of the groups whose children it holds of.
The literals of a condition are its leaves together with their negations, from left to right.
-/

namespace Watchgate.Condition

/-- What holds of each leaf, and of each group whose children it holds of, holds of every condition. -/
@[elab_as_elim]
theorem children_induction {motive : Condition → Prop}
    (leaf : ∀ l negated, motive (.leaf l negated))
    (group : ∀ k children negated, (∀ c ∈ children, motive c) → motive (.group k children negated))
    (c : Condition) : motive c := by
  match c with
  | .leaf l negated => exact leaf l negated
  | .group k children negated =>
    exact group k children negated fun d hd => children_induction leaf group d
termination_by sizeOf c
decreasing_by
  have := List.sizeOf_lt_of_mem hd
  simp only [Condition.group.sizeOf_spec]
  omega

theorem leavesOf_eq_flatMap (cs : List Condition) : leavesOf cs = cs.flatMap leaves := by
  induction cs with
  | nil => rfl
  | cons c cs ih => rw [leavesOf, List.flatMap_cons, ih]

@[simp] theorem leaves_leaf (l : Leaf) (negated : Bool) : (leaf l negated).leaves = [l] := by
  rw [leaves]

@[simp] theorem leaves_group (k : Combination) (children : List Condition) (negated : Bool) :
    (group k children negated).leaves = children.flatMap leaves := by
  rw [leaves, leavesOf_eq_flatMap]

mutual

/-- The leaves with their negations, from left to right. -/
def literals : Condition → List (Leaf × Bool)
  | .leaf l negated => [(l, negated)]
  | .group _ children _ => literalsOf children

/-- The leaves of several conditions with their negations. -/
def literalsOf : List Condition → List (Leaf × Bool)
  | [] => []
  | c :: cs => literals c ++ literalsOf cs

end

theorem literalsOf_eq_flatMap (cs : List Condition) : literalsOf cs = cs.flatMap literals := by
  induction cs with
  | nil => rfl
  | cons c cs ih => rw [literalsOf, List.flatMap_cons, ih]

/-- The literals are about the leaves. -/
theorem map_fst_literals (c : Condition) : c.literals.map Prod.fst = c.leaves := by
  induction c using children_induction with
  | leaf l negated => rw [literals, leaves]; rfl
  | group k children negated ih =>
    rw [literals, literalsOf_eq_flatMap, leaves_group, List.map_flatMap]
    rw [List.flatMap_def, List.flatMap_def, List.map_congr_left ih]

end Watchgate.Condition
