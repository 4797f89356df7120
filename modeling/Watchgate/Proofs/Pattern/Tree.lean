import Watchgate.Pattern.Screen
import Watchgate.Pattern.Syntax

/-!
# The repetitions of a pattern

A pattern is tame if none of its repetitions is bounded above `maxRepetition` and none that can
happen more than once repeats something with another such repetition in it.
-/

namespace Watchgate.Pattern

/-- A repetition somewhere in a pattern: how often at most, if there is a bound, and of what. -/
structure Repetition where
  high : Option Nat
  body : Node

/-- The repetition can happen more than once. -/
def Repetition.isMany (r : Repetition) : Bool :=
  r.high.all (1 < ·)

namespace Node

/-- The repetitions at every depth. -/
def repetitions : Node → List Repetition
  | .repeated _ _ high body => ⟨high, body⟩ :: body.repetitions
  | .group _ body => body.repetitions
  | .look _ _ body => body.repetitions
  | .conditional _ yes no => yes.repetitions ++ no.repetitions
  | .cat a b => a.repetitions ++ b.repetitions
  | .alt a b => a.repetitions ++ b.repetitions
  | _ => []

/-- Something in the pattern can happen more than once. -/
def holdsMany (n : Node) : Bool :=
  n.repetitions.any Repetition.isMany

/-- No bound is too high, and no repetition stands inside another. -/
def isTame (n : Node) : Bool :=
  n.repetitions.all fun r =>
    r.high.all (· ≤ Screen.maxRepetition) && !(r.isMany && r.body.holdsMany)

theorem repetitions_ofList (ns : List Node) :
    (ofList ns).repetitions = ns.flatMap repetitions := by
  induction ns with
  | nil => rfl
  | cons n ns ih =>
    cases ns with
    | nil => simp [ofList]
    | cons m ms =>
      rw [ofList, repetitions, ih]
      · rfl
      · intro h
        cases h

theorem holdsMany_ofList (ns : List Node) : (ofList ns).holdsMany = ns.any holdsMany := by
  unfold holdsMany
  rw [repetitions_ofList, List.any_flatMap]

theorem isTame_ofList (ns : List Node) : (ofList ns).isTame = ns.all isTame := by
  unfold isTame
  rw [repetitions_ofList, List.all_flatMap]

@[simp] theorem holdsMany_group (kind : GroupKind) (body : Node) :
    (Node.group kind body).holdsMany = body.holdsMany := rfl

@[simp] theorem isTame_group (kind : GroupKind) (body : Node) :
    (Node.group kind body).isTame = body.isTame := rfl

@[simp] theorem holdsMany_look (back : Option Nat) (negated : Bool) (body : Node) :
    (Node.look back negated body).holdsMany = body.holdsMany := rfl

@[simp] theorem isTame_look (back : Option Nat) (negated : Bool) (body : Node) :
    (Node.look back negated body).isTame = body.isTame := rfl

@[simp] theorem holdsMany_conditional (i : Nat) (yes no : Node) :
    (Node.conditional i yes no).holdsMany = (yes.holdsMany || no.holdsMany) := by
  simp [holdsMany, repetitions]

@[simp] theorem isTame_conditional (i : Nat) (yes no : Node) :
    (Node.conditional i yes no).isTame = (yes.isTame && no.isTame) := by
  simp [isTame, repetitions]

@[simp] theorem holdsMany_alt (a b : Node) :
    (Node.alt a b).holdsMany = (a.holdsMany || b.holdsMany) := by
  simp [holdsMany, repetitions]

@[simp] theorem isTame_alt (a b : Node) : (Node.alt a b).isTame = (a.isTame && b.isTame) := by
  simp [isTame, repetitions]

theorem holdsMany_repeated (mode : RepeatMode) (low : Nat) (high : Option Nat) (body : Node) :
    (Node.repeated mode low high body).holdsMany = (high.all (1 < ·) || body.holdsMany) := rfl

theorem isTame_repeated (mode : RepeatMode) (low : Nat) (high : Option Nat) (body : Node) :
    (Node.repeated mode low high body).isTame =
      (high.all (· ≤ Screen.maxRepetition) && !(high.all (1 < ·) && body.holdsMany)
        && body.isTame) := rfl

/-- Where nothing happens more than once, nothing is out of bounds. -/
theorem isTame_of_holdsMany_eq_false {n : Node} (h : n.holdsMany = false) : n.isTame = true := by
  unfold isTame
  rw [List.all_eq_true]
  intro r hr
  have hr1 : r.isMany = false := by
    unfold holdsMany at h
    rw [List.any_eq_false] at h
    simpa using h r hr
  have hlow : ∃ k, r.high = some k ∧ k ≤ 1 := by
    cases hh : r.high with
    | none => simp [Repetition.isMany, hh] at hr1
    | some k => exact ⟨k, rfl, by simpa [Repetition.isMany, hh] using hr1⟩
  obtain ⟨k, hk, hk1⟩ := hlow
  have hmax : k ≤ Screen.maxRepetition := Nat.le_trans hk1 (by decide)
  rw [hr1, hk]
  simpa using hmax

end Node

end Watchgate.Pattern
