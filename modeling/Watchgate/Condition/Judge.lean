import Watchgate.Criteria.Family

/-!
# Judging conditions

A leaf is judged by the first family that answers for its field; a field nobody answers for holds
for nothing, and neither does a leaf that cannot be judged. A group of all holds when no child fails,
so an empty one holds; a group of any holds when some child does. Negation comes last, once per
node.

`Condition.problem?` finds the first leaf with an unknown field or operator.
-/

namespace Watchgate.Condition

open Criteria

/-- The family that answers for a field. -/
def familyFor? (families : List Family) (field : String) : Option Family :=
  families.find? (·.claims field)

/-- Failures that only show that a leaf does not fit the data. -/
def isMisfit : Failure → Bool
  | .kind _ => true
  | .value _ => true
  | .condition _ => true
  | .json _ => true
  | _ => false

/-- A judgement in which a misfit holds for nothing and is noted. -/
def forgiving (field : String) (x : Judgement Bool) : Judgement Bool :=
  tryCatch x fun e =>
    if isMisfit e then do
      warn ("Condition on '" ++ field ++ "' could not be evaluated: " ++ e.message)
      return false
    else throw e

def judgeLeaf (families : List Family) (l : Leaf) (item : Item) (context : Context) :
    Judgement Bool :=
  match familyFor? families l.field with
  | none => do
    warn ("No evaluator handles condition field '" ++ l.field ++ "'")
    return false
  | some family => forgiving l.field (family.judge l item context)

mutual

def judge (families : List Family) (item : Item) (context : Context) : Condition → Judgement Bool
  | .leaf l negated => do
    let r ← judgeLeaf families l item context
    return r != negated
  | .group .all children negated => do
    let r ← judgeAll families item context children
    return r != negated
  | .group .any children negated => do
    let r ← judgeAny families item context children
    return r != negated

/-- Whether all conditions hold; stops at the first that does not. -/
def judgeAll (families : List Family) (item : Item) (context : Context) :
    List Condition → Judgement Bool
  | [] => return true
  | c :: cs => do
    if ← judge families item context c then judgeAll families item context cs
    else return false

/-- Whether one condition holds; stops at the first that does. -/
def judgeAny (families : List Family) (item : Item) (context : Context) :
    List Condition → Judgement Bool
  | [] => return false
  | c :: cs => do
    if ← judge families item context c then return true
    else judgeAny families item context cs

end

/-- What is wrong with a leaf, whatever it is compared with. -/
def leafProblem? (families : List Family) (l : Leaf) : Option String :=
  match familyFor? families l.field with
  | none => some ("unknown field '" ++ l.field ++ "'")
  | some family =>
    if l.operator.isOneOf (family.operatorsFor l.field) then none
    else some ("operator '" ++ l.operator.display ++ "' is not supported for field '" ++ l.field
      ++ "'")

mutual

/-- What is wrong with the first leaf that has an unknown field or operator. -/
def problem? (families : List Family) : Condition → Option String
  | .leaf l _ => leafProblem? families l
  | .group _ children _ => firstProblem? families children

/-- The first problem of several conditions. -/
def firstProblem? (families : List Family) : List Condition → Option String
  | [] => none
  | c :: cs => (problem? families c).or (firstProblem? families cs)

end

end Watchgate.Condition
