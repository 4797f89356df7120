import Watchgate.Value.Reading

/-!
# Conditions

A condition is a tree. Its leaves compare a field of an item or its context with a value, its groups
ask for all or for any of their children. Each node may be negated. Conditions are written as
mappings: a group has `conditions`, a leaf has `field`, `operator` and `value`.

`Condition.decode` reads such a mapping, `Condition.encode` writes it, and `Condition.leaves` lists
the leaves from left to right.
-/

namespace Watchgate

/-- A comparison of a field with a value. The operator is normally a text; a rule's shorthand may
hold anything there. -/
structure Leaf where
  field : String
  operator : Value
  value : Value
deriving Inhabited

/-- How a group combines its children. -/
inductive Combination where
  | all
  | any
deriving DecidableEq, Repr

def Combination.word : Combination → String
  | .all => "AND"
  | .any => "OR"

/-- The combination of a word, in any case. -/
def Combination.ofWord? (s : String) : Option Combination :=
  let word := String.ofList (s.toList.map Char.toUpper)
  if word = "AND" then some .all else if word = "OR" then some .any else none

/-- A tree of comparisons. -/
inductive Condition where
  | leaf (leaf : Leaf) (negated : Bool)
  | group (combination : Combination) (children : List Condition) (negated : Bool)
deriving Inhabited

namespace Condition

/-- Reads a group whose children were read before; they are none if they are not a list. -/
def decodeGroup (entries : Entries) (children : Option (Except ConditionFault (List Condition))) :
    Except ConditionFault Condition :=
  match children with
  | none => .error .childrenNotList
  | some children =>
    let shown := ((Entries.get? entries "operator").getD (.text "")).display
    match Combination.ofWord? shown with
    | none => .error (.groupOperator (Entries.get entries "operator").display)
    | some combination => do
      let children ← children
      return .group combination children (Entries.get entries "negate").truthy

def decodeLeaf (entries : Entries) : Except ConditionFault Condition :=
  match Entries.get? entries "field", Entries.get? entries "operator",
      Entries.get? entries "value" with
  | some field, some operator, some value =>
    match field with
    | .text name =>
      if name.isEmpty then .error .emptyField
      else .ok (.leaf ⟨name, .text operator.display, value⟩ (Entries.get entries "negate").truthy)
    | _ => .error .emptyField
  | _, _, _ => .error .shapeless

mutual

def decode : Value → Except ConditionFault Condition
  | .map entries =>
    match decodeChildren entries with
    | some children => decodeGroup entries children
    | none => decodeLeaf entries
  | v => .error (.notMapping v.kind)

/-- The children among the entries of a group, if there are any. -/
def decodeChildren : Entries → Option (Option (Except ConditionFault (List Condition)))
  | [] => none
  | (key, v) :: rest => if key = "conditions" then some (decodeItems v) else decodeChildren rest

/-- The conditions of a list; none for a value that is no list. -/
def decodeItems : Value → Option (Except ConditionFault (List Condition))
  | .list items => some (decodeList items)
  | _ => none

/-- Reads one condition after the other. -/
def decodeList : List Value → Except ConditionFault (List Condition)
  | [] => .ok []
  | v :: vs => do
    let c ← decode v
    let cs ← decodeList vs
    return c :: cs

end

/-- The entry that says that a node is negated. -/
def negation (negated : Bool) : Entries :=
  if negated then [("negate", .bool true)] else []

mutual

def encode : Condition → Value
  | .leaf l negated =>
    .map ([("field", .text l.field), ("operator", l.operator), ("value", l.value)]
      ++ negation negated)
  | .group combination children negated =>
    .map ([("operator", .text combination.word), ("conditions", .list (encodeList children))]
      ++ negation negated)

/-- Conditions in the form in which they are read. -/
def encodeList : List Condition → List Value
  | [] => []
  | c :: cs => encode c :: encodeList cs

end

mutual

def leaves : Condition → List Leaf
  | .leaf l _ => [l]
  | .group _ children _ => leavesOf children

def leavesOf : List Condition → List Leaf
  | [] => []
  | c :: cs => leaves c ++ leavesOf cs

end

end Condition

end Watchgate
