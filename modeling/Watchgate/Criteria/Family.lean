import Watchgate.Content.Context
import Watchgate.Content.Item
import Watchgate.Condition.Basic
import Watchgate.Journal
import Watchgate.Text.Basic

/-!
# Families of criteria

A family answers for some fields of conditions, such as the genres or the year: it knows the
operators of these fields, tells whether an item has data for them, and compares that data with a
value. `Family.judge` applies a leaf of a condition; a field that the family does not answer for and
an operator that it does not know hold for nothing.
-/

namespace Watchgate.Criteria

/-- A judgement: an answer or the cause why there is none, and what was noted on the way. -/
abbrev Judgement := ExceptT Failure Noted

def warn (text : String) : Judgement Unit :=
  ExceptT.lift (Noted.warning text ())

/-- A judgement that needs no notes. -/
def ofResult {α : Type} (x : Except Failure α) : Judgement α :=
  ExceptT.mk (pure x)

/-- A field as users are told about it. -/
structure FieldInfo where
  name : String
  description : String
  valueTypes : List String

/-- An operator as users are told about it. -/
structure OperatorInfo where
  name : String
  description : String
  valueTypes : List String
  valueFormat : Option String := none

def FieldInfo.encode (f : FieldInfo) : Value :=
  .map [
    ("name", .text f.name),
    ("description", .text f.description),
    ("valueTypes", .list (f.valueTypes.map .text))]

def OperatorInfo.encode (o : OperatorInfo) : Value :=
  .map ([
    ("name", .text o.name),
    ("description", .text o.description),
    ("valueTypes", .list (o.valueTypes.map .text))]
    ++ (o.valueFormat.map fun s => ("valueFormat", .text s)).toList)

/-- A family of criteria. -/
structure Family where
  name : String
  description : String
  /-- Families with higher priority run first. -/
  priority : Int
  ruleType : String
  /-- The fields it answers for, the canonical one first. -/
  fields : List String := []
  /-- Under which keys a rule's shorthand may hold the value, in order of preference. -/
  criteriaKeys : List String := []
  fieldInfos : List FieldInfo := []
  operators : List OperatorInfo := []
  /-- The operator of a shorthand that names none. -/
  defaultOperator : Value → String
  /-- Whether there is data to compare. -/
  hasData : Item → Context → Bool := fun _ _ => true
  holds : String → Value → Item → Context → Judgement Bool

/-- A list is compared by membership, all else by equality. -/
def membershipOrEquality : Value → String
  | .list _ => "in"
  | _ => "equals"

/-- A mapping is a range; otherwise as `membershipOrEquality` has it. -/
def rangeOrMembership : Value → String
  | .map _ => "between"
  | v => membershipOrEquality v

/-- A text without regard to case and blanks around it. -/
def normal (v : Value) : String :=
  Text.casefold (Text.trim v.display)

namespace Family

def claims (f : Family) (field : String) : Bool :=
  f.fields.contains field

def operatorNames (f : Family) : List String :=
  f.operators.map OperatorInfo.name

def operatorsFor (f : Family) (field : String) : List String :=
  if f.claims field then f.operatorNames else []

def judge (f : Family) (leaf : Leaf) (item : Item) (context : Context) : Judgement Bool :=
  if !f.claims leaf.field then return false
  else if !leaf.operator.hashable then throw (.kind (.unhashable leaf.operator.kind))
  else if leaf.operator.isOneOf f.operatorNames then
    f.holds leaf.operator.display leaf.value item context
  else do
    warn (f.name ++ ": unsupported operator '" ++ leaf.operator.display ++ "' for field '"
      ++ leaf.field ++ "'")
    return false

def holdsKey (criteria : Value) (key : String) : Except Failure Bool :=
  match criteria with
  | .map entries => .ok (Entries.get? entries key).isSome
  | .list items => .ok (items.any (·.isOneOf [key]))
  | .text s => .ok (Text.isInside key s)
  | v => .error (.kind (.notContainer v.kind))

/-- What a shorthand holds under a key that it holds. -/
def valueAt (criteria : Value) (key : String) : Except Failure Value :=
  match criteria with
  | .map entries => .ok (Entries.get entries key)
  | .list _ => .error (.kind (.listIndex "str"))
  | .text _ => .error (.kind (.textIndex "str"))
  | v => .error (.kind (.notSubscriptable v.kind))

/-- The first value that is there under one of the keys. -/
def firstValue (criteria : Value) : List String → Except Failure (Option Value)
  | [] => .ok none
  | key :: keys => do
    if ← holdsKey criteria key then
      match ← valueAt criteria key with
      | .null => firstValue criteria keys
      | v => return some v
    else firstValue criteria keys

/-- The leaf that a shorthand stands for; none where it holds no value for the family. -/
def shorthand (f : Family) (criteria : Value) : Except Failure (Option Leaf) := do
  match ← firstValue (criteria.orElse (.map [])) f.criteriaKeys with
  | none => return none
  | some value =>
    return some {
      field := f.fields.headD ""
      operator := (criteria.get "operator").orElse (.text (f.defaultOperator value))
      value }

def describe (f : Family) : Value :=
  .map [
    ("name", .text f.name),
    ("description", .text f.description),
    ("priority", .int f.priority),
    ("ruleType", .text f.ruleType),
    ("supportedFields", .list (f.fieldInfos.map FieldInfo.encode)),
    ("supportedOperators",
      .map (f.fields.head?.map fun field =>
        (field, .list (f.operators.map OperatorInfo.encode))).toList)]

end Family

end Watchgate.Criteria
