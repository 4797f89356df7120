import Watchgate.Number.Binary64

/-!
# Values of configurations and messages

Configuration files, rule criteria and the bodies of requests hold free-form data: nothing, truth
values, integers, doubles, texts, lists, and mappings whose entries keep the order in which their
keys first appeared. A mapping that was built by `Value.ofEntries` holds each key once, with the
value that came last.
-/

namespace Watchgate

open Number (Binary64)

/-- A piece of free-form data. -/
inductive Value where
  | null
  | bool (b : Bool)
  | int (n : Int)
  | real (x : Binary64)
  | text (s : String)
  | list (items : List Value)
  /-- A mapping; entries in the order of their keys' first appearance. -/
  | map (entries : List (String × Value))
deriving Inhabited, Repr

abbrev Entries := List (String × Value)

namespace Value

mutual

/-- Whether two values are of the same kind and made up alike, with entries in the same order. -/
def isSame : Value → Value → Bool
  | .null, .null => true
  | .bool a, .bool b => a = b
  | .int a, .int b => a = b
  | .real a, .real b => a = b
  | .text a, .text b => a = b
  | .list as, .list bs => areSame as bs
  | .map as, .map bs => areSameEntries as bs
  | _, _ => false

def areSame : List Value → List Value → Bool
  | [], [] => true
  | a :: as, b :: bs => isSame a b && areSame as bs
  | _, _ => false

def areSameEntries : List (String × Value) → List (String × Value) → Bool
  | [], [] => true
  | (k, a) :: as, (l, b) :: bs => k = l && isSame a b && areSameEntries as bs
  | _, _ => false

end

mutual

theorem isSame_iff : ∀ v w : Value, v.isSame w = true ↔ v = w := by
  intro v w
  cases v <;> cases w <;> simp [isSame, areSame_iff, areSameEntries_iff]

theorem areSame_iff : ∀ vs ws : List Value, areSame vs ws = true ↔ vs = ws
  | [], [] | [], _ :: _ | _ :: _, [] => by simp [areSame]
  | a :: as, b :: bs => by simp [areSame, isSame_iff a b, areSame_iff as bs]

theorem areSameEntries_iff : ∀ vs ws : List (String × Value), areSameEntries vs ws = true ↔ vs = ws
  | [], [] | [], _ :: _ | _ :: _, [] => by simp [areSameEntries]
  | (k, a) :: as, (l, b) :: bs => by
    simp [areSameEntries, isSame_iff a b, areSameEntries_iff as bs]

end

instance : DecidableEq Value := fun v w => decidable_of_iff _ (isSame_iff v w)

/-- What the value is called where a message names its kind. -/
def kind : Value → String
  | .null => "NoneType"
  | .bool _ => "bool"
  | .int _ => "int"
  | .real _ => "float"
  | .text _ => "str"
  | .list _ => "list"
  | .map _ => "dict"

/-- Nothing, zero and whatever is empty count as false. -/
def truthy : Value → Bool
  | .null => false
  | .bool b => b
  | .int n => n != 0
  | .real x => !x.isZero
  | .text s => !s.isEmpty
  | .list items => !items.isEmpty
  | .map entries => !entries.isEmpty

/-- The value, or `other` where it counts as false. -/
def orElse (v other : Value) : Value :=
  if v.truthy then v else other

def isNull : Value → Bool
  | .null => true
  | _ => false

/-- The value as an optional one, absent when it is null. -/
def toOption : Value → Option Value
  | .null => none
  | v => some v

def ofOption : Option Value → Value
  | none => .null
  | some v => v

def ofInt? : Option Int → Value
  | none => .null
  | some n => .int n

/-- A proper integer: truth values do not count. -/
def int? : Value → Option Int
  | .int n => some n
  | _ => none

def text? : Value → Option String
  | .text s => some s
  | _ => none

def entries? : Value → Option Entries
  | .map entries => some entries
  | _ => none

def items? : Value → Option (List Value)
  | .list items => some items
  | _ => none

end Value

namespace Entries

def get? (entries : Entries) (key : String) : Option Value :=
  (entries.find? (·.1 = key)).map (·.2)

/-- The value stored under a key, null when there is none. -/
def get (entries : Entries) (key : String) : Value :=
  (get? entries key).getD .null

/-- Stores a value: in place where the key is known, at the end where it is new. -/
def put (entries : Entries) (key : String) (v : Value) : Entries :=
  if entries.any (·.1 = key) then entries.map fun e => if e.1 = key then (key, v) else e
  else entries ++ [(key, v)]

/-- A mapping from pairs: a repeated key keeps its first place and its last value. -/
def ofPairs (pairs : List (String × Value)) : Entries :=
  pairs.foldl (fun entries p => put entries p.1 p.2) []

@[simp] theorem get?_nil (key : String) : get? [] key = none := rfl

@[simp] theorem get?_cons (k key : String) (v : Value) (entries : Entries) :
    get? ((k, v) :: entries) key = if k = key then some v else get? entries key := by
  by_cases h : k = key <;> simp [get?, h]

end Entries

namespace Value

def get? (v : Value) (key : String) : Option Value :=
  v.entries?.bind fun entries => Entries.get? entries key

/-- The value under a key of a mapping, null when there is none. -/
def get (v : Value) (key : String) : Value :=
  (v.get? key).getD .null

end Value

end Watchgate
