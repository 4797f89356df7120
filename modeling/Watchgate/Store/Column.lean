import Watchgate.Value.Reading

/-!
# Columns

What a column makes of a value that is written to it. A column of texts takes numbers as their text,
a column of integers takes a text that looks like an integer as that integer and keeps any other, and
a column of truth values takes 0 and 1 as well. Lists and mappings fit into none of them. Integers
have 64 bits.
-/

namespace Watchgate.Store

def refused : Failure := .storage .database

namespace Column

/-- The smallest integer that is stored. -/
def lowest : Int := -9223372036854775808

/-- The largest integer that is stored. -/
def highest : Int := 9223372036854775807

/-- Whether an integer is stored. -/
def fits (n : Int) : Bool := lowest ≤ n && n ≤ highest

/-- An integer for which there is room. -/
def checked (n : Int) : Except Failure Int :=
  if fits n then .ok n else .error .outOfRange

/-- A value in a column of texts. -/
def text : Value → Except Failure Value
  | .null => .ok .null
  | .text s => .ok (.text s)
  | .bool b => .ok (.text (if b then "1" else "0"))
  | .int n => (checked n).map fun n => .text (toString n)
  | .real x => .ok (.text x.text)
  | .list _ => .error refused
  | .map _ => .error refused

/-- A value in a column of texts none of which may be missing. -/
def requiredText (v : Value) : Except Failure Value := do
  match ← text v with
  | .null => .error refused
  | v => return v

/-- The characters of a text without blanks at both ends, as far as columns know blanks. -/
def trimmed (cs : List Char) : List Char :=
  let isBlank := fun c : Char => c = ' ' || (9 ≤ c.toNat && c.toNat ≤ 13)
  ((cs.dropWhile isBlank).reverse.dropWhile isBlank).reverse

/-- The number that decimal digits write. -/
def digits? (cs : List Char) : Option Int :=
  if !cs.isEmpty && cs.all Char.isDigit then
    some (cs.foldl (fun n c => 10 * n + (c.toNat - 48 : Nat)) (0 : Nat))
  else none

/-- The integer that a text looks like. -/
def integer? (s : String) : Option Int :=
  match trimmed s.toList with
  | '-' :: cs => (digits? cs).map (- ·)
  | '+' :: cs => digits? cs
  | cs => digits? cs

def integer : Value → Except Failure Value
  | .null => .ok .null
  | .text s =>
    match integer? s with
    | some n => .ok (if fits n then .int n else .text s)
    | none => .ok (.text s)
  | .bool b => .ok (.int (if b then 1 else 0))
  | .int n => (checked n).map .int
  | .real x => .ok ((x.integer?.map Value.int).getD (.real x))
  | .list _ => .error refused
  | .map _ => .error refused

/-- A value in a column of truth values. -/
def truth : Value → Except Failure Value
  | .null => .ok .null
  | .bool b => .ok (.bool b)
  | .int n => if n = 0 then .ok (.bool false) else if n = 1 then .ok (.bool true)
    else .error refused
  | .real x =>
    match x.integer? with
    | some 0 => .ok (.bool false)
    | some 1 => .ok (.bool true)
    | _ => .error refused
  | _ => .error refused

/-- Whether two stored values are the same; a missing one is the same as none. -/
def same : Value → Value → Bool
  | .text s, .text t => s = t
  | .int m, .int n => m = n
  | .bool a, .bool b => a = b
  | _, _ => false

/-- The order of stored values: missing ones first, then numbers, then texts. -/
def before (a b : Value) : Bool :=
  match a, b with
  | .null, _ => true
  | _, .null => false
  | .int m, .int n => m ≤ n
  | .int _, _ => true
  | _, .int _ => false
  | .text s, .text t => s ≤ t
  | _, _ => true

/-- A quality profile, which is stored as a text. -/
def profile : Value → Value
  | .null => .null
  | v => .text v.display

/-- A quality profile as it is read: digits are a number. -/
def readProfile : Value → Except Failure Value
  | .text s => if Text.allDigits s then (Value.integerOfText s).map .int else .ok (.text s)
  | v => .ok v

end Column

end Watchgate.Store
