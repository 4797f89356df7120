import Watchgate.Yaml.Kind
import Watchgate.Yaml.Node
import Watchgate.Value.Reading

/-!
# Values of YAML documents

`Yaml.read` reads a text as a value. Dates are values by their text, and keys are texts: a key of
another kind counts by how it is written in JSON. A mapping may take in others under the key `<<`; what
it says itself comes after what it takes in, and of several mappings taken in the first wins.
-/

namespace Watchgate.Yaml

open Calendar Number

/-! ## Scalars -/

def digitIn (base : Nat) (c : Char) : Option Nat :=
  (Json.hexValue? c).filter (· < base)

/-- The number that digits write in a base; there is at least one. -/
def ofDigitsIn (base : Nat) (cs : List Char) : Except Failure Nat :=
  match if cs.isEmpty then none else cs.foldlM (fun n c => (digitIn base c).map (base * n + ·)) 0 with
  | some n => .ok n
  | none => .error (.value (.notInteger (String.ofList cs)))

/-- Reads an integer without a sign. -/
def readMagnitude (cs : List Char) : Except Failure Int :=
  match cs with
  | ['0'] => .ok 0
  | '0' :: 'b' :: ds => (ofDigitsIn 2 ds).map Int.ofNat
  | '0' :: 'x' :: ds => (ofDigitsIn 16 ds).map Int.ofNat
  | '0' :: ds => (ofDigitsIn 8 ds).map Int.ofNat
  | _ => do
    let parts ← (colonParts cs).mapM fun part => Value.integerOfText (String.ofList part)
    return parts.foldl (fun n part => 60 * n + part) 0

def readInt (text : String) : Except Failure Value := do
  let cs := text.toList.filter (· ≠ '_')
  if cs.isEmpty then throw .missingPlace
  let n ← readMagnitude (unsigned cs)
  return .int (if cs.head? = some '-' then -n else n)

def exponentOf? : List Char → Option Int
  | [] => some 0
  | _ :: '-' :: ds => some (-(Nat.ofDigitChars 10 ds 0 : Int))
  | _ :: '+' :: ds => some (Nat.ofDigitChars 10 ds 0)
  | _ :: ds => some (Nat.ofDigitChars 10 ds 0)

/-- Reads digits with a point as a number and the count of its decimal places. -/
def decimalOf? (cs : List Char) : Option (Nat × Int) := do
  let whole := cs.takeWhile Char.isDigit
  let rest := cs.dropWhile Char.isDigit
  let (fraction, rest) := match rest with
    | '.' :: rest => (rest.takeWhile Char.isDigit, rest.dropWhile Char.isDigit)
    | _ => ([], rest)
  if (whole ++ fraction).isEmpty then none
  else some (Nat.ofDigitChars 10 (whole ++ fraction) 0, (← exponentOf? rest) - fraction.length)

/-- Reads a number whose parts count sixtieths of each other. -/
def sixtiethsOf? : List (List Char) → Nat → Option (Nat × Int)
  | [], _ => none
  | [last], n => do
    let (digits, scale) ← decimalOf? last
    return (n * 60 * Nat.pow 10 (-scale).toNat + digits, scale)
  | part :: parts, n => sixtiethsOf? parts (n * 60 + Nat.ofDigitChars 10 part 0)

def readFloat (text : String) : Except Failure Value := do
  let cs := (text.toList.filter (· ≠ '_')).map Char.toLower
  if cs.isEmpty then throw .missingPlace
  let negative : Bool := cs.head? = some '-'
  let rest := unsigned cs
  if rest = ".inf".toList then return .real (.infinite negative)
  if rest = ".nan".toList then return .real .notANumber
  let parts := colonParts rest
  if parts.length = 1 then (Value.text (String.ofList rest)).checkReal
  match if parts.length = 1 then decimalOf? rest else sixtiethsOf? parts 0 with
  | some (digits, scale) => return .real (.ofDecimal negative digits scale)
  | none => throw (.value (.notReal (String.ofList rest)))

def readBool (text : String) : Except Failure Value :=
  match truthNames.lookup (String.ofList (text.toList.map Char.toLower)) with
  | some b => .ok (.bool b)
  | none => .error (.missingKey (.text text))

/-- The text of a distance from universal time. -/
def zoneText : Bool × Nat × Nat → String
  | (isBehind, hours, minutes) =>
    let total := 60 * hours + minutes
    (if isBehind && total ≠ 0 then "-" else "+") ++ padded 2 (total / 60) ++ ":"
      ++ padded 2 (total % 60)

/-- The text of a date with or without a time of day; it has to be one of the calendar. -/
def Stamp.text (s : Stamp) : Except Failure String :=
  match Date.ofCivil? s.year s.month s.day with
  | none => .error (.value .noSuchDay)
  | some d =>
    match s.time with
    | none => .ok d.text
    | some (hour, minute, second, micros) =>
      let zone := s.zone.map fun z => 60 * z.2.1 + z.2.2
      if 24 ≤ hour || 60 ≤ minute || 60 ≤ second || 1440 ≤ zone.getD 0 then
        .error (.value .noSuchDay)
      else
        let clock := ((60 * hour + minute) * 60 + second) * 1000000 + micros
        .ok ((⟨(Moment.ofDate d).micros + clock⟩ : Moment).text
          ++ ((s.zone.map zoneText).getD ""))

def readTimestamp (text : String) : Except Failure Value :=
  match stamp? text.toList with
  | some stamp => stamp.text.map .text
  | none => .error (.noAttribute "'NoneType' object" "groupdict")

def scalarOf (text : String) : Kind → Except Failure Value
  | .null => .ok .null
  | .bool => readBool text
  | .int => readInt text
  | .float => readFloat text
  | .timestamp => readTimestamp text
  | .text => .ok (.text text)
  | _ => .error .yaml

def scalarKind (tag : Option String) (isOpen : Bool) (text : String) : Kind :=
  match tag with
  | some tag => kindOfTag tag
  | none => if isOpen then kindOfText text else .text

def Node.kind : Node → Kind
  | .scalar tag isOpen text => scalarKind tag isOpen text
  | .sequence tag _ => (tag.map kindOfTag).getD .sequence
  | .mapping tag _ => (tag.map kindOfTag).getD .mapping

/-! ## Nodes -/

def keyOf : Value → Except Failure String
  | .list _ => .error .yaml
  | .map _ => .error .yaml
  | v => .ok v.keyText

/-- What a mapping says: what it takes in, and then what it says itself. -/
structure Said where
  /-- What it takes in. -/
  taken : List (String × Value) := []
  /-- What it says itself. -/
  own : List (String × Value) := []

def Said.entries (s : Said) : Entries := Entries.ofPairs (s.taken ++ s.own)

mutual

def Node.value : Node → Except Failure Value
  | .scalar tag isOpen text => scalarOf text (scalarKind tag isOpen text)
  | .sequence tag items => do
    match (tag.map kindOfTag).getD .sequence with
    | .sequence => return .list (← itemValues items)
    | .pairs => return .list (← pairItems items)
    | _ => throw .yaml
  | .mapping tag pairs => do
    match (tag.map kindOfTag).getD .mapping with
    | .mapping => return .map (← said pairs).entries
    | .set => return .list ((← said pairs).entries.map fun e => .text e.1)
    | _ => throw .yaml

def itemValues : List Node → Except Failure (List Value)
  | [] => return []
  | n :: ns => return (← n.value) :: (← itemValues ns)

/-- The values of items that are mappings with one key each. -/
def pairItems : List Node → Except Failure (List Value)
  | [] => return []
  | .mapping _ [(k, v)] :: ns => do
    let k ← k.value
    let v ← v.value
    return .list [k, v] :: (← pairItems ns)
  | _ => throw .yaml

def said : List (Node × Node) → Except Failure Said
  | [] => return {}
  | (k, v) :: rest => do
    if k.kind = .merge then
      let taken ← takenFrom v
      let s ← said rest
      return { s with taken := taken ++ s.taken }
    else
      let key ← if k.kind = .default then pure "=" else keyOf (← k.value)
      let v ← v.value
      let s ← said rest
      return { s with own := (key, v) :: s.own }

/-- What is taken in from a mapping or from several. -/
def takenFrom : Node → Except Failure (List (String × Value))
  | .mapping _ pairs => return (← said pairs).entries
  | .sequence _ items => takenFromAll items
  | _ => throw .yaml

/-- What is taken in from several mappings, that of the last first. -/
def takenFromAll : List Node → Except Failure (List (String × Value))
  | [] => return []
  | .mapping _ pairs :: ns => do
    let first := (← said pairs).entries
    return (← takenFromAll ns) ++ first
  | _ => throw .yaml

end

/-- The value that a text writes; null where it writes nothing. -/
def read (s : String) : Except Failure Value := do
  match ← Node.ofTokens? (← tokensOf s) with
  | some n => n.value
  | none => return .null

end Watchgate.Yaml
