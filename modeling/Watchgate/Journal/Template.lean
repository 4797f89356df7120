import Watchgate.Number.Rounded
import Watchgate.Value.Reading

/-!
# Templates

A template is a text with places to fill in. A place starts with a percent sign and ends with a letter
that says how the value is written; between them may stand the name of the value in parentheses, flags,
a width, and a precision after a point. Values are taken in turn, or by name. Two percent signs are one.
-/

namespace Watchgate

open Number

/-- What templates are filled with. -/
inductive Filling where
  | inTurn (values : List Value)
  | byName (values : Entries)

namespace Template

/-- A place to fill in. -/
structure Field where
  name : Option String := none
  /-- Whether the value stands at the left of its width. -/
  isLeft : Bool := false
  sign : List Char := []
  isZero : Bool := false
  /-- Whether the base is written, or the point kept. -/
  isFull : Bool := false
  width : Nat := 0
  precision : Option Nat := none

/-- What is left to fill in. -/
structure Supply where
  values : List Value
  names : Option Entries

def Supply.take : Supply → Except Failure (Value × Supply)
  | ⟨v :: values, names⟩ => .ok (v, ⟨values, names⟩)
  | ⟨[], _⟩ => .error (.kind .tooFewArguments)

def Supply.valueFor (s : Supply) (f : Field) : Except Failure (Value × Supply) :=
  match f.name, s.names with
  | none, _ => s.take
  | some _, none => .error (.kind .notNamed)
  | some name, some names => do return (← Value.require names name, { s with values := [] })

/-- The name in parentheses, which may hold parentheses in pairs, and what follows it. -/
def readName? : Nat → List Char → Option (List Char × List Char)
  | _, [] => none
  | depth, ')' :: cs =>
    match depth with
    | 0 => some ([], cs)
    | depth + 1 => (readName? depth cs).map fun (name, rest) => (')' :: name, rest)
  | depth, '(' :: cs => (readName? (depth + 1) cs).map fun (name, rest) => ('(' :: name, rest)
  | depth, c :: cs => (readName? depth cs).map fun (name, rest) => (c :: name, rest)

def readFlags (f : Field) : List Char → Field × List Char
  | '-' :: cs => readFlags { f with isLeft := true } cs
  | '+' :: cs => readFlags { f with sign := ['+'] } cs
  | ' ' :: cs => readFlags { f with sign := if f.sign.isEmpty then [' '] else f.sign } cs
  | '0' :: cs => readFlags { f with isZero := true } cs
  | '#' :: cs => readFlags { f with isFull := true } cs
  | cs => (f, cs)

/-- Reads a count: digits, or an asterisk for the next value. -/
def readCount (s : Supply) : List Char → Except Failure (Option Int × Supply × List Char)
  | '*' :: cs => do
    match ← s.take with
    | (.int n, s) => return (some n, s, cs)
    | (.bool b, s) => return (some (if b then 1 else 0), s, cs)
    | (v, _) => throw (.kind (.notWritable '*' v.kind))
  | cs =>
    let ds := cs.takeWhile Char.isDigit
    .ok (if ds.isEmpty then none else some (Nat.ofDigitChars 10 ds 0), s, cs.dropWhile Char.isDigit)

def readSize (f : Field) (s : Supply) (cs : List Char) :
    Except Failure (Field × Supply × List Char) := do
  let (width, s, cs) ← readCount s cs
  let f := { f with
    isLeft := f.isLeft || width.any (· < 0), width := (width.map Int.natAbs).getD 0 }
  match cs with
  | '.' :: cs =>
    let (precision, s, cs) ← readCount s cs
    return ({ f with precision := some (precision.getD 0).toNat }, s, cs)
  | _ => return (f, s, cs)

/-! ## Writing a value -/

/-- Fills up to the width of a place: with zeros behind the sign, or with blanks. -/
def pad (f : Field) (front body : List Char) : List Char :=
  let missing := f.width - front.length - body.length
  if f.isLeft then front ++ body ++ List.replicate missing ' '
  else if f.isZero then front ++ List.replicate missing '0' ++ body
  else List.replicate missing ' ' ++ front ++ body

/-- A text, cut at the precision. -/
def writeText (f : Field) (s : String) : List Char :=
  let cs := s.toList
  pad { f with isZero := false } [] (match f.precision with
    | some n => cs.take n
    | none => cs)

/-- A text in which characters beyond ASCII are written by their number. -/
def inAscii (s : String) : String :=
  String.ofList (s.toList.flatMap fun c =>
    if c.toNat < 128 then [c]
    else if c.toNat < 256 then ['\\', 'x'] ++ hexDigits 2 c.toNat
    else if c.toNat < 65536 then ['\\', 'u'] ++ hexDigits 4 c.toNat
    else ['\\', 'U'] ++ hexDigits 8 c.toNat)

def signOf (f : Field) (isNegative : Bool) : List Char := if isNegative then ['-'] else f.sign

def writeInteger (f : Field) (base : Nat) (mark : List Char) (isUpper : Bool) (n : Int) :
    List Char :=
  let ds := Nat.toDigits base n.natAbs
  let ds := List.replicate (f.precision.getD 0 - ds.length) '0' ++ ds
  let up (cs : List Char) := if isUpper then cs.map Char.toUpper else cs
  pad f (signOf f (n < 0) ++ if f.isFull then up mark else []) (up ds)

/-- The integer in a value; a number with a fraction loses it if that is allowed. -/
def integerOf (letter : Char) (cuts : Bool) : Value → Except Failure Int
  | .int n => .ok n
  | .bool b => .ok (if b then 1 else 0)
  | .real x => if cuts then (Value.real x).toInteger else .error (.kind (.notWritable letter "float"))
  | v => .error (.kind (.notWritable letter v.kind))

def realOf (letter : Char) : Value → Except Failure Binary64
  | .real x => .ok x
  | .int n =>
    match Binary64.ofRatio (n < 0) n.natAbs 1 with
    | .infinite _ => .error .outOfRange
    | x => .ok x
  | .bool b => .ok (.ofRatio false (if b then 1 else 0) 1)
  | v => .error (.kind (.notWritable letter v.kind))

def writeReal (f : Field) (layout : Layout) (isUpper : Bool) (x : Binary64) : List Char :=
  let up (cs : List Char) := if isUpper then cs.map Char.toUpper else cs
  match x with
  | .notANumber => pad f f.sign (up "nan".toList)
  | .infinite negative => pad f (signOf f negative) (up "inf".toList)
  | .finite negative m e =>
    pad f (signOf f negative) (up (roundedChars layout f.isFull (f.precision.getD 6) m e))

def characterOf : Value → Except Failure String
  | .text s => if s.length = 1 then .ok s else .error (.kind (.notWritable 'c' "str"))
  | .int n =>
    if 0 ≤ n && n < 1114112 then .ok (String.singleton (Char.ofNat n.toNat))
    else .error .outOfRange
  | v => .error (.kind (.notWritable 'c' v.kind))

/-- The layouts of numbers, by their letters. -/
def layouts : List (Char × Layout) := [('e', .scientific), ('f', .fixed), ('g', .general)]

def write (f : Field) (letter : Char) (v : Value) : Except Failure (List Char) :=
  match letter, layouts.lookup letter.toLower with
  | 's', _ => .ok (writeText f v.display)
  | 'r', _ => .ok (writeText f v.source)
  | 'a', _ => .ok (writeText f (inAscii v.source))
  | 'c', _ => do return writeText { f with precision := none } (← characterOf v)
  | 'x', _ => do return writeInteger f 16 ['0', 'x'] false (← integerOf 'x' false v)
  | 'X', _ => do return writeInteger f 16 ['0', 'x'] true (← integerOf 'X' false v)
  | 'o', _ => do return writeInteger f 8 ['0', 'o'] false (← integerOf 'o' false v)
  | _, some layout => do return writeReal f layout letter.isUpper (← realOf letter v)
  | _, none =>
    if letter = 'd' || letter = 'i' || letter = 'u' then do
      return writeInteger f 10 [] false (← integerOf letter true v)
    else .error (.value .badFormat)

/-! ## Filling in -/

/-- Reads a place from behind its percent sign on, and fills it in. -/
def fillField (s : Supply) (cs : List Char) : Except Failure (List Char × Supply × List Char) := do
  let (name, cs) ← match cs with
    | '(' :: rest =>
      if s.names.isNone then throw (.kind .notNamed)
      match readName? 0 rest with
      | some (name, rest) => pure (some (String.ofList name), rest)
      | none => throw (.value .badFormat)
    | _ => pure (none, cs)
  let (f, cs) := readFlags { name } cs
  let (f, s, cs) ← readSize f s cs
  let cs := match cs with
    | 'h' :: rest => rest
    | 'l' :: rest => rest
    | 'L' :: rest => rest
    | _ => cs
  match cs with
  | [] => throw (.value .badFormat)
  | '%' :: rest => return (['%'], s, rest)
  | letter :: rest =>
    let (v, s) ← s.valueFor f
    return (← write f letter v, s, rest)

/-- Fills in all places; each round reads a character. -/
def fillFrom : Nat → Supply → List Char → Except Failure (List Char × Supply)
  | 0, s, cs => .ok (cs, s)
  | _ + 1, s, [] => .ok ([], s)
  | rounds + 1, s, '%' :: cs => do
    let (filled, s, cs) ← fillField s cs
    let (rest, s) ← fillFrom rounds s cs
    return (filled ++ rest, s)
  | rounds + 1, s, c :: cs => do
    let (rest, s) ← fillFrom rounds s cs
    return (c :: rest, s)

/-- A template filled in. Values in turn have to be used up. -/
def fill (template : String) (filling : Filling) : Except Failure String := do
  let supply : Supply := match filling with
    | .inTurn values => ⟨values, none⟩
    | .byName entries => ⟨[.map entries], some entries⟩
  let cs := template.toList
  let (filled, s) ← fillFrom (cs.length + 1) supply cs
  if s.names.isNone && !s.values.isEmpty then throw (.kind .leftoverArguments)
  return String.ofList filled

end Template

end Watchgate
