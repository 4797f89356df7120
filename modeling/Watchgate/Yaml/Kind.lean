import Watchgate.Calendar.Moment
import Watchgate.Json.Reader

/-!
# Kinds of scalars

What a plain scalar is follows from how it is written, by the rules of YAML 1.1: `yes` and `off` are
truth values, `0x1f`, `017`, `0b11` and `1:30` integers, `1_000.5` a number, `2024-03-15` a date, and
what fits no rule is text. A tag names the kind instead, and then the text has to suit it.
-/

namespace Watchgate.Yaml

open Number

/-- The kinds of nodes. -/
inductive Kind where
  | null
  | bool
  | int
  | float
  /-- A date, alone or with a time of day. -/
  | timestamp
  /-- The key under which other mappings are taken in. -/
  | merge
  /-- The key for what a mapping stands for. -/
  | default
  | text
  | sequence
  /-- A sequence of pairs. -/
  | pairs
  | mapping
  /-- A mapping without values. -/
  | set
  | other
deriving DecidableEq, Repr

def tagKinds : List (String × Kind) :=
  [("null", .null), ("bool", .bool), ("int", .int), ("float", .float), ("timestamp", .timestamp),
    ("merge", .merge), ("value", .default), ("str", .text), ("seq", .sequence), ("omap", .pairs),
    ("pairs", .pairs), ("map", .mapping), ("set", .set)]

def kindOfTag (tag : String) : Kind :=
  let family := "tag:yaml.org,2002:"
  if tag.startsWith family then
    (tagKinds.lookup (String.ofList (tag.toList.drop family.length))).getD .other
  else .other

/-! ## How a kind is written -/

/-- The spellings of truth values, in small letters. -/
def truthNames : List (String × Bool) :=
  [("yes", true), ("no", false), ("true", true), ("false", false), ("on", true), ("off", false)]

/-- The three ways to write a word: in small letters, with a capital, in capitals. -/
def spellings (word : String) : List String :=
  [word, word.capitalize, String.ofList (word.toList.map Char.toUpper)]

/-- The characters behind a sign. -/
def unsigned : List Char → List Char
  | '-' :: cs => cs
  | '+' :: cs => cs
  | cs => cs

/-- A digit, or an underscore between digits. -/
def isDigitOrScore (c : Char) : Bool := c.isDigit || c = '_'

/-- Whether something is written by at least one character of a class. -/
def isRun (p : Char → Bool) (cs : List Char) : Bool := !cs.isEmpty && cs.all p

/-- Digits and underscores that start with a digit. -/
def isScored (cs : List Char) : Bool :=
  (cs.head?.map Char.isDigit).getD false && cs.all isDigitOrScore

/-- The part before the first of a character, and what follows it. -/
def cutAt (c : Char) (cs : List Char) : Option (List Char × List Char) :=
  if cs.contains c then some (cs.takeWhile (· ≠ c), (cs.dropWhile (· ≠ c)).drop 1) else none

def colonParts : List Char → List (List Char)
  | [] => [[]]
  | c :: cs =>
    if c = ':' then [] :: colonParts cs
    else match colonParts cs with
      | [] => [[c]]
      | part :: parts => (c :: part) :: parts

/-- Whether a part counts sixtieths: one digit, or two of which the first is at most five. -/
def isSixtieth : List Char → Bool
  | [a] => a.isDigit
  | [a, b] => a.isDigit && a ≤ '5' && b.isDigit
  | _ => false

/-- Whether an integer is written. -/
def isInt (cs : List Char) : Bool :=
  match unsigned cs with
  | '0' :: 'b' :: ds => isRun (fun c => c = '0' || c = '1' || c = '_') ds
  | '0' :: 'x' :: ds => isRun (fun c => (Json.hexValue? c).isSome || c = '_') ds
  | ['0'] => true
  | '0' :: ds => isRun (fun c => ('0' ≤ c && c ≤ '7') || c = '_') ds
  | ds =>
    match colonParts ds with
    | [whole] => isScored whole
    | whole :: parts => isScored whole && parts.all isSixtieth
    | [] => false

/-- Whether an exponent is written, or nothing. -/
def isExponent : List Char → Bool
  | [] => true
  | e :: sign :: ds => (e = 'e' || e = 'E') && (sign = '+' || sign = '-') && isRun Char.isDigit ds
  | _ => false

/-- Whether the part behind a point is written. -/
def isFraction (cs : List Char) : Bool := isExponent (cs.dropWhile isDigitOrScore)

/-- Whether a number with a point is written before it. -/
def isPointed (whole fraction : List Char) : Bool :=
  match colonParts whole with
  | [whole] => isScored whole && isFraction fraction
  | whole :: parts => isScored whole && parts.all isSixtieth && fraction.all isDigitOrScore
  | [] => false

/-- Whether a number with a fraction is written. -/
def isFloat (cs : List Char) : Bool :=
  let s := String.ofList cs
  [".nan", ".NaN", ".NAN"].contains s
    || [".inf", ".Inf", ".INF"].contains (String.ofList (unsigned cs))
    || (match cs with
      | '.' :: d :: ds => d.isDigit && isFraction ds
      | _ => false)
    || (match cutAt '.' (unsigned cs) with
      | some (whole, fraction) => isPointed whole fraction
      | none => false)

/-! ## Dates and times -/

/-- Date and time of day as they are written. -/
structure Stamp where
  year : Nat
  month : Nat
  day : Nat
  /-- Hour, minute, second and microsecond. -/
  time : Option (Nat × Nat × Nat × Nat) := none
  /-- The distance from universal time: whether it is behind, hours and minutes. -/
  zone : Option (Bool × Nat × Nat) := none

/-- Reads a number of at least `least` and at most `most` digits. -/
def numberOf? (least most : Nat) (cs : List Char) : Option (Nat × List Char) :=
  let ds := (cs.take most).takeWhile Char.isDigit
  if ds.length < least then none else some (Nat.ofDigitChars 10 ds 0, cs.drop ds.length)

def sign? (c : Char) : List Char → Option (List Char)
  | d :: cs => if d = c then some cs else none
  | [] => none

/-- Reads a distance from universal time. -/
def zone? (cs : List Char) : Option (Option (Bool × Nat × Nat)) :=
  match cs.dropWhile (fun c => c = ' ' || c = '\t') with
  | [] => if cs.isEmpty then some none else none
  | ['Z'] => some (some (false, 0, 0))
  | sign :: rest =>
    if sign ≠ '+' && sign ≠ '-' then none
    else do
      let (hours, rest) ← numberOf? 1 2 rest
      let minutes ← match rest with
        | [] => some 0
        | _ => do
          let (m, rest) ← numberOf? 2 2 (← sign? ':' rest)
          if rest.isEmpty then some m else none
      return some (sign = '-', hours, minutes)

def timeOfDay? (stamp : Stamp) (cs : List Char) : Option Stamp := do
  let (hour, cs) ← numberOf? 1 2 cs
  let (minute, cs) ← numberOf? 2 2 (← sign? ':' cs)
  let (second, cs) ← numberOf? 2 2 (← sign? ':' cs)
  let (fraction, cs) := match cs with
    | '.' :: rest => (rest.takeWhile Char.isDigit, rest.dropWhile Char.isDigit)
    | _ => ([], cs)
  let micros := Nat.ofDigitChars 10 ((fraction ++ List.replicate 6 '0').take 6) 0
  let zone ← zone? cs
  return { stamp with time := some (hour, minute, second, micros), zone }

/-- The characters between a date and a time of day. -/
def afterDate? : List Char → Option (List Char)
  | [] => none
  | c :: cs =>
    if c = 'T' || c = 't' then some cs
    else if c = ' ' || c = '\t' then some (cs.dropWhile fun c => c = ' ' || c = '\t')
    else none

/-- Reads a date, alone or with a time of day. -/
def stamp? (cs : List Char) : Option Stamp := do
  let (year, cs) ← numberOf? 4 4 cs
  let (month, cs) ← numberOf? 1 2 (← sign? '-' cs)
  let (day, cs) ← numberOf? 1 2 (← sign? '-' cs)
  let stamp : Stamp := { year, month, day }
  if cs.isEmpty then return stamp
  timeOfDay? stamp (← afterDate? cs)

/-- Whether a date is written; one that stands alone has two digits for month and day. -/
def isTimestamp (cs : List Char) : Bool :=
  match stamp? cs with
  | none => false
  | some stamp => stamp.time.isSome || cs.length = 10

def kindOfText (s : String) : Kind :=
  let cs := s.toList
  if ["", "~"].contains s || (spellings "null").contains s then .null
  else if (truthNames.map Prod.fst).any fun word => (spellings word).contains s then .bool
  else if isInt cs then .int
  else if isFloat cs then .float
  else if isTimestamp cs then .timestamp
  else if s = "<<" then .merge
  else if s = "=" then .default
  else .text

end Watchgate.Yaml
