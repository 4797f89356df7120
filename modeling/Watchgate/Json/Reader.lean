import Watchgate.Failure

/-!
# Reading JSON

A JSON text is read into a `Value`. Numbers with a point or an exponent become doubles, all others
integers; `NaN`, `Infinity` and `-Infinity` are read too. A repeated key keeps its first place and
its last value. A text that is not JSON is refused with the place where reading stopped.

The reader works on the characters that are left. Each step takes at least one of them, so a
counter that starts above their number never runs out.
-/

namespace Watchgate.Json

open Number (Binary64)

/-- Why reading stopped, and how many characters were left there. -/
inductive Stop where
  | fault (reason : String) (left : Nat)
  | digits (count : Nat)

def skipBlanks : List Char → List Char
  | [] => []
  | c :: cs =>
    if c = ' ' || c = '\t' || c = '\n' || c = '\r' then skipBlanks cs else c :: cs

def hexValue? (c : Char) : Option Nat :=
  if c.isDigit then some (c.toNat - 48)
  else if 'a' ≤ c && c ≤ 'f' then some (c.toNat - 87)
  else if 'A' ≤ c && c ≤ 'F' then some (c.toNat - 55)
  else none

/-- The number of four hexadecimal digits and what follows them. -/
def hexFour? : List Char → Option (Nat × List Char)
  | a :: b :: c :: d :: rest => do
    let a ← hexValue? a
    let b ← hexValue? b
    let c ← hexValue? c
    let d ← hexValue? d
    return (((a * 16 + b) * 16 + c) * 16 + d, rest)
  | _ => none

/-- The character of a code point; half a surrogate pair has none and is replaced. -/
def scalar (n : Nat) : Char :=
  if 0xD800 ≤ n && n ≤ 0xDFFF then Char.ofNat 0xFFFD else Char.ofNat n

/-- The character that a single letter after a backslash stands for. -/
def simpleEscape? : Char → Option Char
  | '"' => some '"'
  | '\\' => some '\\'
  | '/' => some '/'
  | 'b' => some '\x08'
  | 'f' => some '\x0c'
  | 'n' => some '\n'
  | 'r' => some '\r'
  | 't' => some '\t'
  | _ => none

/-- Reads a numbered escape after its `u`; a surrogate pair is one character. -/
def readNumbered? (cs : List Char) : Option (Char × List Char) :=
  match hexFour? cs with
  | none => none
  | some (hi, rest) =>
    if 0xD800 ≤ hi && hi ≤ 0xDBFF then
      match rest with
      | '\\' :: 'u' :: more =>
        match hexFour? more with
        | some (lo, after) =>
          if 0xDC00 ≤ lo && lo ≤ 0xDFFF then
            some (Char.ofNat (0x10000 + (hi - 0xD800) * 0x400 + (lo - 0xDC00)), after)
          else some (scalar hi, rest)
        | none => some (scalar hi, rest)
      | _ => some (scalar hi, rest)
    else some (scalar hi, rest)

/-- Reads the characters of a text up to its closing quote. `start` is the number of characters
left at the opening quote, and `seen` what was read, last first. -/
def readText (start : Nat) : Nat → List Char → List Char → Except Stop (String × List Char)
  | 0, _, _ => .error (.fault "Unterminated string starting at" start)
  | _ + 1, _, [] => .error (.fault "Unterminated string starting at" start)
  | fuel + 1, seen, c :: cs =>
    if c = '"' then .ok (String.ofList seen.reverse, cs)
    else if c = '\\' then
      match cs with
      | [] => .error (.fault "Unterminated string starting at" start)
      | 'u' :: rest =>
        match readNumbered? rest with
        | some (ch, after) => readText start fuel (ch :: seen) after
        | none => .error (.fault "Invalid \\uXXXX escape" cs.length)
      | e :: rest =>
        match simpleEscape? e with
        | some ch => readText start fuel (ch :: seen) rest
        | none => .error (.fault "Invalid \\escape" (cs.length + 1))
    else if c.toNat < 32 then .error (.fault "Invalid control character at" (cs.length + 1))
    else readText start fuel (c :: seen) cs

/-- The number that decimal digits write. -/
def digitsValue (ds : List Char) : Nat :=
  ds.foldl (fun n d => 10 * n + (d.toNat - 48)) 0

/-- A fraction: its digits and what follows; none where no digit follows a point. -/
def fraction? : List Char → Option (List Char × List Char)
  | '.' :: cs =>
    let ds := cs.takeWhile Char.isDigit
    if ds.isEmpty then none else some (ds, cs.dropWhile Char.isDigit)
  | _ => none

/-- An exponent and what follows; none where no digit follows the letter. -/
def exponent? : List Char → Option (Int × List Char)
  | e :: cs =>
    if e = 'e' || e = 'E' then
      let (negative, cs) := match cs with
        | '-' :: rest => (true, rest)
        | '+' :: rest => (false, rest)
        | rest => (false, rest)
      let ds := cs.takeWhile Char.isDigit
      if ds.isEmpty then none
      else
        let n : Int := digitsValue ds
        some (if negative then -n else n, cs.dropWhile Char.isDigit)
    else none
  | [] => none

def readNumber? (negative : Bool) (cs : List Char) : Option (Except Stop (Value × List Char)) :=
  let whole := match cs with
    | '0' :: _ => ['0']
    | _ => cs.takeWhile Char.isDigit
  if whole.isEmpty then none
  else
    let rest := cs.drop whole.length
    let fraction := fraction? rest
    let rest := (fraction.map (·.2)).getD rest
    let power := exponent? rest
    let rest := (power.map (·.2)).getD rest
    match fraction, power with
    | none, none =>
      if Number.maxDigits < whole.length then some (.error (.digits whole.length))
      else
        let n : Int := digitsValue whole
        some (.ok (.int (if negative then -n else n), rest))
    | _, _ =>
      let decimals := (fraction.map (·.1)).getD []
      let scale := (power.map (·.1)).getD 0 - (decimals.length : Int)
      let x := Binary64.ofDecimal negative (digitsValue (whole ++ decimals)) scale
      some (.ok (.real x, rest))

/-- The rest of `cs` after the word, if it starts with it. -/
def afterWord? : List Char → List Char → Option (List Char)
  | [], cs => some cs
  | _ :: _, [] => none
  | w :: ws, c :: cs => if w = c then afterWord? ws cs else none

def words : List (List Char × Value) :=
  [("null".toList, .null), ("true".toList, .bool true), ("false".toList, .bool false),
   ("NaN".toList, .real .notANumber), ("Infinity".toList, .real (.infinite false)),
   ("-Infinity".toList, .real (.infinite true))]

/-- A value written as a word, and what follows. -/
def readWord? (cs : List Char) : Option (Value × List Char) :=
  words.findSome? fun (w, v) => (afterWord? w cs).map (v, ·)

/-- A value without parts. -/
def readScalar (cs : List Char) : Except Stop (Value × List Char) :=
  let expecting : Except Stop (Value × List Char) := .error (.fault "Expecting value" cs.length)
  match cs with
  | [] => expecting
  | '"' :: rest => (readText cs.length cs.length [] rest).map fun (s, after) => (.text s, after)
  | '-' :: rest => (readNumber? true rest).getD (match readWord? cs with
      | some r => .ok r
      | none => expecting)
  | _ => (readNumber? false cs).getD (match readWord? cs with
      | some r => .ok r
      | none => expecting)

mutual

def readValue : Nat → List Char → Except Stop (Value × List Char)
  | 0, cs => .error (.fault "Expecting value" cs.length)
  | fuel + 1, cs =>
    match cs with
    | '[' :: rest =>
      match skipBlanks rest with
      | ']' :: after => .ok (.list [], after)
      | rest => readItems fuel [] rest
    | '\x7b' :: rest =>
      match skipBlanks rest with
      | '\x7d' :: after => .ok (.map [], after)
      | rest => readMembers fuel [] rest
    | _ => readScalar cs

/-- Reads the items of a list up to its end; `seen` holds those before, last first. -/
def readItems : Nat → List Value → List Char → Except Stop (Value × List Char)
  | 0, _, cs => .error (.fault "Expecting value" cs.length)
  | fuel + 1, seen, cs => do
    let (v, rest) ← readValue fuel cs
    match skipBlanks rest with
    | ']' :: after => .ok (.list (v :: seen).reverse, after)
    | ',' :: after => readItems fuel (v :: seen) (skipBlanks after)
    | rest => .error (.fault "Expecting ',' delimiter" rest.length)

/-- Reads the members of a mapping up to its end; `seen` holds those before, last first. -/
def readMembers : Nat → List (String × Value) → List Char → Except Stop (Value × List Char)
  | 0, _, cs => .error (.fault "Expecting value" cs.length)
  | fuel + 1, seen, cs =>
    match cs with
    | '"' :: rest => do
      let (key, rest) ← readText cs.length cs.length [] rest
      match skipBlanks rest with
      | ':' :: rest =>
        let (v, rest) ← readValue fuel (skipBlanks rest)
        match skipBlanks rest with
        | '\x7d' :: after => .ok (.map (Entries.ofPairs ((key, v) :: seen).reverse), after)
        | ',' :: after => readMembers fuel ((key, v) :: seen) (skipBlanks after)
        | rest => .error (.fault "Expecting ',' delimiter" rest.length)
      | rest => .error (.fault "Expecting ':' delimiter" rest.length)
    | _ => .error (.fault "Expecting property name enclosed in double quotes" cs.length)

end

/-- The place before which `left` characters of the text remain. -/
def place (reason : String) (cs : List Char) (left : Nat) : JsonFault :=
  let offset := cs.length - left
  let before := cs.take offset
  let lines := before.filter (· = '\n')
  ⟨reason, lines.length + 1, (before.reverse.takeWhile (· ≠ '\n')).length + 1, offset⟩

def read (s : String) : Except Failure Value :=
  let cs := s.toList
  let stopped : Stop → Failure
    | .fault reason left => .json (place reason cs left)
    | .digits n => .value (.tooManyDigits n)
  let body := skipBlanks cs
  match readValue (2 * body.length + 2) body with
  | .error stop => .error (stopped stop)
  | .ok (v, rest) =>
    match skipBlanks rest with
    | [] => .ok v
    | rest => .error (stopped (.fault "Extra data" rest.length))

end Watchgate.Json
