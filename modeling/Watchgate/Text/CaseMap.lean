import Watchgate.Text.CaseTables

/-!
# Lower case, first letters and caseless comparison

`casefold` is the form under which two texts are compared without regard to case: full folding, so
that a sharp s and a double s agree.
-/

namespace Watchgate.Text

/-- Whether the run holds the code point. -/
def CaseRun.holds (r : CaseRun) (n : Nat) : Bool :=
  r.first ≤ n && n ≤ r.last && (n - r.first) % r.step = 0

/-- What one character becomes under a table. -/
def CaseTable.apply (t : CaseTable) (c : Char) : List Char :=
  match t.expansions.find? (·.1 = c.toNat) with
  | some (_, cs) => cs.map Char.ofNat
  | none =>
    match t.runs.find? (·.holds c.toNat) with
    | some r => [Char.ofNat (c.toNat + r.shift).toNat]
    | none => [c]

/-- One character in lower case, without regard to its neighbours. -/
def lowerChar (c : Char) : List Char :=
  if c.toNat < 128 then [c.toLower] else lowerTable.apply c

/-- One character folded for comparison. -/
def foldChar (c : Char) : List Char :=
  if c.toNat < 128 then [c.toLower] else foldTable.apply c

/-- One character as a first letter. -/
def titleChar (c : Char) : List Char :=
  if c.toNat < 128 then [c.toUpper] else titleTable.apply c

/-- Whether a letter with case comes first in `cs`, marks aside. -/
def startsCased : List Char → Bool
  | [] => false
  | c :: cs =>
    if lowerChar c != [c] || titleChar c != [c] then true
    else if c = '\'' || c = '.' || c = ':' || c = '^' || c.toNat = 0xAD || c.toNat = 0x2019
    then startsCased cs
    else false

/-- Lower case with the sigma at the end of a word in its final form; `before` holds what was read,
nearest first. -/
def lowerChars (before : List Char) : List Char → List Char
  | [] => []
  | c :: cs =>
    (if c.toNat = 0x3A3 then
      [if startsCased before && !startsCased cs then Char.ofNat 0x3C2 else Char.ofNat 0x3C3]
    else lowerChar c) ++ lowerChars (c :: before) cs

def lower (s : String) : String :=
  String.ofList (lowerChars [] s.toList)

/-- The text folded for comparison without regard to case. -/
def casefold (s : String) : String :=
  String.ofList (s.toList.flatMap foldChar)

/-- The text with its first letter in title case and the rest in lower case. -/
def capitalize (s : String) : String :=
  match s.toList with
  | [] => ""
  | c :: cs => String.ofList (titleChar c ++ lowerChars [c] cs)

/-- ASCII letters in upper case, with the two other letters whose upper case is ASCII. -/
def upperAscii (s : String) : String :=
  String.ofList (s.toList.map fun c =>
    if c.toNat = 0x131 then 'I' else if c.toNat = 0x17F then 'S' else c.toUpper)

end Watchgate.Text
