import Watchgate.Failure

/-!
# Places in a YAML text

A cursor holds the characters that are left together with the line and column of the first of them.
Indentation gives a YAML text its structure, so the column is looked at all the time. Every move
leaves fewer characters (`Cursor.next_lt`), which is why the readers that go from cursor to cursor
end.
-/

namespace Watchgate.Yaml

/-- Characters that end a line. -/
def isBreak (c : Char) : Bool :=
  c = '\n' || c = '\u0085' || c = '\u2028' || c = '\u2029'

/-- What a line end stands for in a scalar: a newline, unless it is one of the two separators. -/
def breakChar (c : Char) : Char := if c = '\u0085' then '\n' else c

/-- Blanks and line ends. -/
def isSpace (c : Char) : Bool := c = ' ' || c = '\t' || isBreak c

/-- Whether the place after an indicator is free: the text ends there or goes on with a space. -/
def isFree : Option Char → Bool
  | none => true
  | some c => isSpace c

def isLineEnd : Option Char → Bool
  | none => true
  | some c => isBreak c

/-- Whether a line ends here or goes on with a blank. -/
def isBlankOrLineEnd : Option Char → Bool
  | none => true
  | some c => c = ' ' || isBreak c

/-- Letters, digits, hyphens and underscores of ASCII: the characters of names. -/
def isNameChar (c : Char) : Bool := c.isAlphanum || c = '-' || c = '_'

/-- Characters that a text may hold. -/
def isPrintable (c : Char) : Bool :=
  let n := c.toNat
  n = 9 || n = 10 || n = 13 || (32 ≤ n && n ≤ 126) || n = 133 || (160 ≤ n && n ≤ 65533)
    || 65536 ≤ n

/-- A text whose lines all end alike: a carriage return, with a newline or without, is a newline. -/
def unifyBreaks : List Char → List Char
  | [] => []
  | '\r' :: '\n' :: cs => '\n' :: unifyBreaks cs
  | '\r' :: cs => '\n' :: unifyBreaks cs
  | c :: cs => c :: unifyBreaks cs

/-- A place in a text. -/
structure Cursor where
  rest : List Char
  index : Nat := 0
  line : Nat := 0
  /-- How many characters of the line are behind; a byte order mark does not count. -/
  column : Nat := 0

namespace Cursor

def ahead (c : Cursor) (n : Nat) : Option Char := c.rest[n]?

def peek (c : Cursor) : Option Char := c.rest.head?

/-- The place after the next character. -/
def next (c : Cursor) : Cursor :=
  match c.rest with
  | [] => c
  | ch :: rest =>
    if isBreak ch then { rest, index := c.index + 1, line := c.line + 1, column := 0 }
    else { c with
      rest, index := c.index + 1, column := if ch = '\ufeff' then c.column else c.column + 1 }

/-- A move leaves fewer characters. -/
theorem next_lt {c : Cursor} {ch : Char} {rest : List Char} (h : c.rest = ch :: rest) :
    c.next.rest.length < c.rest.length := by
  unfold next
  rw [h]
  dsimp only
  split <;> simp

/-- The place `n` characters ahead. -/
def skip (c : Cursor) : Nat → Cursor
  | 0 => c
  | n + 1 => c.next.skip n

/-- The characters up to the first that does not belong to a class, and the place of that one. -/
def span (c : Cursor) (p : Char → Bool) : List Char × Cursor :=
  let run := c.rest.takeWhile p
  (run, c.skip run.length)

/-- The place after characters of a class. -/
def skipWhile (c : Cursor) (p : Char → Bool) : Cursor := (c.span p).2

def skipBlanks (c : Cursor) : Cursor := c.skipWhile (· = ' ')

/-- The place after blanks and tabs. -/
def skipTabs (c : Cursor) : Cursor := c.skipWhile fun ch => ch = ' ' || ch = '\t'

/-- The end of the line, if a remark starts here. -/
def skipRemark (c : Cursor) : Cursor :=
  if c.peek = some '#' then c.skipWhile (!isBreak ·) else c

/-- Whether three of a character stand here, with nothing behind them. -/
def hasMarker (c : Cursor) (mark : Char) : Bool :=
  c.rest.take 3 = [mark, mark, mark] && isFree (c.ahead 3)

/-- Whether a document starts or ends here. -/
def atMarker (c : Cursor) : Bool := c.hasMarker '-' || c.hasMarker '.'

/-- The start of the next line; only blanks and a remark may stand before it. -/
def finishLine (c : Cursor) : Except Failure Cursor :=
  let c := c.skipBlanks.skipRemark
  if isLineEnd c.peek then .ok c.next else .error .yaml

end Cursor

/-- What the line ends between two parts of a scalar stand for: one line end is a blank, of several
the first is dropped, unless it is a separator. -/
def foldBreaks (first : Char) (more : List Char) : List Char :=
  if breakChar first = '\n' then (if more.isEmpty then [' '] else more) else first :: more

end Watchgate.Yaml
