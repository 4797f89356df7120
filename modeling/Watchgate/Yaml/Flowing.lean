import Watchgate.Yaml.Cursor
import Watchgate.Json.Reader

/-!
# Plain and quoted scalars

Scalars that flow over lines: a line end between two words is a blank. A plain scalar ends where an
indicator could start something else; a quoted one ends at its quote, and between double quotes a
backslash starts an escape.
-/

namespace Watchgate.Yaml

/-! ## Plain scalars -/

/-- Characters that end a plain scalar inside brackets. -/
def flowIndicators : List Char := [',', '?', '[', ']', '{', '}']

/-- Whether a colon before this character ends a key. -/
def endsKey (inFlow : Bool) : Option Char → Bool
  | none => true
  | some c => isSpace c || (inFlow && [',', '[', ']', '{', '}'].contains c)

/-- The characters of a plain scalar up to a blank or an indicator. -/
def plainRun (inFlow : Bool) : List Char → List Char
  | [] => []
  | c :: cs =>
    if isSpace c || (c = ':' && endsKey inFlow cs.head?)
        || (inFlow && flowIndicators.contains c) then []
    else c :: plainRun inFlow cs

/-- The line ends before the next part of a plain scalar; none where a document ends instead. -/
def plainBreaks (seen : List Char) (c : Cursor) : Option (List Char) × Cursor :=
  match _h : c.rest with
  | [] => (some seen.reverse, c)
  | ch :: _ =>
    if ch = ' ' then plainBreaks seen c.next
    else if isBreak ch then
      if c.next.atMarker then (none, c.next) else plainBreaks (breakChar ch :: seen) c.next
    else (some seen.reverse, c)
termination_by c.rest.length
decreasing_by all_goals exact Cursor.next_lt _h

/-- A plain scalar as far as it is read. -/
structure Plain where
  text : List Char := []
  /-- What the blanks and line ends behind them stand for if it goes on. -/
  gap : List Char := []
  lineEnds : Bool := false
  place : Cursor

/-- Reads what stands between two parts of a plain scalar. -/
def plainGap (text : List Char) (c : Cursor) : Plain :=
  let (blanks, c) := c.span (· = ' ')
  match c.peek with
  | none => { text, gap := blanks, place := c }
  | some ch =>
    if !isBreak ch then { text, gap := blanks, place := c }
    else if c.next.atMarker then { text, lineEnds := true, place := c.next }
    else match plainBreaks [] c.next with
      | (none, place) => { text, lineEnds := true, place }
      | (some more, place) => { text, gap := foldBreaks ch more, lineEnds := true, place }

/-- Reads on; each round reads a character. -/
def plainFrom (inFlow : Bool) (indent : Int) : Nat → Plain → Plain
  | 0, s => s
  | rounds + 1, s =>
    let run := plainRun inFlow s.place.rest
    if s.place.peek = some '#' || run.isEmpty then s
    else
      let s := plainGap (s.text ++ s.gap ++ run) (s.place.skip run.length)
      if s.gap.isEmpty || (!inFlow && s.place.column < indent) then s
      else plainFrom inFlow indent rounds s

/-- Reads a plain scalar in a block that is indented by less than `indent`. -/
def readPlain (inFlow : Bool) (indent : Int) (c : Cursor) : Plain :=
  plainFrom inFlow indent (c.rest.length + 1) { place := c }

/-! ## Quoted scalars -/

/-- Letters that stand for a character after a backslash. -/
def escapes : List (Char × Char) :=
  [('0', '\x00'), ('a', '\x07'), ('b', '\x08'), ('t', '\t'), ('\t', '\t'), ('n', '\n'),
    ('v', '\x0b'), ('f', '\x0c'), ('r', '\r'), ('e', '\x1b'), (' ', ' '), ('"', '"'),
    ('\\', '\\'), ('/', '/'), ('N', '\u0085'), ('_', '\u00a0'), ('L', '\u2028'),
    ('P', '\u2029')]

/-- Letters after which a code point follows, with the count of its hexadecimal digits. -/
def codeLengths : List (Char × Nat) := [('x', 2), ('u', 4), ('U', 8)]

/-- The number that hexadecimal digits write. -/
def ofHexDigits : List Char → Option Nat
  | [] => some 0
  | cs => cs.foldlM (fun n c => (Json.hexValue? c).map (16 * n + ·)) 0

/-- The character with a code point; half of a pair has none of its own. -/
def charOfCode (n : Nat) : Except Failure Char :=
  if 2147483648 ≤ n then .error .outOfRange
  else if 1114112 ≤ n then .error (.value .codePoint)
  else if n.isValidChar then .ok (Char.ofNat n)
  else .ok '\ufffd'

/-- The line ends before the next part of a quoted scalar; a document must not end here. -/
def quotedBreaks : Nat → List Char → Cursor → Except Failure (List Char × Cursor)
  | 0, seen, c => .ok (seen.reverse, c)
  | rounds + 1, seen, c =>
    if c.atMarker then .error .yaml
    else
      let c := c.skipTabs
      match c.peek with
      | none => .ok (seen.reverse, c)
      | some ch =>
        if isBreak ch then quotedBreaks rounds (breakChar ch :: seen) c.next
        else .ok (seen.reverse, c)

/-- Reads what a backslash starts; the place is that of the character after it. -/
def readEscape (c : Cursor) : Except Failure (List Char × Cursor) :=
  match c.peek with
  | none => .error .yaml
  | some ch =>
    match escapes.lookup ch, codeLengths.lookup ch with
    | some e, _ => .ok ([e], c.next)
    | none, some n =>
      let digits := c.next.rest.take n
      if digits.length < n then .error .yaml
      else match ofHexDigits digits with
        | none => .error .yaml
        | some code => do return ([← charOfCode code], c.next.skip n)
    | none, none =>
      if isBreak ch then quotedBreaks (c.rest.length + 1) [] c.next else .error .yaml

/-- Reads the blanks and line ends between two words. -/
def quotedGap (c : Cursor) : Except Failure (List Char × Cursor) :=
  let (blanks, c) := c.span fun ch => ch = ' ' || ch = '\t'
  match c.peek with
  | none => .error .yaml
  | some ch =>
    if isBreak ch then do
      let (more, c) ← quotedBreaks (c.rest.length + 1) [] c.next
      return (foldBreaks ch more, c)
    else .ok (blanks, c)

/-- Reads the next piece of a quoted scalar; none at the closing quote. -/
def quotedPiece? (quote : Char) (c : Cursor) : Except Failure (Option (List Char × Cursor)) :=
  match c.peek with
  | none => .error .yaml
  | some ch =>
    if ch = quote then
      if quote = '\'' && c.ahead 1 = some quote then .ok (some ([quote], c.skip 2)) else .ok none
    else if isSpace ch then (quotedGap c).map some
    else if quote = '"' && ch = '\\' then (readEscape c.next).map some
    else .ok (some ([ch], c.next))

/-- Reads on to the closing quote; each round reads a character. -/
def quotedFrom (quote : Char) : Nat → List Char → Cursor → Except Failure (List Char × Cursor)
  | 0, _, _ => .error .yaml
  | rounds + 1, text, c => do
    match ← quotedPiece? quote c with
    | none => return (text, c.next)
    | some (piece, c) => quotedFrom quote rounds (text ++ piece) c

def readQuoted (quote : Char) (c : Cursor) : Except Failure (List Char × Cursor) :=
  quotedFrom quote (c.rest.length + 1) [] c.next

end Watchgate.Yaml
