import Watchgate.Yaml.Cursor

/-!
# Block scalars

Scalars written below their indicator, line by line, without quotes. The first line that is not
empty sets the indentation, unless the header gives it. A literal scalar keeps its line ends; a folded
one joins lines that do not start with a blank. The header also says what becomes of the line ends at
the very end.
-/

namespace Watchgate.Yaml

/-- What becomes of the line ends at the end of a block scalar. -/
inductive Chomping where
  /-- None is kept. -/
  | strip
  /-- One is kept. -/
  | clip
  /-- All are kept. -/
  | keep
deriving DecidableEq, Repr

/-- What the first line of a block scalar says. -/
structure BlockHeader where
  /-- What becomes of the line ends at the end. -/
  chomping : Chomping := .clip
  /-- How much deeper than its surroundings the scalar is. -/
  increment : Option Nat := none

/-- Reads an indicator for the line ends at the end. -/
def readChomping (h : BlockHeader) (c : Cursor) : BlockHeader × Cursor :=
  match c.peek with
  | some '+' => ({ h with chomping := .keep }, c.next)
  | some '-' => ({ h with chomping := .strip }, c.next)
  | _ => (h, c)

/-- Reads an indicator for the indentation, a digit other than zero. -/
def readIncrement (h : BlockHeader) (c : Cursor) : Except Failure (BlockHeader × Cursor) :=
  match c.peek with
  | some d =>
    if d = '0' then .error .yaml
    else if d.isDigit then .ok ({ h with increment := some (d.toNat - 48) }, c.next)
    else .ok (h, c)
  | none => .ok (h, c)

/-- Reads the header: both indicators in either order, then nothing up to the end of the line. -/
def readHeader (c : Cursor) : Except Failure (BlockHeader × Cursor) := do
  let (h, c) := readChomping {} c
  let (h, c) ← readIncrement h c
  let (h, c) := if h.chomping = .clip then readChomping h c else (h, c)
  if !isBlankOrLineEnd c.peek then throw .yaml
  return (h, ← c.finishLine)

/-- The line ends before the first line, and the deepest column reached on the way. -/
def leadingBreaks (seen : List Char) (deepest : Nat) (c : Cursor) : List Char × Nat × Cursor :=
  match _h : c.rest with
  | [] => (seen.reverse, deepest, c)
  | ch :: _ =>
    if ch = ' ' then leadingBreaks seen (max deepest c.next.column) c.next
    else if isBreak ch then leadingBreaks (breakChar ch :: seen) deepest c.next
    else (seen.reverse, deepest, c)
termination_by c.rest.length
decreasing_by all_goals exact Cursor.next_lt _h

/-- The line ends before the next line that is not empty, and its indentation. -/
def blockBreaks (indent : Nat) (seen : List Char) (c : Cursor) : List Char × Cursor :=
  match _h : c.rest with
  | [] => (seen.reverse, c)
  | ch :: _ =>
    if ch = ' ' && c.column < indent then blockBreaks indent seen c.next
    else if isBreak ch then blockBreaks indent (breakChar ch :: seen) c.next
    else (seen.reverse, c)
termination_by c.rest.length
decreasing_by all_goals exact Cursor.next_lt _h

/-- A block scalar as far as it is read. -/
structure BlockText where
  /-- Its characters, without the last line end. -/
  text : List Char := []
  lineEnd : List Char := []
  /-- The line ends of the empty lines behind it. -/
  breaks : List Char
  place : Cursor

/-- Whether a line starts here that belongs to the scalar. -/
def hasLine (indent : Nat) (c : Cursor) : Bool := c.column = indent && c.peek.isSome

def startsBlank (c : Cursor) : Bool := c.peek = some ' ' || c.peek = some '\t'

def betweenLines (folded : Bool) (line next : Cursor) (lineEnd breaks : List Char) : List Char :=
  if folded && lineEnd = ['\n'] && !startsBlank line && !startsBlank next then
    (if breaks.isEmpty then [' '] else [])
  else lineEnd

/-- Reads line after line; each round reads one. -/
def blockLines (folded : Bool) (indent : Nat) : Nat → BlockText → BlockText
  | 0, s => s
  | rounds + 1, s =>
    if !hasLine indent s.place then s
    else
      let (line, c) := s.place.span (!isBreak ·)
      let text := s.text ++ s.breaks ++ line
      let lineEnd := (c.peek.map breakChar).toList
      let (breaks, next) := blockBreaks indent [] c.next
      if hasLine indent next then
        blockLines folded indent rounds {
          text := text ++ betweenLines folded s.place next lineEnd breaks
          breaks, place := next }
      else { text, lineEnd, breaks, place := next }

/-- Reads a block scalar from behind its indicator on; `outer` is the indentation around it. -/
def readBlock (folded : Bool) (outer : Int) (c : Cursor) :
    Except Failure (List Char × Cursor) := do
  let (h, c) ← readHeader c
  let least := max 1 (outer + 1).toNat
  let (indent, breaks, place) := match h.increment with
    | none =>
      let (breaks, deepest, c) := leadingBreaks [] 0 c
      (max least deepest, breaks, c)
    | some n =>
      let indent := least + n - 1
      let (breaks, c) := blockBreaks indent [] c
      (indent, breaks, c)
  let s := blockLines folded indent (c.rest.length + 1) { breaks, place }
  return (match h.chomping with
    | .strip => s.text
    | .clip => s.text ++ s.lineEnd
    | .keep => s.text ++ s.lineEnd ++ s.breaks, s.place)

end Watchgate.Yaml
