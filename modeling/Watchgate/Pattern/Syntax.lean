/-!
# Patterns

The tree of a search pattern. Characters are code points. Flags that change how a part is matched
are recorded in the part itself, so a tree can be matched without knowing where its flags came
from.
-/

namespace Watchgate.Pattern

/-- Classes of characters that have a letter of their own. -/
inductive CharClass where
  | digit
  | space
  /-- Letters, numeric characters and the underscore. -/
  | word
deriving DecidableEq, Repr

/-- Which characters count as the same although they differ in case. -/
inductive CaseRule where
  /-- None. -/
  | exact
  /-- The letters of ASCII. -/
  | ascii
  /-- The letters of all scripts. -/
  | full
deriving DecidableEq, Repr

/-- One element of a character set. -/
inductive SetItem where
  | one (code : Nat)
  | range (low high : Nat)
  /-- A class or, if `negated`, all that is outside it; `ascii` limits the class. -/
  | cls (which : CharClass) (negated ascii : Bool)
deriving DecidableEq, Repr

/-- Which of several possible repetitions is tried first, and whether others are tried at all. -/
inductive RepeatMode where
  | greedy
  | lazy
  /-- The longest, without coming back to a shorter one. -/
  | possessive
deriving DecidableEq, Repr

/-- How a group takes part in matching. -/
inductive GroupKind where
  /-- Remembers what it matched under a number. -/
  | capture (index : Nat)
  /-- Only groups. -/
  | plain
  /-- Does not give back what it matched. -/
  | atomic
deriving DecidableEq, Repr

/-- The tree of a pattern. -/
inductive Node where
  | empty
  | literal (code : Nat) (fold : CaseRule)
  /-- Any character, line ends only if `newline`. -/
  | any (newline : Bool)
  /-- A character of a set, or outside it. -/
  | set (negated : Bool) (items : List SetItem) (fold : CaseRule)
  /-- The start of the text or, if `multi`, of a line. -/
  | start (multi : Bool)
  /-- The end of the text, or before a line end that closes it; if `multi`, the end of a line. -/
  | finish (multi : Bool)
  | textStart
  | textEnd
  /-- A place between a word character and another one, or, if `negated`, any other place. -/
  | boundary (negated ascii : Bool)
  | backref (index : Nat) (fold : CaseRule)
  | group (kind : GroupKind) (body : Node)
  /-- A test of what follows or, if `back` is given, of what starts so many characters before. -/
  | look (back : Option Nat) (negated : Bool) (body : Node)
  /-- One of two continuations, by whether a group has matched. -/
  | conditional (index : Nat) (yes no : Node)
  /-- A repetition of at least `low` and, if given, at most `high` times. -/
  | repeated (mode : RepeatMode) (low : Nat) (high : Option Nat) (body : Node)
  | cat (first second : Node)
  | alt (first second : Node)
deriving DecidableEq, Repr, Inhabited

namespace Node

/-- A place in the text rather than a part of it. -/
def isAnchor : Node → Bool
  | .start _ => true
  | .finish _ => true
  | .textStart => true
  | .textEnd => true
  | .boundary .. => true
  | _ => false

def isRepeated : Node → Bool
  | .repeated .. => true
  | _ => false

def ofList : List Node → Node
  | [] => .empty
  | [n] => n
  | n :: ns => .cat n (ofList ns)

/-- Shortest and longest text that a pattern can match; the longest is none if there is no bound.
`widths` gives those of the groups. -/
def width (widths : Nat → Nat × Option Nat) : Node → Nat × Option Nat
  | .empty => (0, some 0)
  | .literal .. => (1, some 1)
  | .any _ => (1, some 1)
  | .set .. => (1, some 1)
  | .start _ => (0, some 0)
  | .finish _ => (0, some 0)
  | .textStart => (0, some 0)
  | .textEnd => (0, some 0)
  | .boundary .. => (0, some 0)
  | .backref i _ => widths i
  | .group _ body => body.width widths
  | .look .. => (0, some 0)
  | .conditional _ yes no =>
    let a := yes.width widths
    let b := no.width widths
    (min a.1 b.1, do let x ← a.2; let y ← b.2; return max x y)
  | .repeated _ low high body =>
    let (l, h) := body.width widths
    (l * low, match h, high with
      | some 0, _ => some 0
      | _, some 0 => some 0
      | some h, some n => some (h * n)
      | _, _ => none)
  | .cat a b =>
    let (l, h) := a.width widths
    let (m, i) := b.width widths
    (l + m, do let x ← h; let y ← i; return x + y)
  | .alt a b =>
    let (l, h) := a.width widths
    let (m, i) := b.width widths
    (min l m, do let x ← h; let y ← i; return max x y)

/-- Whether every look behind inside the pattern has one length only, which it must have to be
matched backwards. -/
def looksBehindFixed (widths : Nat → Nat × Option Nat) : Node → Bool
  | .group _ body => body.looksBehindFixed widths
  | .look back _ body =>
    (back.all fun n => body.width widths = (n, some n)) && body.looksBehindFixed widths
  | .conditional _ yes no => yes.looksBehindFixed widths && no.looksBehindFixed widths
  | .repeated _ _ _ body => body.looksBehindFixed widths
  | .cat a b => a.looksBehindFixed widths && b.looksBehindFixed widths
  | .alt a b => a.looksBehindFixed widths && b.looksBehindFixed widths
  | _ => true

/-- Whether there is a repetition anywhere. -/
def repeats : Node → Bool
  | .group _ body => body.repeats
  | .look _ _ body => body.repeats
  | .conditional _ yes no => yes.repeats || no.repeats
  | .repeated .. => true
  | .cat a b => a.repeats || b.repeats
  | .alt a b => a.repeats || b.repeats
  | _ => false

end Node

end Watchgate.Pattern
