import Watchgate.Pattern.Syntax
import Watchgate.Pattern.CaseClosure
import Watchgate.Text.Basic
import Watchgate.Text.Word
import Watchgate.Text.Digit

/-!
# Matching a pattern

A node is matched at a place of the text, and what is to be matched after it is handed over as a
function; the first way that leads to the end wins. Each node passes smaller nodes on, and a
repetition without an upper bound goes on only as long as it moves forward, so every match ends.
-/

namespace Watchgate.Pattern

open Text

/-- A place in the text, and what the groups have matched, as start and end. -/
structure State where
  /-- The number of characters before the place. -/
  pos : Nat
  /-- Starts and ends of the groups by number; the latest comes first. -/
  groups : List (Nat × Nat × Nat) := []
deriving Repr

/-- The latest match of a group. -/
def State.group? (s : State) (i : Nat) : Option (Nat × Nat) :=
  (s.groups.find? (·.1 = i)).map (·.2)

def CharClass.holds (ascii : Bool) (c : Char) : CharClass → Bool
  | .digit => if ascii then c.isDigit else isDecimal c
  | .space =>
    if ascii then c = ' ' || (9 ≤ c.toNat && c.toNat ≤ 13) else isBlank c
  | .word => if ascii then c = '_' || c.isAlphanum else isWordChar c

/-- Whether an item of a set holds a code point that was put in lower case under the rule. -/
def SetItem.holds (fold : CaseRule) (code : Nat) : SetItem → Bool
  | .one c => (fold.fellows (fold.lower c)).contains code
  | .range low high =>
    (fold.fellows code).any fun k => (fold.sources k).any fun c => low ≤ c && c ≤ high
  | .cls which negated ascii => which.holds ascii (Char.ofNat code) != negated

/-- Whether a character of the text is the given one. -/
def sameChar (fold : CaseRule) (code : Nat) (c : Char) : Bool :=
  (fold.fellows (fold.lower code)).contains (fold.lower c.toNat)

/-- Whether the character before or after a place is a word character. -/
def wordAt (text : Array Char) (ascii : Bool) (i : Nat) : Bool :=
  (text[i]?).any fun c => CharClass.word.holds ascii c

/-- Whether a place lies between a word character and another one. -/
def atBoundary (text : Array Char) (ascii : Bool) (pos : Nat) : Bool :=
  (0 < pos && wordAt text ascii (pos - 1)) != wordAt text ascii pos

/-- Whether the text from `start` to `stop` stands again at `pos`. -/
def standsAgain (text : Array Char) (fold : CaseRule) (start stop pos : Nat) : Bool :=
  pos + (stop - start) ≤ text.size &&
    (List.range (stop - start)).all fun i =>
      match text[start + i]?, text[pos + i]? with
      | some a, some b => fold.lower a.toNat = fold.lower b.toNat
      | _, _ => false

/-- What is to be matched next. -/
abbrev Next := State → Option State

/-- The first result if there is one, else the second, which is not looked for before. -/
def firstOf (a : Option State) (b : Unit → Option State) : Option State :=
  match a with
  | some s => some s
  | none => b ()

/-- Repeats `once` at least `low` and at most `high` times. `count` times are done, and the last
one started at `last`. Past `low`, a further time is tried only after moving forward. -/
def repeatWith (once : State → Next → Option State) (isLazy : Bool) (low : Nat)
    (high : Option Nat) : Nat → Nat → Option Nat → State → Next → Option State
  | 0, _, _, _, _ => none
  | fuel + 1, count, last, s, next =>
    let again (_ : Unit) : Option State :=
      once s fun t => repeatWith once isLazy low high fuel (count + 1) (some s.pos) t next
    if count < low then again ()
    else if (high.any (· ≤ count)) || last = some s.pos then next s
    else if isLazy then firstOf (next s) again
    else firstOf (again ()) fun _ => next s

def one (text : Array Char) (test : Char → Bool) (s : State) (next : Next) : Option State :=
  match text[s.pos]? with
  | some c => if test c then next { s with pos := s.pos + 1 } else none
  | none => none

/-- Goes on if the condition holds at the place. -/
def check (holds : Bool) (s : State) (next : Next) : Option State :=
  if holds then next s else none

namespace Node

def run (text : Array Char) : Node → State → Next → Option State
  | .empty, s, next => next s
  | .literal code fold, s, next => one text (sameChar fold code) s next
  | .any newline, s, next => one text (fun c => newline || c ≠ '\n') s next
  | .set negated items fold, s, next =>
    one text (fun c => items.any (·.holds fold (fold.lower c.toNat)) != negated) s next
  | .start multi, s, next =>
    check (s.pos = 0 || (multi && text[s.pos - 1]? = some '\n')) s next
  | .finish multi, s, next =>
    check (s.pos = text.size || (text[s.pos]? = some '\n' && (multi || s.pos + 1 = text.size)))
      s next
  | .textStart, s, next => check (s.pos = 0) s next
  | .textEnd, s, next => check (s.pos = text.size) s next
  | .boundary negated ascii, s, next =>
    check (if text.isEmpty then false else atBoundary text ascii s.pos != negated) s next
  | .backref i fold, s, next =>
    match s.group? i with
    | some (i, j) =>
      if standsAgain text fold i j s.pos then next { s with pos := s.pos + (j - i) }
      else none
    | none => none
  | .group kind body, s, next =>
    match kind with
    | .plain => body.run text s next
    | .capture i =>
      body.run text s fun t => next { t with groups := (i, s.pos, t.pos) :: t.groups }
    | .atomic => (body.run text s some).bind next
  | .look back negated body, s, next =>
    let width := back.getD 0
    let found := if s.pos < width then none
      else body.run text { s with pos := s.pos - width } some
    match found, negated with
    | some t, false => next { t with pos := s.pos }
    | none, true => next s
    | _, _ => none
  | .conditional i yes no, s, next =>
    if (s.group? i).isSome then yes.run text s next else no.run text s next
  | .repeated mode low high body, s, next =>
    let fuel := low + text.size + 2 - s.pos
    match mode with
    | .greedy => repeatWith (body.run text) false low high fuel 0 none s next
    | .lazy => repeatWith (body.run text) true low high fuel 0 none s next
    | .possessive => (repeatWith (body.run text) false low high fuel 0 none s some).bind next
  | .cat a b, s, next => a.run text s fun t => b.run text t next
  | .alt a b, s, next => firstOf (a.run text s next) fun _ => b.run text s next

/-- Whether the pattern matches somewhere in the text. -/
def foundIn (n : Node) (s : String) : Bool :=
  let text := s.toList.toArray
  (List.range (text.size + 1)).any fun i => (n.run text ⟨i, []⟩ some).isSome

end Node

end Watchgate.Pattern
