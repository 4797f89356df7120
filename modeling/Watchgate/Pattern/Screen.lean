import Watchgate.Pattern.Reader
import Watchgate.Pattern.Matcher
import Watchgate.Failure
import Watchgate.Journal

/-!
# Screening patterns

Matching tries one way after the other, and a repetition inside a repetition can make the number of
ways explode. The screen goes once through the text of a pattern and refuses it when a repeated
group holds a repetition, when a repetition has an upper bound above `maxRepetition`, or when the
text is longer than `maxLength`. It keeps one mark for each open group: whether a repetition was
seen inside.

A pattern written by an administrator is screened before it is used. A pattern that does not pass,
or that is no pattern, never matches and leaves a note; the place where it was used is named there.
-/

namespace Watchgate.Pattern

namespace Screen

open Text

/-- Longest pattern text that is accepted. -/
def maxLength : Nat := 500

/-- Highest upper bound of a repetition that is accepted. -/
def maxRepetition : Nat := 25

/-- A quantifier as the screen sees it. -/
inductive Quantifier where
  /-- Without an upper bound. -/
  | unbounded
  /-- At most so many times. -/
  | upTo (bound : Nat)
deriving DecidableEq, Repr

/-- Whether more than one repetition is possible. -/
def Quantifier.repeats : Quantifier → Bool
  | .unbounded => true
  | .upTo n => 1 < n

/-- Whether the upper bound is too high. -/
def Quantifier.tooHigh : Quantifier → Bool
  | .unbounded => false
  | .upTo n => maxRepetition < n

def decimalNumber (cs : List Char) : Nat :=
  cs.foldl (fun n c => 10 * n + (decimalValue? c).getD 0) 0

/-- A quantifier in braces after its opening brace, and what follows it. Braces without any number
are ordinary characters. -/
def braces? (cs : List Char) : Option (Quantifier × List Char) :=
  let low := cs.takeWhile isDecimal
  match cs.dropWhile isDecimal with
  | ',' :: rest =>
    let high := rest.takeWhile isDecimal
    match rest.dropWhile isDecimal with
    | '\x7d' :: after =>
      if low.isEmpty && high.isEmpty then none
      else if high.isEmpty then some (.unbounded, after)
      else some (.upTo (decimalNumber high), after)
    | _ => none
  | '\x7d' :: after => if low.isEmpty then none else some (.upTo (decimalNumber low), after)
  | _ => none

/-- The quantifier at the front of `cs`, if there is one, and what follows it. -/
def quantifier? : List Char → Option (Quantifier × List Char)
  | '*' :: cs => some (.unbounded, cs)
  | '+' :: cs => some (.unbounded, cs)
  | '?' :: cs => some (.upTo 1, cs)
  | '\x7b' :: cs => braces? cs
  | _ => none

/-- What follows a lazy or possessive mark. -/
def dropMark : List Char → List Char
  | '?' :: cs => cs
  | '+' :: cs => cs
  | cs => cs

/-- What follows the closing bracket of a set. -/
def dropSetItems : List Char → List Char
  | [] => []
  | ']' :: cs => cs
  | '\\' :: _ :: cs => dropSetItems cs
  | _ :: cs => dropSetItems cs

/-- What follows a set, from behind its opening bracket; a closing bracket in first place belongs to
the set. -/
def dropSet (cs : List Char) : List Char :=
  let cs := match cs with
    | '^' :: rest => rest
    | _ => cs
  match cs with
  | ']' :: rest => dropSetItems rest
  | _ => dropSetItems cs

/-- Adds a mark to the innermost open group. -/
def addMark (mark : Bool) : List Bool → List Bool
  | [] => []
  | b :: bs => (b || mark) :: bs

/-- Screens the text from a place on. `marks` belongs to the open groups, the innermost first; the
last belongs to the whole pattern. -/
def scan : Nat → List Bool → List Char → Bool
  | 0, _, _ => true
  | _ + 1, _, [] => true
  | fuel + 1, marks, c :: cs =>
    if c = '(' then scan fuel (false :: marks) cs
    else if c = ')' then
      let inner := if 1 < marks.length then marks.headD false else false
      let outer := if 1 < marks.length then marks.tail else marks
      match quantifier? cs with
      | some (q, rest) =>
        if (q.repeats && inner) || q.tooHigh then false
        else scan fuel (addMark (inner || q.repeats) outer) rest
      | none => scan fuel (addMark inner outer) cs
    else
      let isEscape := c = '\\'
      let rest := if isEscape then cs.drop 1 else if c = '[' then dropSet cs else cs
      match quantifier? rest with
      | some (q, rest) =>
        if q.tooHigh then false
        else scan fuel (addMark q.repeats marks) (if isEscape then rest else dropMark rest)
      | none => scan fuel marks rest

/-- Whether a pattern text passes the screen. -/
def isSafe (pattern : String) : Bool :=
  let cs := pattern.toList
  cs.length ≤ maxLength && scan (cs.length + 1) [false] cs

end Screen

/-- The failure of a pattern that cannot be read for a reason other than its notation. -/
def PatternFault.failure? : PatternFault → Option Failure
  | .malformed => none
  | .hugeCount => some .outOfRange
  | .flagClash => some (.value .flagClash)

/-- Whether the pattern is found in one of the values. Absent values are passed over, others are
searched as they are shown. -/
def searchAny (pattern : String) (values : List Value) (place : String) (ignoreCase : Bool) :
    Noted (Except Failure Bool) :=
  if !Screen.isSafe pattern then
    Noted.warning ("Rejected unsafe regex in " ++ place ++ ": " ++ pattern) (.ok false)
  else match read ignoreCase pattern with
    | .error fault =>
      match fault.failure? with
      | some failure => pure (.error failure)
      | none => Noted.error ("Invalid regex in " ++ place ++ ": " ++ pattern) (.ok false)
    | .ok node => pure (.ok ((values.filter (!·.isNull)).any fun v => node.foundIn v.display))

end Watchgate.Pattern
