import Watchgate.Text.Basic
import Watchgate.Text.Digit

/-!
# Integers as people write them

A written integer may have blanks around it, a sign in front, decimals of any script, and single
underscores between digits. More than 4300 digits are refused.
-/

namespace Watchgate.Number

open Watchgate.Text

/-- How an integer text is refused. -/
inductive IntegerFault where
  | malformed
  /-- The text has this many digits, more than are read. -/
  | tooLong (digits : Nat)
deriving DecidableEq, Repr

def maxDigits : Nat := 4300

/-- The values of the digits of `cs`, with single underscores only between digits. `afterDigit`
says that a digit was just read. -/
def digitValues? (afterDigit : Bool) : List Char → Option (List Nat)
  | [] => if afterDigit then some [] else none
  | c :: cs =>
    match decimalValue? c with
    | some d => (digitValues? true cs).map (d :: ·)
    | none => if c = '_' && afterDigit then digitValues? false cs else none

def ofDigitValues (ds : List Nat) : Nat :=
  ds.foldl (fun n d => 10 * n + d) 0

/-- Reads digits without sign or blanks. -/
def readDigits (cs : List Char) : Except IntegerFault Nat :=
  match digitValues? false cs with
  | none => .error .malformed
  | some ds => if maxDigits < ds.length then .error (.tooLong ds.length) else .ok (ofDigitValues ds)

def readInteger (s : String) : Except IntegerFault Int :=
  match trimChars s.toList with
  | '-' :: cs => (readDigits cs).map fun n => -(n : Int)
  | '+' :: cs => (readDigits cs).map fun n => (n : Int)
  | cs => (readDigits cs).map fun n => (n : Int)

def integerText (n : Int) : String :=
  match n with
  | .ofNat k => String.ofList (Nat.toDigits 10 k)
  | .negSucc k => String.ofList ('-' :: Nat.toDigits 10 (k + 1))

end Watchgate.Number
