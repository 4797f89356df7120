import Watchgate.Calendar.Date
import Watchgate.Value.Basic

/-!
# Points in time

A moment is a day and a time of that day, counted in microseconds from the start of the calendar.
No time zone is attached: all moments are of one clock.
-/

namespace Watchgate.Calendar

def microsPerHour : Nat := 3600000000

def microsPerDay : Nat := 86400000000

/-- A point in time, as microseconds since midnight at the start of day 0. -/
structure Moment where
  micros : Nat
deriving DecidableEq, Repr, Inhabited

namespace Moment

def date (t : Moment) : Date := ⟨t.micros / microsPerDay⟩

def ofDate (d : Date) : Moment := ⟨d.ordinal * microsPerDay⟩

/-- The moment a number of microseconds later; none outside the calendar. -/
def addMicros? (t : Moment) (n : Int) : Option Moment :=
  let m := (t.micros : Int) + n
  if (microsPerDay : Int) ≤ m && m < ((lastOrdinal + 1) * microsPerDay : Nat) then some ⟨m.toNat⟩
  else none

/-- The moment a number of hours later; none outside the calendar. -/
def addHours? (t : Moment) (n : Int) : Option Moment := t.addMicros? (n * microsPerHour)

/-- The moment a number of days later; none outside the calendar. -/
def addDays? (t : Moment) (n : Int) : Option Moment := t.addMicros? (n * microsPerDay)

/-- Date and time of day, with microseconds where they are not zero. -/
def text (t : Moment) : String :=
  let rest := t.micros % microsPerDay
  let seconds := rest / 1000000
  let fraction := rest % 1000000
  t.date.text ++ "T" ++ padded 2 (seconds / 3600) ++ ":" ++ padded 2 (seconds / 60 % 60) ++ ":"
    ++ padded 2 (seconds % 60) ++ (if fraction = 0 then "" else "." ++ padded 6 fraction)

/-- A moment as a value, null when there is none. -/
def valueOf (t : Option Moment) : Value :=
  (t.map fun t => .text t.text).getD .null

/-- The microseconds of a decimal fraction of a second; digits beyond the sixth are dropped. -/
def fractionMicros? (cs : List Char) : Option Nat :=
  if cs.isEmpty then none
  else fixedNumber? 6 ((cs ++ List.replicate (6 - cs.length) '0').take 6)

/-- Reads a time of day: hours and minutes, seconds if given, and a fraction if given. -/
def timeMicros? (cs : List Char) : Option Nat := do
  let h ← fixedNumber? 2 (cs.take 2)
  let m ← fixedNumber? 2 ((cs.drop 3).take 2)
  let rest := cs.drop 5
  let (s, fraction) ← match rest with
    | [] => some (0, 0)
    | ':' :: more => do
      let s ← fixedNumber? 2 (more.take 2)
      match more.drop 2 with
      | [] => some (s, 0)
      | '.' :: ds => (fractionMicros? ds).map (s, ·)
      | _ => none
    | _ => none
  if cs[2]? = some ':' && h < 24 && m < 60 && s < 60 then
    some (((h * 60 + m) * 60 + s) * 1000000 + fraction)
  else none

/-- Reads a date, alone or with a time of day after a letter or blank. -/
def ofText? (s : String) : Option Moment := do
  let cs := s.toList
  let d ← Date.ofChars? (cs.take 10)
  let time ← if cs.length ≤ 10 then some 0 else timeMicros? (cs.drop 11)
  return ⟨(ofDate d).micros + time⟩

end Moment

end Watchgate.Calendar
