/-!
# Days of the calendar

A day is counted from the first of January of year 1, which is day 1, up to the end of year 9999.
Distances and comparisons are those of the numbers; year, month and day of the month are read off
from the count.
-/

namespace Watchgate.Calendar

/-- A day, counted from day 1, the first of January of year 1. -/
structure Date where
  ordinal : Nat
deriving DecidableEq, Repr, Inhabited

/-- The last day of year 9999. -/
def lastOrdinal : Nat := 3652059

/-- Whether a year has a 29th of February. -/
def isLeap (year : Nat) : Bool :=
  year % 4 = 0 && (year % 100 ≠ 0 || year % 400 = 0)

/-- The number of the first of January. -/
def yearStart (year : Nat) : Nat :=
  let past := year - 1
  365 * past + past / 4 - past / 100 + past / 400 + 1

def monthLengths (year : Nat) : List Nat :=
  [31, if isLeap year then 29 else 28, 31, 30, 31, 30, 31, 31, 30, 31, 30, 31]

/-- The length of a month, counted from 1. -/
def monthLength (year month : Nat) : Nat :=
  (monthLengths year).getD (month - 1) 31

/-- Days of the year before the first of a month, counted from 1. -/
def daysBeforeMonth (year month : Nat) : Nat :=
  ((monthLengths year).take (month - 1)).foldl (· + ·) 0

/-- The year that a day belongs to: a guess from the mean length of a year, put right by one. -/
def yearOf (ordinal : Nat) : Nat :=
  let guess := (ordinal - 1) * 400 / 146097 + 1
  if ordinal < yearStart guess then guess - 1
  else if yearStart (guess + 1) ≤ ordinal then guess + 1
  else guess

/-- Month and day of the month of the day that is `rest` days into the remaining months, the first
of which is `month`. -/
def monthAndDay (month : Nat) : List Nat → Nat → Nat × Nat
  | [], rest => (month, rest + 1)
  | length :: lengths, rest =>
    if rest < length then (month, rest + 1) else monthAndDay (month + 1) lengths (rest - length)

namespace Date

def year (d : Date) : Nat := yearOf d.ordinal

def monthDay (d : Date) : Nat × Nat :=
  monthAndDay 1 (monthLengths d.year) (d.ordinal - yearStart d.year)

/-- The month, counted from 1. -/
def month (d : Date) : Nat := d.monthDay.1

/-- The day of the month, counted from 1. -/
def day (d : Date) : Nat := d.monthDay.2

/-- The day with this year, month and day of the month, if the calendar has it. -/
def ofCivil? (year month day : Nat) : Option Date :=
  if 1 ≤ year && year ≤ 9999 && 1 ≤ month && month ≤ 12 && 1 ≤ day
      && day ≤ monthLength year month then
    some ⟨yearStart year + daysBeforeMonth year month + day - 1⟩
  else none

/-- The day `n` days later, or earlier for a negative `n`; none outside the calendar. -/
def addDays? (d : Date) (n : Int) : Option Date :=
  let o := (d.ordinal : Int) + n
  if 1 ≤ o && o ≤ lastOrdinal then some ⟨o.toNat⟩ else none

def firstOfMonth (d : Date) : Date := ⟨d.ordinal - (d.day - 1)⟩

/-- The first day of the next month; none after December 9999. -/
def firstOfNextMonth? (d : Date) : Option Date :=
  d.firstOfMonth.addDays? (monthLength d.year d.month)

end Date

/-- A number with leading zeros up to `width` digits. -/
def padded (width n : Nat) : String :=
  let ds := Nat.toDigits 10 n
  String.ofList (List.replicate (width - ds.length) '0' ++ ds)

/-- Year, month and day with hyphens. -/
def Date.text (d : Date) : String :=
  padded 4 d.year ++ "-" ++ padded 2 d.month ++ "-" ++ padded 2 d.day

/-- The number that decimal digits write, if all characters are digits and there are `width`. -/
def fixedNumber? (width : Nat) (cs : List Char) : Option Nat :=
  if cs.length = width && cs.all Char.isDigit then
    some (cs.foldl (fun n c => 10 * n + (c.toNat - 48)) 0)
  else none

/-- Reads year, month and day with hyphens. -/
def Date.ofChars? (cs : List Char) : Option Date := do
  let y ← fixedNumber? 4 (cs.take 4)
  let m ← fixedNumber? 2 ((cs.drop 5).take 2)
  let d ← fixedNumber? 2 (cs.drop 8)
  if cs[4]? = some '-' && cs[7]? = some '-' then Date.ofCivil? y m d else none

/-- Reads year, month and day with hyphens. -/
def Date.ofText? (s : String) : Option Date := Date.ofChars? s.toList

end Watchgate.Calendar
