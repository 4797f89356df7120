import Watchgate.Value.Basic

/-!
# Numbers, lists of numbers and ranges

What a numeric field can be compared with: a number, a list of numbers, or a range either bound of
which may be missing.
-/

namespace Watchgate.Criteria

/-- A range of integers; a missing bound does not restrict. -/
structure Range where
  low : Option Int
  high : Option Int
deriving DecidableEq, Repr

namespace Range

/-- A bound: nothing or an integer. -/
def bound? : Value → Option (Option Int)
  | .null => some none
  | .int n => some (some n)
  | _ => none

/-- The range of a mapping with `min` and `max`; none if a bound is no integer. -/
def ofEntries? (entries : Entries) : Option Range := do
  let low ← bound? (Entries.get entries "min")
  let high ← bound? (Entries.get entries "max")
  return ⟨low, high⟩

def isOpen (r : Range) : Bool := r.low.isNone && r.high.isNone

/-- Whether a number is not below the range. -/
def reaches (r : Range) (n : Int) : Bool := r.low.all (· ≤ n)

/-- Whether a number is not above the range. -/
def admits (r : Range) (n : Int) : Bool := r.high.all (n ≤ ·)

/-- Whether a number lies in the range. -/
def contains (r : Range) (n : Int) : Bool := r.reaches n && r.admits n

end Range

/-- The integers of a list; none if it holds anything else. -/
def integers? (items : List Value) : Option (List Int) :=
  items.mapM Value.int?

end Watchgate.Criteria
