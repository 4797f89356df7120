import Watchgate.Value.Basic

/-!
# Agreement and order of values

Two values *agree* when they mean the same: truth values count as the integers 0 and 1, a double
agrees with the integer it equals, lists agree item by item and mappings key by key, in any order.
Numbers, texts and lists are ordered among their own kind; other pairs have no order.
-/

namespace Watchgate

open Number (Binary64)

namespace Value

/-- The integer that a truth value or an integer stands for. -/
def wholeNumber? : Value → Option Int
  | .bool b => some (if b then 1 else 0)
  | .int n => some n
  | _ => none

/-- Order of two numbers of any kind: the outer option says whether both are numbers, the inner
one whether they can be ordered. -/
def compareNumbers? (a b : Value) : Option (Option Ordering) :=
  match a.wholeNumber?, b.wholeNumber?, a, b with
  | some m, some n, _, _ => some (some (compare m n))
  | some m, none, _, .real y => some ((y.compareInt? m).map Ordering.swap)
  | none, some n, .real x, _ => some (x.compareInt? n)
  | none, none, .real x, .real y => some (x.compare? y)
  | _, _, _, _ => none

mutual

/-- Whether two values mean the same. -/
def agrees : Value → Value → Bool
  | .null, .null => true
  | .text s, .text t => s = t
  | .list xs, .list ys => agreesList xs ys
  | .map xs, .map ys => xs.length = ys.length && agreesEntries xs ys
  | a, b => compareNumbers? a b = some (some .eq)

/-- Agreement item by item. -/
def agreesList : List Value → List Value → Bool
  | [], [] => true
  | x :: xs, y :: ys => agrees x y && agreesList xs ys
  | _, _ => false

/-- Whether each entry of the first mapping has a counterpart in the second. -/
def agreesEntries : Entries → Entries → Bool
  | [], _ => true
  | (k, x) :: xs, ys =>
    (match Entries.get? ys k with
      | some y => agrees x y
      | none => false) && agreesEntries xs ys

end

mutual

/-- Order of two values of one kind; none where the kinds have no common order. A pair of numbers
one of which is no number is ordered neither way, which `some none` says. -/
def order? : Value → Value → Option (Option Ordering)
  | .text s, .text t => some (some (compare s t))
  | .list xs, .list ys => orderList? xs ys
  | a, b => compareNumbers? a b

/-- Order by the first items that do not agree; a proper beginning comes first. -/
def orderList? : List Value → List Value → Option (Option Ordering)
  | [], [] => some (some .eq)
  | [], _ :: _ => some (some .lt)
  | _ :: _, [] => some (some .gt)
  | x :: xs, y :: ys => if agrees x y then orderList? xs ys else order? x y

end

/-- Whether the value may be a member of a set: lists and mappings may not. -/
def hashable : Value → Bool
  | .list _ => false
  | .map _ => false
  | _ => true

end Value

end Watchgate
