import Watchgate.Number.Shortest

/-!
# Doubles with a given number of digits

A double written with so many places behind the point, or with so many digits and an exponent. What is
cut off is rounded to the nearest, a half to the even neighbour.
-/

namespace Watchgate.Number

/-- `m * 2 ^ e` in units of `10 ^ p`, to the nearest integer. -/
def inUnits (m : Nat) (e p : Int) : Nat :=
  Binary64.divideToEven (m * Nat.pow 2 e.toNat * Nat.pow 10 (-p).toNat)
    (Nat.pow 10 p.toNat * Nat.pow 2 (-e).toNat)

/-- The digits of a number, with zeros in front where there are fewer than `width`. -/
def digitsOfWidth (width n : Nat) : List Char :=
  let ds := digitChars n
  List.replicate (width - ds.length) '0' ++ ds

/-- Two runs of digits with a point between them; without a second run the point is kept on demand. -/
def pointed (keepsPoint : Bool) (whole fraction : List Char) : List Char :=
  if fraction.isEmpty && !keepsPoint then whole else whole ++ '.' :: fraction

/-- With `places` digits behind the point: the digits before and behind it. -/
def fixedDigits (m : Nat) (e : Int) (places : Nat) : List Char × List Char :=
  let ds := digitsOfWidth (places + 1) (inUnits m e (-places))
  (ds.take (ds.length - places), ds.drop (ds.length - places))

/-- With one digit before the point and `places` behind it: all of them, and the power of ten. -/
def scientificDigits (m : Nat) (e : Int) (places : Nat) : List Char × Int :=
  if m = 0 then (List.replicate (places + 1) '0', 0)
  else
    let k := magnitude m e
    let n := inUnits m e (k - places)
    if n = Nat.pow 10 (places + 1) then (digitChars (n / 10), k + 1) else (digitChars n, k)

/-- How a number is written. -/
inductive Layout where
  | fixed
  | scientific
  /-- Whichever suits its size, without zeros at the end. -/
  | general
deriving DecidableEq, Repr

/-- `m * 2 ^ e` without a sign. `keepsPoint` also keeps zeros at the end. -/
def roundedChars (layout : Layout) (keepsPoint : Bool) (precision m : Nat) (e : Int) : List Char :=
  match layout with
  | .fixed =>
    let (whole, fraction) := fixedDigits m e precision
    pointed keepsPoint whole fraction
  | .scientific =>
    let (ds, k) := scientificDigits m e precision
    pointed keepsPoint (ds.take 1) (ds.drop 1) ++ 'e' :: exponentText k
  | .general =>
    let digits := max 1 precision
    let (ds, k) := scientificDigits m e (digits - 1)
    let kept (cs : List Char) := if keepsPoint then cs else dropTrailingZeros cs
    if -4 ≤ k && k < digits then
      let (whole, fraction) := fixedDigits m e (digits - 1 - k).toNat
      pointed keepsPoint whole (kept fraction)
    else pointed keepsPoint (ds.take 1) (kept (ds.drop 1)) ++ 'e' :: exponentText k

end Watchgate.Number
