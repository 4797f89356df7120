import Watchgate.Number.Binary64

/-!
# The shortest decimal of a double

Among the decimals that read back as the same double, the shortest has the fewest digits, and of
those the one nearest to the double. Numbers from `10⁻⁴` up to `10¹⁶` are written positionally and
keep one digit after the point; all others are written with an exponent of at least two digits.
-/

namespace Watchgate.Number

/-- A positive decimal `digits * 10 ^ scale`. -/
structure Decimal where
  /-- The digits as one number. -/
  digits : Nat
  scale : Int
deriving DecidableEq, Repr

/-- `a * 10 ^ p ≤ b * 2 ^ q` without fractions. -/
def scaledLe (a : Nat) (p : Int) (b : Nat) (q : Int) : Bool :=
  a * Nat.pow 10 p.toNat * Nat.pow 2 (-q).toNat ≤ b * Nat.pow 2 q.toNat * Nat.pow 10 (-p).toNat

/-- `a * 10 ^ p < b * 2 ^ q` without fractions. -/
def scaledLt (a : Nat) (p : Int) (b : Nat) (q : Int) : Bool :=
  a * Nat.pow 10 p.toNat * Nat.pow 2 (-q).toNat < b * Nat.pow 2 q.toNat * Nat.pow 10 (-p).toNat

/-- The largest power of ten that is not above `m * 2 ^ e`, from a guess that is at most one off. -/
def magnitude (m : Nat) (e : Int) : Int :=
  let guess := ((m.log2 : Int) + e) * 30103 / 100000
  if scaledLe 1 (guess + 1) m e then guess + 1
  else if scaledLe 1 guess m e then guess
  else guess - 1

/-- Whether `d * 10 ^ p` reads back as the double `m * 2 ^ e`: it lies between the two midpoints to
the neighbours, which belong to the range when the mantissa is even. The gap below a power of two
is half as wide. -/
def readsBack (m : Nat) (e : Int) (d : Nat) (p : Int) : Bool :=
  let narrow := m = Nat.pow 2 52 && e ≠ -1074
  let low := if narrow then 4 * m - 1 else 4 * m - 2
  let high := 4 * m + 2
  if m % 2 = 0 then !scaledLt d p low (e - 2) && scaledLe d p high (e - 2)
  else !scaledLe d p low (e - 2) && scaledLt d p high (e - 2)

/-- The decimal of `count` digits nearest to `m * 2 ^ e` among those that read back. -/
def nearestOf? (m : Nat) (e : Int) (count : Nat) : Option Decimal :=
  let p := magnitude m e - (count : Int) + 1
  let below := (m * Nat.pow 2 e.toNat * Nat.pow 10 (-p).toNat)
    / (Nat.pow 10 p.toNat * Nat.pow 2 (-e).toNat)
  let candidates := [below, below + 1].filter fun d => readsBack m e d p
  match candidates with
  | [] => none
  | [d] => some ⟨d, p⟩
  | d :: _ =>
    -- the middle of the two neighbours decides
    let half := 2 * d + 1
    some (if scaledLt half p (2 * m) e then ⟨d + 1, p⟩
      else if scaledLe half p (2 * m) e && d % 2 = 1 then ⟨d + 1, p⟩ else ⟨d, p⟩)

/-- The shortest decimal of a positive double. Seventeen digits always suffice. -/
def shortest (m : Nat) (e : Int) : Decimal :=
  ((List.range 17).findSome? fun k => nearestOf? m e (k + 1)).getD ⟨m, 0⟩

/-- The decimal digits of a number, most significant first. -/
def digitChars (n : Nat) : List Char := Nat.toDigits 10 n

/-- The digits without zeros at the end. -/
def dropTrailingZeros (ds : List Char) : List Char :=
  (ds.reverse.dropWhile (· = '0')).reverse

/-- An exponent with its sign and at least two digits. -/
def exponentText (e : Int) : List Char :=
  let ds := digitChars e.natAbs
  (if e < 0 then '-' else '+') :: (if ds.length < 2 then '0' :: ds else ds)

/-- The text of a positive decimal. -/
def Decimal.chars (d : Decimal) : List Char :=
  let ds := digitChars d.digits
  -- position of the point, counted from the first digit
  let point : Int := (ds.length : Int) + d.scale
  let ds := dropTrailingZeros ds
  if point < -3 || 16 < point then
    let rest := ds.drop 1
    ds.take 1 ++ (if rest.isEmpty then [] else '.' :: rest) ++ 'e' :: exponentText (point - 1)
  else if point ≤ 0 then
    ['0', '.'] ++ List.replicate (-point).toNat '0' ++ ds
  else
    let whole := ds.take point.toNat
    let whole := whole ++ List.replicate (point.toNat - whole.length) '0'
    let rest := ds.drop point.toNat
    whole ++ '.' :: (if rest.isEmpty then ['0'] else rest)

/-- The shortest text that reads back as the number. -/
def Binary64.text : Binary64 → String
  | .notANumber => "nan"
  | .infinite negative => if negative then "-inf" else "inf"
  | .finite negative m e =>
    let body := if m = 0 then ['0', '.', '0'] else (shortest m e).chars
    String.ofList (if negative then '-' :: body else body)

end Watchgate.Number
