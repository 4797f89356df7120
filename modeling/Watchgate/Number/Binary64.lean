/-!
# Double precision numbers, exactly

A double is a signed mantissa times a power of two, an infinity, or no number at all. Reading a
decimal takes the nearest double and, between two that are equally near, the one with the even
mantissa. Comparison and truncation are exact.
-/

namespace Watchgate.Number

/-- `mantissa * 2 ^ exponent`, without rounding. -/
structure Dyadic where
  /-- The signed mantissa. -/
  mantissa : Int
  exponent : Int
deriving DecidableEq, Repr

/-- Exact comparison: both mantissas are brought to the smaller exponent. -/
def Dyadic.compare (a b : Dyadic) : Ordering :=
  let e := min a.exponent b.exponent
  Ord.compare (a.mantissa * Nat.pow 2 (a.exponent - e).toNat)
    (b.mantissa * Nat.pow 2 (b.exponent - e).toNat)

/-- A double precision number. A finite one has a mantissa below `2 ^ 53` and an exponent from
`-1074` to `971`; the mantissa is at least `2 ^ 52` unless the exponent is `-1074`. -/
inductive Binary64 where
  /-- The number `mantissa * 2 ^ exponent` with its sign; zero has a sign too. -/
  | finite (negative : Bool) (mantissa : Nat) (exponent : Int)
  | infinite (negative : Bool)
  /-- The result of an operation without a value. -/
  | notANumber
deriving DecidableEq, Repr, Inhabited

namespace Binary64

/-- The quotient of `num` by `den`, to the nearest integer, a half to the even one. -/
def divideToEven (num den : Nat) : Nat :=
  let q := num / den
  let r := num % den
  if 2 * r < den then q
  else if den < 2 * r then q + 1
  else if q % 2 = 0 then q else q + 1

/-- The double of a mantissa that may have reached `2 ^ 53` by rounding. -/
def normalise (negative : Bool) (m : Nat) (e : Int) : Binary64 :=
  let (m, e) := if m = Nat.pow 2 53 then (Nat.pow 2 52, e + 1) else (m, e)
  if 971 < e then .infinite negative else .finite negative m e

/-- The double nearest to `num / den`. -/
def ofRatio (negative : Bool) (num den : Nat) : Binary64 :=
  if num = 0 then .finite negative 0 (-1074)
  else
    let guess : Int := (num.log2 : Int) - den.log2 - 52
    let quotientAt (e : Int) : Nat × Nat :=
      if 0 ≤ e then (num, den * Nat.pow 2 e.toNat) else (num * Nat.pow 2 (-e).toNat, den)
    let floorAt (e : Int) : Nat := let (n, d) := quotientAt e; n / d
    let e := if floorAt guess < Nat.pow 2 52 then guess - 1 else guess
    let e := max e (-1074)
    let (n, d) := quotientAt e
    normalise negative (divideToEven n d) e

/-- The double nearest to `digits * 10 ^ scale`. -/
def ofDecimal (negative : Bool) (digits : Nat) (scale : Int) : Binary64 :=
  if digits = 0 then .finite negative 0 (-1074)
  else if 400 < scale then .infinite negative
  else if scale + (digits.log2 : Int) < -1200 then .finite negative 0 (-1074)
  else if 0 ≤ scale then ofRatio negative (digits * Nat.pow 10 scale.toNat) 1
  else ofRatio negative digits (Nat.pow 10 (-scale).toNat)

/-- Whether the number is a zero of either sign. -/
def isZero : Binary64 → Bool
  | .finite _ 0 _ => true
  | _ => false

/-- The exact value of a finite number. -/
def dyadic? : Binary64 → Option Dyadic
  | .finite negative m e => some ⟨if negative then -(m : Int) else m, e⟩
  | _ => none

/-- The integer part, toward zero, of a finite number. -/
def truncate? (x : Binary64) : Option Int :=
  x.dyadic?.map fun d =>
    if 0 ≤ d.exponent then d.mantissa * Nat.pow 2 d.exponent.toNat
    else Int.tdiv d.mantissa (Nat.pow 2 (-d.exponent).toNat)

def integer? (x : Binary64) : Option Int :=
  x.truncate?.bind fun n =>
    if x.dyadic?.any fun d => d.compare ⟨n, 0⟩ = .eq then some n else none

/-- Order of two numbers; none if either is no number. -/
def compare? : Binary64 → Binary64 → Option Ordering
  | .notANumber, _ => none
  | _, .notANumber => none
  | .infinite a, .infinite b => some (if a = b then .eq else if a then .lt else .gt)
  | .infinite a, .finite .. => some (if a then .lt else .gt)
  | .finite .., .infinite b => some (if b then .gt else .lt)
  | .finite s m e, .finite t n f =>
    some (Dyadic.compare ⟨if s then -(m : Int) else m, e⟩ ⟨if t then -(n : Int) else n, f⟩)

/-- Order of a number and an integer; none if the first is no number. -/
def compareInt? (x : Binary64) (n : Int) : Option Ordering :=
  match x with
  | .notANumber => none
  | .infinite negative => some (if negative then .lt else .gt)
  | .finite s m e => some (Dyadic.compare ⟨if s then -(m : Int) else m, e⟩ ⟨n, 0⟩)

end Binary64

end Watchgate.Number
