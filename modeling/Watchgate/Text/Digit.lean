import Watchgate.Text.Basic

/-!
# Digits of all scripts

Two classes are told apart. A *decimal* character has a value from 0 to 9 and can stand in a
written number. The wider class of *digits* also holds superscripts, subscripts and enclosed
digits, which look like digits but are not read as part of a number (Unicode 14).
-/

namespace Watchgate.Text

/-- Code points of the zeros; the nine code points after each are its script's other decimals. -/
def decimalZeros : List Nat :=
  [
    48, 1632, 1776, 1984, 2406, 2534, 2662, 2790, 2918, 3046, 3174, 3302, 3430, 3558, 3664, 3792,
    3872, 4160, 4240, 6112, 6160, 6470, 6608, 6784, 6800, 6992, 7088, 7232, 7248, 42528, 43216,
    43264, 43472, 43504, 43600, 44016, 65296, 66720, 68912, 69734, 69872, 69942, 70096, 70384,
    70736, 70864, 71248, 71360, 71472, 71904, 72016, 72784, 73040, 73120, 92768, 92864, 93008,
    120782, 120792, 120802, 120812, 120822, 123200, 123632, 125264, 130032
  ]

/-- Digits that are not decimals: superscripts, subscripts, enclosed and Kharosthi digits. -/
def otherDigits : Boundaries :=
  ⟨[
    178, 180, 185, 186, 4969, 4978, 6618, 6619, 8304, 8305, 8308, 8314, 8320, 8330, 9312, 9321,
    9332, 9341, 9352, 9361, 9450, 9451, 9461, 9470, 9471, 9472, 10102, 10111, 10112, 10121, 10122,
    10131, 68160, 68164, 69216, 69225, 69714, 69723, 127232, 127243
  ]⟩

def decimalValue? (c : Char) : Option Nat :=
  if c.isDigit then some (c.toNat - 48)
  else if c.toNat < 128 then none
  else (decimalZeros.find? fun z => z ≤ c.toNat && c.toNat ≤ z + 9).map (c.toNat - ·)

def isDecimal (c : Char) : Bool :=
  (decimalValue? c).isSome

/-- A digit in the wide sense. -/
def isDigitLike (c : Char) : Bool :=
  isDecimal c || otherDigits.contains c.toNat

/-- A text that is not empty and holds digits only. -/
def allDigits (s : String) : Bool :=
  !s.isEmpty && s.toList.all isDigitLike

end Watchgate.Text
