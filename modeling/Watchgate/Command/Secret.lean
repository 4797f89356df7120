/-!
# Tokens made at random

Random bytes as text: six bits to a character, out of letters, digits, hyphen and underscore, without
padding.
-/

namespace Watchgate.Command

/-- The characters of tokens, by value. -/
def secretChars : List Char :=
  "ABCDEFGHIJKLMNOPQRSTUVWXYZabcdefghijklmnopqrstuvwxyz0123456789-_".toList

/-- The character for six bits. -/
def secretChar (n : Nat) : Char := secretChars.getD (n % 64) 'A'

/-- The characters for bytes, three at a time. -/
def secretOf : List UInt8 → List Char
  | [] => []
  | [a] => [secretChar (a.toNat / 4), secretChar (a.toNat * 16)]
  | [a, b] =>
    [secretChar (a.toNat / 4), secretChar (a.toNat * 16 + b.toNat / 16), secretChar (b.toNat * 4)]
  | a :: b :: c :: rest =>
    secretChar (a.toNat / 4) :: secretChar (a.toNat * 16 + b.toNat / 16)
      :: secretChar (b.toNat * 4 + c.toNat / 64) :: secretChar c.toNat :: secretOf rest

/-- How many characters a number of bytes takes. -/
def secretLength (bytes : Nat) : Nat := (4 * bytes + 2) / 3

/-- Every byte takes four thirds of a character, rounded up. -/
theorem length_secretOf (bytes : List UInt8) : (secretOf bytes).length = secretLength bytes.length := by
  fun_induction secretOf bytes with
  | case1 => rfl
  | case2 => simp [secretLength]
  | case3 => simp [secretLength]
  | case4 a b c rest ih =>
    simp only [List.length_cons, ih, secretLength]
    omega

end Watchgate.Command
