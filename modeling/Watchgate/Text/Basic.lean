/-!
# Texts and sets of characters

Parts of texts, and white space of all scripts with trimming: a trimmed text neither starts nor ends with
a blank.

A set of code points is written as the increasing list of the points where membership changes: the
set starts outside, and each boundary switches it. A code point belongs to the set exactly when an
odd number of boundaries are at or below it.
-/

namespace Watchgate.Text

/-- Whether `part` stands somewhere in a list of characters. -/
def isInsideChars (part : List Char) : List Char → Bool
  | [] => part.isEmpty
  | c :: cs => part.isPrefixOf (c :: cs) || isInsideChars part cs

/-- Whether `part` stands somewhere in `whole`. -/
def isInside (part whole : String) : Bool :=
  isInsideChars part.toList whole.toList

/-- White space: the separators of Unicode and the control characters that act as such. -/
def isBlank (c : Char) : Bool :=
  let n := c.toNat
  (9 ≤ n && n ≤ 13) || (28 ≤ n && n ≤ 32) || n = 133 || n = 160 || n = 5760
    || (8192 ≤ n && n ≤ 8202) || n = 8232 || n = 8233 || n = 8239 || n = 8287 || n = 12288

def dropBlankEnd (cs : List Char) : List Char :=
  (cs.reverse.dropWhile isBlank).reverse

/-- The characters without the blanks at both ends. -/
def trimChars (cs : List Char) : List Char :=
  dropBlankEnd (cs.dropWhile isBlank)

/-- The text without the blanks at both ends. -/
def trim (s : String) : String :=
  String.ofList (trimChars s.toList)

def isBlankText (s : String) : Bool :=
  s.toList.all isBlank

@[simp] theorem trimChars_nil : trimChars [] = [] := rfl

/-- A set of code points, given by the points at which membership changes. -/
structure Boundaries where
  /-- The switching points, in increasing order. -/
  points : List Nat

/-- Membership by the parity of the boundaries at or below `c`. -/
def Boundaries.contains (s : Boundaries) (c : Nat) : Bool :=
  s.points.foldl (fun inside p => if p ≤ c then !inside else inside) false

@[simp] theorem Boundaries.contains_empty (c : Nat) : Boundaries.contains ⟨[]⟩ c = false := rfl

end Watchgate.Text
