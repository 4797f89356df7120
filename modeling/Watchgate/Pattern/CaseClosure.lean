import Watchgate.Pattern.Syntax
import Watchgate.Text.CaseMap

/-!
# Characters that differ in case only

When case does not matter, a character of the text is first put in lower case, one code point for
one. A few lower case characters still count as the same, such as the two forms of sigma; they are
listed with each other.
-/

namespace Watchgate.Pattern

open Text

/-- Lower case characters that count as the same as others. -/
def caseFellows : List (Nat × List Nat) :=
  [(105, [305]), (115, [383]), (181, [956]), (305, [105]), (383, [115]), (837, [953, 8126]),
   (912, [8147]), (944, [8163]), (946, [976]), (949, [1013]), (952, [977]), (953, [837, 8126]),
   (954, [1008]), (956, [181]), (960, [982]), (961, [1009]), (962, [963]), (963, [962]),
   (966, [981]), (976, [946]), (977, [952]), (981, [966]), (982, [960]), (1008, [954]),
   (1009, [961]), (1013, [949]), (1074, [7296]), (1076, [7297]), (1086, [7298]), (1089, [7299]),
   (1090, [7300, 7301]), (1098, [7302]), (1123, [7303]), (7296, [1074]), (7297, [1076]),
   (7298, [1086]), (7299, [1089]), (7300, [1090, 7301]), (7301, [1090, 7300]), (7302, [1098]),
   (7303, [1123]), (7304, [42571]), (7777, [7835]), (7835, [7777]), (8126, [837, 953]),
   (8147, [912]), (8163, [944]), (42571, [7304]), (64261, [64262]), (64262, [64261])]

def lowerCode (n : Nat) : Nat :=
  if n = 0x130 then 0x69
  else match lowerTable.runs.find? (·.holds n) with
    | some r => ((n : Int) + r.shift).toNat
    | none => n

/-- The lower case of a code point under a rule. -/
def CaseRule.lower (n : Nat) : CaseRule → Nat
  | .exact => n
  | .ascii => if 65 ≤ n && n ≤ 90 then n + 32 else n
  | .full => lowerCode n

/-- A lower case code point and those that count as the same under a rule. -/
def CaseRule.fellows (n : Nat) : CaseRule → List Nat
  | .full => n :: ((caseFellows.find? (·.1 = n)).map (·.2)).getD []
  | _ => [n]

/-- The code points whose lower case is `n`. -/
def lowerSources (n : Nat) : List Nat :=
  (if lowerCode n = n then [n] else []) ++ (if n = 0x69 then [0x130] else []) ++
    lowerTable.runs.filterMap fun r =>
      let source := ((n : Int) - r.shift).toNat
      if r.holds source && lowerCode source = n then some source else none

/-- The code points whose lower case under a rule is `n`. -/
def CaseRule.sources (n : Nat) : CaseRule → List Nat
  | .exact => [n]
  | .ascii => if 65 ≤ n && n ≤ 90 then [] else if 97 ≤ n && n ≤ 122 then [n, n - 32] else [n]
  | .full => lowerSources n

end Watchgate.Pattern
