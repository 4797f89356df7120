import Watchgate.Criteria.Family
import Watchgate.Criteria.Range

/-!
# Seasons

The season numbers of a show are compared with a number, a list of numbers, or a range. A
comparison holds when some season satisfies it; `notEquals` and `notIn` hold when no season is
excluded. A range holds when it overlaps the span from the lowest season to the highest. A range
without bounds holds for no show.
-/

namespace Watchgate.Criteria

namespace Season

def numbers (item : Item) : List Int :=
  (item.metadata.map Metadata.seasons).getD []

/-- The lowest of some numbers, the first of which is `n`. -/
def lowest (n : Int) (ns : List Int) : Int := ns.foldl min n

/-- The highest of some numbers, the first of which is `n`. -/
def highest (n : Int) (ns : List Int) : Int := ns.foldl max n

/-- Whether a range overlaps the span of some numbers, the first of which is `n`. -/
def overlaps (r : Range) (n : Int) (ns : List Int) : Bool :=
  !r.isOpen && r.admits (lowest n ns) && r.reaches (highest n ns)

def compare (seasons : List Int) (operator : String) (n : Int) : Bool :=
  match operator with
  | "equals" => seasons.contains n
  | "notEquals" => !seasons.contains n
  | "greaterThan" => seasons.any (n < ·)
  | "lessThan" => seasons.any (· < n)
  | _ => false

def holds (seasons : List Int) (operator : String) (v : Value) : Bool :=
  match seasons with
  | [] => false
  | s :: rest =>
    match v with
    | .int n => compare seasons operator n
    | .list items =>
      match integers? items, operator with
      | some ns, "in" => seasons.any ns.contains
      | some ns, "notIn" => !seasons.any ns.contains
      | _, _ => false
    | .map entries =>
      operator = "between" && (Range.ofEntries? entries).any (overlaps · s rest)
    | _ => false

def isShow (context : Context) : Bool := context.contentType.isOneOf ["show"]

end Season

def season : Family where
  name := "Season Router"
  description := "Routes TV shows based on season numbers"
  priority := 68
  ruleType := "season"
  fields := ["season"]
  criteriaKeys := ["season"]
  fieldInfos := [⟨"season", "Season number(s) of TV show", ["number", "number[]", "object"]⟩]
  operators := [
    ⟨"equals", "Season number matches exactly", ["number"], none⟩,
    ⟨"notEquals", "Season number does not match", ["number"], none⟩,
    ⟨"greaterThan", "Season number is greater than value", ["number"], none⟩,
    ⟨"lessThan", "Season number is less than value", ["number"], none⟩,
    ⟨"in", "Season is one of the provided values", ["number[]"],
      "Array of season numbers, e.g. [1, 2, 3]"⟩,
    ⟨"notIn", "Season is not any of the provided values", ["number[]"],
      "Array of season numbers, e.g. [1, 2, 3]"⟩,
    ⟨"between", "Season is within a range (inclusive)", ["object"],
      "\x7b \"min\": 1, \"max\": 5 \x7d (either bound may be omitted)"⟩]
  defaultOperator := rangeOrMembership
  hasData item context := Season.isShow context && !(Season.numbers item).isEmpty
  holds operator v item context :=
    return Season.isShow context && Season.holds (Season.numbers item) operator v

end Watchgate.Criteria
