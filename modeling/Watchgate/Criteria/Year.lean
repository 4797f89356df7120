import Watchgate.Criteria.Family
import Watchgate.Criteria.Range

/-!
# Years

The year of release is compared with a number, a list of numbers, or a range. A list that holds
anything but integers, and a range with a bound that is none, hold for no year.
-/

namespace Watchgate.Criteria

namespace Year

def year? (item : Item) : Option Int :=
  item.metadata.bind (·.year.int?)

def compare (year : Int) (operator : String) (n : Int) : Bool :=
  match operator with
  | "equals" => year = n
  | "notEquals" => year ≠ n
  | "greaterThan" => n < year
  | "lessThan" => year < n
  | _ => false

def holds (year : Int) (operator : String) (v : Value) : Bool :=
  match v with
  | .int n => compare year operator n
  | .list items =>
    match integers? items, operator with
    | some ns, "in" => ns.contains year
    | some ns, "notIn" => !ns.contains year
    | _, _ => false
  | .map entries =>
    operator = "between" && (Range.ofEntries? entries).any (·.contains year)
  | _ => false

end Year

def year : Family where
  name := "Year Router"
  description := "Routes content based on release year"
  priority := 70
  ruleType := "year"
  fields := ["year"]
  criteriaKeys := ["year"]
  fieldInfos := [⟨"year", "Release year of the content", ["number", "number[]", "object"]⟩]
  operators := [
    ⟨"equals", "Year matches exactly", ["number"], none⟩,
    ⟨"notEquals", "Year does not match", ["number"], none⟩,
    ⟨"greaterThan", "Year is after this value", ["number"], none⟩,
    ⟨"lessThan", "Year is before this value", ["number"], none⟩,
    ⟨"in", "Year is one of these values", ["number[]"], "Array of years, e.g. [1999, 2000]"⟩,
    ⟨"notIn", "Year is not any of these values", ["number[]"], "Array of years"⟩,
    ⟨"between", "Year is within a range (inclusive)", ["object"],
      "\x7b \"min\": 1990, \"max\": 1999 \x7d (either bound may be omitted)"⟩]
  defaultOperator := rangeOrMembership
  hasData item _ := (Year.year? item).isSome
  holds operator v item _ := return (Year.year? item).any (Year.holds · operator v)

end Watchgate.Criteria
