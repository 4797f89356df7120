import Watchgate.Criteria.Family
import Watchgate.Pattern.Screen

/-!
# Genres

Genres are compared without regard to case and to blanks around them. The items' genres form a set,
and so do the genres that a value asks for; entries of a value that are no texts ask for nothing.
-/

namespace Watchgate.Criteria

namespace Genre

/-- The genres of an item in normal form. -/
def present (item : Item) : List String :=
  (item.genres.filter Value.truthy).map normal

/-- The genres that a value asks for, in normal form. -/
def wanted (v : Value) : List String :=
  (v.toListOfOne.filter (·.text?.isSome)).map normal

/-- Whether two sets of genres meet. -/
def meet (a b : List String) : Bool := a.any b.contains

/-- Whether two lists hold the same genres. -/
def same (a b : List String) : Bool := a.all b.contains && b.all a.contains

def holds (operator : String) (v : Value) (item : Item) (_ : Context) : Judgement Bool :=
  let held := present item
  let want := wanted v
  if held.isEmpty then return false
  else match operator with
    | "contains" | "in" => return meet want held
    | "notContains" | "notIn" => return !want.isEmpty && !meet want held
    | "equals" => return !want.isEmpty && same want held
    | "regex" =>
      match v with
      | .text pattern => Pattern.searchAny pattern (held.map .text) "genre condition" false
      | _ => return false
    | _ => return false

end Genre

def genre : Family where
  name := "Genre Router"
  description := "Routes content based on genre matching rules"
  priority := 80
  ruleType := "genre"
  fields := ["genres", "genre"]
  criteriaKeys := ["genre", "genres"]
  fieldInfos := [⟨"genres", "Genre categories of the content", ["string", "string[]"]⟩]
  operators := [
    ⟨"contains", "Content genre list contains this genre", ["string"], none⟩,
    ⟨"in", "Content has at least one of these genres", ["string[]"],
      "Array of genre names, e.g. [\"Action\", \"Thriller\"]"⟩,
    ⟨"notContains", "Content genre list doesn't contain this genre", ["string"], none⟩,
    ⟨"notIn", "Content doesn't have any of these genres", ["string[]"],
      "Array of genre names, e.g. [\"Horror\", \"Comedy\"]"⟩,
    ⟨"equals", "Content genres exactly match the provided genres", ["string", "string[]"],
      "Single genre or array of all expected genres"⟩,
    ⟨"regex", "At least one genre matches the regular expression", ["string"], none⟩]
  defaultOperator := membershipOrEquality
  hasData item _ := !item.genres.isEmpty
  holds := Genre.holds

end Watchgate.Criteria
