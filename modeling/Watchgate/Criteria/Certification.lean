import Watchgate.Criteria.Family
import Watchgate.Pattern.Screen

/-!
# Certifications

The content rating is compared without regard to case and to blanks around it. Entries that are no
texts are passed over.
-/

namespace Watchgate.Criteria

namespace Certification

def certification? (item : Item) : Option Value :=
  item.metadata.bind fun m => if m.certification.truthy then some m.certification else none

/-- Whether one of the values is a text that names the rating. -/
def isAmong (current : String) (vs : List Value) : Bool :=
  vs.any fun v => v.text?.any fun s => current = normal (.text s)

def holds (rating : Value) (operator : String) (v : Value) : Judgement Bool :=
  let current := normal rating
  match operator, v with
  | "equals", .text _ => return current = normal v
  | "notEquals", .text _ => return current ≠ normal v
  | "contains", .text _ => return Text.isInside (normal v) current
  | "notContains", .text _ => return !Text.isInside (normal v) current
  | "in", _ => return isAmong current v.toListOfOne
  | "notIn", _ => return !isAmong current v.toListOfOne
  | "regex", .text pattern => Pattern.searchAny pattern [rating] "certification condition" true
  | _, _ => return false

end Certification

def certification : Family where
  name := "Certification Router"
  description := "Routes content based on content certification/rating"
  priority := 60
  ruleType := "certification"
  fields := ["certification"]
  criteriaKeys := ["certification"]
  fieldInfos := [⟨"certification", "Content rating/certification (e.g. PG-13, TV-MA)",
    ["string", "string[]"]⟩]
  operators := [
    ⟨"equals", "Certification matches exactly", ["string"], none⟩,
    ⟨"notEquals", "Certification does not match", ["string"], none⟩,
    ⟨"contains", "Certification contains this text", ["string"], none⟩,
    ⟨"notContains", "Certification does not contain this text", ["string"], none⟩,
    ⟨"in", "Certification is one of these values", ["string[]"],
      "Array of ratings, e.g. [\"R\", \"NC-17\"]"⟩,
    ⟨"notIn", "Certification is not any of these values", ["string[]"], none⟩,
    ⟨"regex", "Certification matches the regular expression", ["string"], none⟩]
  defaultOperator := membershipOrEquality
  hasData item _ := (Certification.certification? item).isSome
  holds operator v item _ :=
    match Certification.certification? item with
    | some rating => Certification.holds rating operator v
    | none => return false

end Watchgate.Criteria
