import Watchgate.Criteria.Family

/-!
# Languages

The original language is compared without regard to case and to blanks around it. A blank text asks
for no language; entries that are no texts are passed over.
-/

namespace Watchgate.Criteria

namespace Language

def language? (item : Item) : Option Value :=
  item.metadata.bind fun m => if m.language.truthy then some m.language else none

/-- Whether a text asks for nothing. -/
def isBlank (s : String) : Bool := Text.isBlankText s

/-- Whether one of the values is a text that names the language. -/
def isAmong (current : String) (vs : List Value) : Bool :=
  vs.any fun v => v.text?.any fun s => current = normal (.text s)

def holds (language : Value) (operator : String) (v : Value) : Bool :=
  let current := normal language
  match operator, v with
  | "equals", .text s => !isBlank s && current = normal v
  | "notEquals", .text _ => current ≠ normal v
  | "contains", .text s => !isBlank s && Text.isInside (normal v) current
  | "in", _ => isAmong current v.toListOfOne
  | "notIn", _ => !isAmong current v.toListOfOne
  | _, _ => false

end Language

def language : Family where
  name := "Language Router"
  description := "Routes content based on original language"
  priority := 65
  ruleType := "language"
  fields := ["language", "originalLanguage"]
  criteriaKeys := ["originalLanguage", "language"]
  fieldInfos := [⟨"language", "Original language of the content", ["string", "string[]"]⟩]
  operators := [
    ⟨"equals", "Language matches exactly", ["string"], none⟩,
    ⟨"notEquals", "Language does not match", ["string"], none⟩,
    ⟨"contains", "Language name contains this text", ["string"], none⟩,
    ⟨"in", "Language is one of these values", ["string[]"],
      "Array of language names, e.g. [\"English\", \"Japanese\"]"⟩,
    ⟨"notIn", "Language is not any of these values", ["string[]"], none⟩]
  defaultOperator := membershipOrEquality
  hasData item _ := (Language.language? item).isSome
  holds operator v item _ := return (Language.language? item).any (Language.holds · operator v)

end Watchgate.Criteria
