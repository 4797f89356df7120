import Watchgate.Criteria.Family
import Watchgate.Pattern.Screen

/-!
# Users

The users that a submission is attributed to are compared, by id or by name, with candidates: a
single one, a list, or a mapping of ids and names. Names are compared without regard to case and to
blanks around them, and a text of digits names an id as well.
-/

namespace Watchgate.Criteria

namespace User

def candidates : Value → List Value
  | .map entries =>
    (Entries.get entries "ids").toListOfOne ++ (Entries.get entries "names").toListOfOne
  | v => v.toListOfOne

/-- Whether a text names one of the ids. Digits that cannot stand in a number make it fail. -/
def namesId (ids : List Int) (text : String) : Except Failure Bool :=
  if Text.allDigits text then (Value.integerOfText text).map ids.contains else .ok false

/-- Whether a candidate is one of the users. Truth values and nothing are nobody. -/
def isUser (ids : List Int) (names : List String) : Value → Except Failure Bool
  | .null => .ok false
  | .bool _ => .ok false
  | .int n => .ok (ids.contains n)
  | v => do
    let text := Text.trim v.display
    if ← namesId ids text then return true
    return names.contains (normal (.text text))

def anyUser (ids : List Int) (names : List String) : List Value → Except Failure Bool
  | [] => .ok false
  | v :: vs => do
    if ← isUser ids names v then return true
    anyUser ids names vs

/-- Whether one of the candidates is a user of the context. -/
def isAmong (context : Context) (vs : List Value) : Except Failure Bool :=
  anyUser context.userIds (context.userNames.map normal) vs

def isKnown (context : Context) : Bool :=
  !context.userIds.isEmpty || !context.userNames.isEmpty

def holds (operator : String) (v : Value) (_ : Item) (context : Context) : Judgement Bool :=
  if !isKnown context then return false
  else match operator with
    | "regex" =>
      match v with
      | .text pattern =>
        if context.userNames.isEmpty then return false
        else Pattern.searchAny pattern context.userNames "user condition" false
      | _ => return false
    | "equals" | "in" => ofResult (isAmong context (candidates v))
    | "notEquals" | "notIn" =>
      if (candidates v).isEmpty then return false
      else ofResult ((isAmong context (candidates v)).map (!·))
    | _ => return false

/-- A mapping is compared by membership, like a list. -/
def defaultOperator : Value → String
  | .map _ => "in"
  | v => membershipOrEquality v

end User

def user : Family where
  name := "User Router"
  description := "Routes content based on requesting users"
  priority := 75
  ruleType := "user"
  fields := ["user", "users"]
  criteriaKeys := ["users", "user"]
  fieldInfos := [⟨"user", "User who added the content (id or username)",
    ["string", "number", "string[]", "number[]"]⟩]
  operators := [
    ⟨"equals", "User matches exactly", ["string", "number"], none⟩,
    ⟨"notEquals", "User does not match", ["string", "number"], none⟩,
    ⟨"in", "User is one of the provided values", ["string[]", "number[]"],
      "Array of user ids or usernames"⟩,
    ⟨"notIn", "User is not any of the provided values", ["string[]", "number[]"], none⟩,
    ⟨"regex", "Username matches the regular expression", ["string"], none⟩]
  defaultOperator := User.defaultOperator
  hasData _ context := User.isKnown context
  holds := User.holds

end Watchgate.Criteria
