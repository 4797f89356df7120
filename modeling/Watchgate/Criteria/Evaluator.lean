import Watchgate.Criteria.Genre
import Watchgate.Criteria.User
import Watchgate.Criteria.Year
import Watchgate.Criteria.Season
import Watchgate.Criteria.Language
import Watchgate.Criteria.Certification
import Watchgate.Condition.Judge
import Watchgate.Routing.Rule

/-!
# Evaluators

An evaluator judges the rules of one type. Most rules hold a shorthand for a single comparison, which
the family of their type judges; a conditional rule holds a whole condition, whose leaves are judged
by the families of the other evaluators. A rule without usable criteria is skipped with a warning.
-/

namespace Watchgate.Criteria

/-- The family of conditional rules. It answers for no field of its own. -/
def conditional : Family where
  name := "Conditional Router"
  description := "Routes content using AND/OR/NOT combinations of the other evaluators' fields"
  priority := 100
  ruleType := "conditional"
  defaultOperator := membershipOrEquality
  holds _ _ _ _ := return false

def fieldFamilies : List Family := [genre, user, year, season, language, certification]

def families : List Family := conditional :: fieldFamilies

def ruleTypes : List String := families.map Family.ruleType

/-- A judge of rules. -/
structure Evaluator where
  family : Family
  /-- The families that judge the leaves of conditions, if its rules hold conditions. -/
  leafFamilies : Option (List Family) := none

namespace Evaluator

def skip (ruleType : String) (rule : Rule) (reason : String) : Judgement Bool := do
  warn ("Skipping " ++ ruleType ++ " rule '" ++ rule.name.display ++ "' (id="
    ++ Number.integerText rule.id ++ "): " ++ reason)
  return false

def conditionOf (rule : Rule) : Except Failure Value := do
  let entries ← (rule.criteria.orElse (.map [])).toEntries
  return Entries.get entries "condition"

def matchesCondition (leafFamilies : List Family) (rule : Rule) (item : Item) (context : Context) :
    Judgement Bool := do
  match ← ofResult (conditionOf rule) with
  | .null => skip "conditional" rule "no condition"
  | raw =>
    match Condition.decode raw with
    | .error fault => skip "conditional" rule fault.message
    | .ok tree => tree.judge leafFamilies item context

def matchesShorthand (family : Family) (rule : Rule) (item : Item) (context : Context) :
    Judgement Bool := do
  match ← ofResult (family.shorthand rule.criteria) with
  | none => skip family.ruleType rule "no usable criteria"
  | some leaf => family.judge leaf item context

def matchesRule (e : Evaluator) (rule : Rule) (item : Item) (context : Context) : Judgement Bool :=
  match e.leafFamilies with
  | some leafFamilies => matchesCondition leafFamilies rule item context
  | none => matchesShorthand e.family rule item context

end Evaluator

def Family.isConditional (f : Family) : Bool := f.ruleType = conditional.ruleType

/-- Families by falling priority; those of equal priority keep their order. -/
def byPriority (fs : List Family) : List Family :=
  fs.mergeSort fun a b => b.priority ≤ a.priority

/-- The evaluators of some families, by falling priority. Conditions reach the families among them
that answer for fields. -/
def evaluatorsOf (fs : List Family) : List Evaluator :=
  let sorted := byPriority fs
  let leafFamilies := sorted.filter (!·.isConditional)
  sorted.map fun f =>
    { family := f, leafFamilies := if f.isConditional then some leafFamilies else none }

def evaluators : List Evaluator := evaluatorsOf families

def familyOf? (ruleType : String) : Option Family :=
  families.find? (·.ruleType = ruleType)

end Watchgate.Criteria
