import Watchgate.Session.Tables
import Watchgate.Criteria.Evaluator
import Watchgate.Media.Lookup

/-!
# Runners

A runner finds placements for an item. An evaluator runs over the stored rules of its family and
yields the placement of each rule that matches. A plugin does the same for an item whose metadata it
looks up first, so that items without metadata can be placed.
-/

namespace Watchgate

open Criteria

/-- Something that finds placements. -/
structure Runner where
  name : String
  /-- Runners with higher priority run first. -/
  priority : Int
  ruleType : String
  /-- Whether there is anything to run over. -/
  canEvaluate : Item → Context → Act Bool
  /-- The placements; none where there are none to speak of. -/
  evaluate : Item → Context → Act (Option (List Placement))

namespace Runner

/-- The active rules of a type for the instances that serve a context. -/
def loadRules (ruleType : String) (context : Context) : Act (List Rule) := do
  let rules ← Act.getRulesOfType (.text ruleType)
  return rules.filter (·.isActiveFor context.targetType)

/-- The active rules, or none after a failure of the store, which is noted. -/
def tryLoadRules (name ruleType : String) (context : Context) : Act (Option (List Rule)) :=
  tryCatch (some <$> loadRules ruleType context) fun e =>
    match e with
    | .storage _ => do
      Act.error (name ++ ": failed to load " ++ ruleType ++ " rules: " ++ e.message)
      return none
    | e => throw e

/-- Whether there are active rules. -/
def hasRules (name ruleType : String) (context : Context) : Act Bool := do
  return (← tryLoadRules name ruleType context).any fun rules => !rules.isEmpty

def matching (e : Evaluator) (item : Item) (context : Context) : List Rule → Act (List Rule)
  | [] => return []
  | rule :: rules => do
    let isMatch ← Act.ofJudgement (e.matchesRule rule item context)
    let rest ← matching e item context rules
    return if isMatch then rule :: rest else rest

/-- The placements of the rules of a family that match. -/
def evaluateRules (e : Evaluator) (item : Item) (context : Context) :
    Act (Option (List Placement)) := do
  if !e.family.hasData item context then return none
  match ← tryLoadRules e.family.name e.family.ruleType context with
  | none => return none
  | some rules =>
    let found ← matching e item context rules
    return if found.isEmpty then none else some (found.map Rule.toPlacement)

def ofEvaluator (e : Evaluator) : Runner where
  name := e.family.name
  priority := e.family.priority
  ruleType := e.family.ruleType
  canEvaluate item context :=
    if e.family.hasData item context then hasRules e.family.name e.family.ruleType context
    else return false
  evaluate := evaluateRules e

def pluginName (family : Family) : String := family.name ++ " (lookup)"

/-- Whether an item can be looked up and there are active rules. -/
def pluginCanEvaluate (family : Family) (item : Item) (context : Context) : Act Bool :=
  if item.guids.isEmpty then return false
  else hasRules (pluginName family) family.ruleType context

/-- The placements for an item with the metadata that is looked up. -/
def pluginEvaluate (family : Family) (item : Item) (context : Context) :
    Act (Option (List Placement)) := do
  if !(← pluginCanEvaluate family item context) then return none
  match ← Lookup.metadata item context.contentType with
  | none =>
    Act.warning (pluginName family ++ ": skipping '" ++ item.title.display
      ++ "', metadata lookup failed")
    return none
  | some m => evaluateRules { family } (item.withMetadata m) context

def ofPlugin (family : Family) : Runner where
  name := pluginName family
  priority := family.priority
  ruleType := family.ruleType
  canEvaluate := pluginCanEvaluate family
  evaluate := pluginEvaluate family

def pluginFamilies : List Family := [year, language]

/-- The plugins that take no evaluator's place: those whose type no evaluator has, and those that a
later plugin of the same type replaces. -/
def extraPlugins (evaluators : List Runner) : List Runner → List Runner
  | [] => []
  | p :: ps =>
    let isSwappedIn := evaluators.any (·.ruleType = p.ruleType)
      && !ps.any (·.ruleType = p.ruleType)
    if isSwappedIn then extraPlugins evaluators ps else p :: extraPlugins evaluators ps

/-- The plugin that takes the place of an evaluator. -/
def replacement? (plugins : List Runner) (e : Runner) : Option Runner :=
  plugins.reverse.find? (·.ruleType = e.ruleType)

def runList (evaluators plugins : List Runner) : List Runner :=
  let chosen := evaluators.map fun e => (replacement? plugins e).getD e
  (chosen ++ extraPlugins evaluators plugins).mergeSort fun a b => b.priority ≤ a.priority

end Runner

end Watchgate
