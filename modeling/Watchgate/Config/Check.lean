import Watchgate.Config.Sections
import Watchgate.Criteria.Evaluator

/-!
# Checking configurations

A check looks at one part of a configuration, notes everything that is wrong with it and says whether
nothing is. Data that cannot even be looked at makes a check fail.
-/

namespace Watchgate.Config

open Criteria

/-- Notes a fault and says that something is wrong. -/
def fault (text : String) : Judgement Bool :=
  ExceptT.lift (Noted.error text false)

def sound : Judgement Bool := return true

/-- Looks at all entries and says whether nothing is wrong with any. -/
def checkEach {α : Type} (check : α → Judgement Bool) : List α → Judgement Bool
  | [] => sound
  | a :: rest => do
    let first ← check a
    let others ← checkEach check rest
    return first && others

/-- What has been seen of a list of instances. -/
structure Seen where
  ids : List Int := []
  /-- How many instances are for content without a rule. -/
  defaults : Nat := 0
  isSound : Bool := true

def checkInstanceId (type : String) (name : Value) (id : Value) (seen : Seen) : Judgement Seen :=
  match id with
  | .int n =>
    if seen.ids.contains n then do
      let _ ← fault ("Duplicate " ++ type ++ " instance id " ++ Number.integerText n ++ ".")
      return { seen with isSound := false }
    else return { seen with ids := n :: seen.ids }
  | _ => do
    let _ ← fault (type ++ " instance '" ++ name.display ++ "' missing integer id.")
    return { seen with isSound := false }

def checkInstance (type key : String) (seen : Seen) (entry : Value) : Judgement Seen := do
  match entry with
  | .map entries =>
    let name := (Entries.get? entries "name").getD (.text "<unnamed>")
    let seen ← checkInstanceId type name (Entries.get entries "id") seen
    let seen ←
      if (Entries.get entries "root_folder").truthy then pure seen
      else do
        let _ ← fault (type ++ " instance '" ++ name.display ++ "' missing root_folder.")
        pure { seen with isSound := false }
    return if (Entries.get entries "is_default").truthy
      then { seen with defaults := seen.defaults + 1 } else seen
  | _ =>
    let _ ← fault ("Each entry in " ++ key ++ " must be a mapping.")
    return { seen with isSound := false }

def checkInstancesOf (config : Entries) (type key : String) : Judgement Bool := do
  match (Entries.get config key).orElse (.list []) with
  | .list entries =>
    let seen ← entries.foldlM (checkInstance type key) {}
    if 1 < seen.defaults then
      fault ("More than one default " ++ type ++ " instance is configured.")
    else return seen.isSound
  | _ => fault (key ++ " must be a list.")

def checkInstances (config : Entries) : Judgement Bool :=
  checkEach (fun (type, key) => checkInstancesOf config type key) instanceLists

/-- Whether a value is an integer or a truth value. -/
def isWhole (v : Value) : Bool := v.wholeNumber?.isSome

def checkUsers (config : Entries) : Judgement Bool := do
  let entries ← ofResult (listOf config "USERS")
  checkEach (fun entry =>
    if isWhole (entry.get "id") then sound
    else fault ("User entry " ++ entry.source ++ " missing integer id.")) entries

def idsIn (entries : List Value) : Except Failure (List Value) :=
  (entries.filter (·.entries?.isSome)).mapM fun entry =>
    let id := entry.get "id"
    if id.hashable then .ok id else .error (.kind (.unhashable id.kind))

def checkQuota (userIds : List Value) (entry : Value) : Judgement Bool := do
  let userId := entry.get "user_id"
  if !isWhole userId then
    fault ("Quota entry " ++ entry.source ++ " missing integer user_id.")
  else
    let isKnown ←
      if userIds.any (·.agrees userId) then sound
      else fault ("Quota for unknown user " ++ userId.display ++ ".")
    let quota ← ofResult (decodeQuota entry)
    match quota.check with
    | .ok _ => return isKnown
    | .error e => fault ("Quota for user " ++ userId.display ++ ": " ++ e.message)

def checkQuotas (config : Entries) : Judgement Bool := do
  let userIds ← ofResult do idsIn (← listOf config "USERS")
  let entries ← ofResult (listOf config "USER_QUOTAS")
  checkEach (checkQuota userIds) entries

def targetTypes : List String := ["radarr", "sonarr"]

def ruleActions : List String := ["route", "reject", "continue"]

def approvalTriggers : List String :=
  ["quota_exceeded", "router_rule", "manual_flag", "content_criteria"]

def conditionProblems (rule : Rule) : Except Failure (List String) := do
  match ← Evaluator.conditionOf rule with
  | .null => return ["conditional rule has no 'condition'"]
  | raw =>
    let problem := match Condition.decode raw with
      | .error fault => some fault.message
      | .ok tree => tree.problem? fieldFamilies
    return (problem.map ("invalid condition: " ++ ·)).toList

def criteriaProblems (rule : Rule) : Except Failure (List String) :=
  if rule.type.isOneOf ["conditional"] then conditionProblems rule
  else if rule.type.isOneOf ruleTypes && !rule.criteria.truthy then
    .ok ["criteria must not be empty"]
  else .ok []

def problemIf (isWrong : Bool) (text : String) : List String := if isWrong then [text] else []

/-- What is wrong with the target of a rule; `known` holds the ids of the instances by type. -/
def targetProblems (rule : Rule) (known : List (String × List Value)) : List String :=
  if !rule.targetType.isOneOf targetTypes then
    ["target_type must be radarr or sonarr, got '" ++ rule.targetType.display ++ "'"]
  else
    let ids := (known.lookup rule.targetType.display).getD []
    problemIf (!ids.any (·.agrees (.int rule.targetId)))
      ("target " ++ rule.targetType.display ++ " instance " ++ Number.integerText rule.targetId
        ++ " does not exist")

def ruleProblems (rule : Rule) (known : List (String × List Value)) :
    Except Failure (List String) := do
  let criteria ← criteriaProblems rule
  return problemIf (!rule.type.isOneOf ruleTypes) ("unknown type '" ++ rule.type.display ++ "'")
    ++ targetProblems rule known
    ++ problemIf (!rule.action.isOneOf ruleActions)
      ("action must be one of " ++ ", ".intercalate ruleActions)
    ++ problemIf (!rule.approvalTrigger.isOneOf approvalTriggers)
      ("approval_trigger must be one of " ++ ", ".intercalate approvalTriggers)
    ++ criteria

/-- Failures that only show that a rule is malformed. -/
def isMalformed : Failure → Bool
  | .missingKey _ => true
  | .kind _ => true
  | .value _ => true
  | .json _ => true
  | _ => false

def checkReadRule (known : List (String × List Value)) (isDuplicate : Bool) (rule : Rule) :
    Judgement Bool := do
  let isNew ←
    if isDuplicate then fault ("Duplicate router rule id " ++ Number.integerText rule.id ++ ".")
    else sound
  let problems ← ofResult (ruleProblems rule known)
  let isSound ← checkEach (fun problem =>
    fault ("Router rule '" ++ rule.name.display ++ "' (id=" ++ Number.integerText rule.id ++ "): "
      ++ problem)) problems
  return isNew && isSound

/-- Looks at rules; `seen` holds the ids of those before. -/
def checkRulesFrom (known : List (String × List Value)) (seen : List Int) :
    List Value → Judgement Bool
  | [] => sound
  | entry :: rest => do
    match Rule.decode entry with
    | .error e =>
      if isMalformed e then
        let _ ← fault ("Router rule " ++ ((entry.get? "name").getD entry).source
          ++ " is malformed: " ++ e.message)
        let _ ← checkRulesFrom known seen rest
        return false
      else throw e
    | .ok rule =>
      let isSound ← checkReadRule known (seen.contains rule.id) rule
      let others ← checkRulesFrom known (rule.id :: seen) rest
      return isSound && others

/-- The ids of the configured instances by type. -/
def knownInstances (config : Entries) : Except Failure (List (String × List Value)) :=
  instanceLists.mapM fun (type, key) => do
    return (type, ← idsIn (← listOf config key))

def checkRules (config : Entries) : Judgement Bool := do
  let known ← ofResult (knownInstances config)
  let entries ← ofResult (listOf config "ROUTER_RULES")
  checkRulesFrom known [] entries

def checks : List (String × (Entries → Judgement Bool)) :=
  [("instances", checkInstances), ("users", checkUsers), ("quotas", checkQuotas),
    ("rules", checkRules)]

/-- Looks at all parts of a configuration. -/
def check (config : Entries) : Judgement Bool :=
  checkEach (fun part => part.2 config) checks

end Watchgate.Config
