import Watchgate.Routing.Runner
import Watchgate.Routing.Selection
import Watchgate.Routing.Verdict

/-!
# Resolving where content goes

All runners look at an item, and their placements are merged into one verdict for each instance. A
rule that rejects rejects the item altogether; a rule that passes leaves it to others. Where no rule
places the item it goes to the instance that is being synchronised, or to the default instance.
A runner that fails counts as having found nothing.
-/

namespace Watchgate

open Criteria

/-- How items are routed. -/
structure Router where
  evaluators : List Runner
  plugins : List Runner := []
  /-- Completes the metadata of an item, if there is a way to. -/
  enrich : Option (Item → Value → Act Item) := none
  /-- Whether the runners run at the same time. -/
  isParallel : Bool := false
  /-- How many run at the same time. -/
  workers : Int := 4

namespace Router

def metadataFamilies : List String := ["year", "season", "language", "certification", "conditional"]

/-- Evaluators and plugins in the order in which they run. -/
def runList (r : Router) : List Runner := Runner.runList r.evaluators r.plugins

/-- What one runner finds; a failure is noted and finds nothing. -/
def runOne (item : Item) (context : Context) (runner : Runner) : Act (List Placement) :=
  tryCatch
    (do
      if ← runner.canEvaluate item context then
        return (← runner.evaluate item context).getD []
      return [])
    fun e => do
      Act.error (runner.name ++ " failed for '" ++ item.title.display ++ "': " ++ e.message)
      return []

/-- What all runners find, in the order in which they run. -/
def collect (r : Router) (item : Item) (context : Context) : Act (List Placement) := do
  if r.isParallel && 1 < r.runList.length && r.workers ≤ 0 then throw (.value .noWorkers)
  return (← r.runList.mapM (runOne item context)).flatten

/-- Whether some active rule compares metadata that no plugin looks up. -/
def needsMetadata (r : Router) (active : List Rule) : Bool :=
  active.any fun rule =>
    rule.type.isOneOf metadataFamilies && !rule.type.isOneOf (r.plugins.map Runner.ruleType)

def complete (r : Router) (active : List Rule) (item : Item) (context : Context) : Act Item :=
  match r.enrich, item.metadata with
  | some enrich, none => if r.needsMetadata active then enrich item context.contentType else pure item
  | _, _ => pure item

def ruleOf? (rules : List Rule) (p : Placement) : Option Rule :=
  rules.find? fun rule => p.ruleId.agrees (.int rule.id)

/-- Whether the instance of a placement is in use; otherwise the placement is dropped and that is
noted. -/
def isValidTarget (context : Context) (p : Placement) : Act Bool := do
  let found ← Act.getInstance p.instanceId (.text context.targetType)
  if found.any Instance.enabled then return true
  Act.warning ("Dropping decision from rule " ++ p.ruleId.display ++ ": " ++ context.targetType
    ++ " instance " ++ Number.integerText p.instanceId ++ " is missing or disabled")
  return false

/-- What a rule does with a match. -/
inductive Effect where
  | place
  | reject
  /-- It leaves the item to others. -/
  | pass
deriving DecidableEq, Repr

/-- The effect of a rule; a placement without a rule places. -/
def effectOf (rule : Option Rule) : Effect :=
  match rule with
  | none => .place
  | some rule =>
    if rule.action.isOneOf ["reject"] then .reject
    else if rule.action.isOneOf ["continue"] then .pass
    else .place

def typed (context : Context) (p : Placement) : Placement :=
  if p.instanceType.isNull then { p with instanceType := .text context.targetType } else p

def ruleName (rule : Option Rule) : String :=
  (rule.map fun r => r.name.display).getD "None"

/-- The placements that rules ask for, at instances in use; none if a rule rejects the item. -/
def sift (rules : List Rule) (item : Item) (context : Context) :
    List Placement → Act (Option (List Placement))
  | [] => return some []
  | p :: ps => do
    let rule := ruleOf? rules p
    match effectOf rule with
    | .reject =>
      Act.info ("Rule '" ++ ruleName rule ++ "' rejects '" ++ item.title.display ++ "'")
      return none
    | .pass =>
      Act.info ("Rule '" ++ ruleName rule ++ "' matched '" ++ item.title.display
        ++ "' and passes to the next rule")
      sift rules item context ps
    | .place =>
      let isValid ← isValidTarget context (typed context p)
      let rest ← sift rules item context ps
      return if isValid then rest.map (typed context p :: ·) else rest

def useDefault (context : Context) : Act (List Verdict) := do
  match ← Act.getDefaultInstance context.targetType with
  | none =>
    Act.warning ("No rule matched and no default " ++ context.targetType
      ++ " instance is configured")
    return []
  | some i =>
    Act.info ("No rule matched; using default " ++ context.targetType ++ " instance '"
      ++ i.name.display ++ "'")
    return [.route i.defaultPlacement]

/-- Where an item goes that no rule places: to the instance that is being synchronised, if it is in
use, otherwise to the default instance. -/
def fallback (context : Context) : Act (List Verdict) := do
  match context.syncing, context.syncTarget with
  | true, some target =>
    match ← Act.getInstance target (.text context.targetType) with
    | some i =>
      if i.enabled then
        Act.info ("No rule matched; routing to sync target '" ++ i.name.display ++ "'")
        return [.route i.defaultPlacement]
      missing target
    | none => missing target
  | _, _ => useDefault context
where
  /-- Goes on without the instance that is being synchronised. -/
  missing (target : Int) : Act (List Verdict) := do
    Act.warning ("Sync target instance " ++ Number.integerText target ++ " is unavailable")
    useDefault context

/-- The verdict for a selected placement: its rule may ask for approval, except while
synchronising. -/
def verdictFor (rule : Option Rule) (context : Context) (p : Placement) : Verdict :=
  match rule with
  | none => .route p
  | some rule =>
    if !rule.alwaysRequireApproval || context.syncing then .route p
    else .requireApproval {
      reason := rule.approvalReason.orElse
        (.text ("Rule '" ++ rule.name.display ++ "' requires approval"))
      triggeredBy :=
        .text (if rule.approvalTrigger.isOneOf ["content_criteria"] then "content_criteria"
          else "router_rule")
      facts := [("ruleId", .int rule.id), ("ruleName", rule.name)]
      proposed := some p }

def noteRouting (item : Item) (context : Context) (p : Placement) : Act Unit :=
  Act.info ("Routing '" ++ item.title.display ++ "' to " ++ context.targetType ++ " instance "
    ++ Number.integerText p.instanceId ++ " via rule '" ++ p.ruleName.display ++ "' (priority "
    ++ Number.integerText p.priority ++ ")")

/-- The verdicts on an item that active rules look at. -/
def judge (r : Router) (rules active : List Rule) (item : Item) (context : Context) :
    Act (List Verdict) := do
  let item ← r.complete active item context
  let found ← r.collect item context
  match ← sift rules item context found with
  | none => return [.reject]
  | some placements =>
    let selected ← Act.ofResult (Placement.select placements)
    if selected.isEmpty then fallback context
    else do
      selected.forM (noteRouting item context)
      return selected.map fun p => verdictFor (ruleOf? rules p) context p

/-- The verdicts on an item: one for each instance it goes to, a single rejection, or none. -/
def resolve (r : Router) (item : Item) (context : Context) : Act (List Verdict) := do
  if !context.knowsContentType then
    Act.error ("Unsupported content type '" ++ context.contentType.display ++ "'")
    return []
  let rules ← Act.getRules
  let active := rules.filter (·.isActiveFor context.targetType)
  if active.isEmpty then fallback context
  else r.judge rules active item context

end Router

end Watchgate
