import Watchgate.Store.Instances

/-!
# Rules in the store

A rule is stored only if its target is. Its criteria are stored as a mapping, whatever form they were
given in.
-/

namespace Watchgate.Store

def ruleRow (r : Rule) : Except Failure Rule := do
  let criteria ← r.criteria.toMapping
  let id ← Column.checked r.id
  let name ← Column.requiredText r.name
  let type ← Column.requiredText r.type
  let targetType ← Column.requiredText r.targetType
  let rootFolder ← Column.text r.rootFolder
  let order ← Column.checked r.order
  let seriesType ← Column.text r.seriesType
  let seasonMonitoring ← Column.text r.seasonMonitoring
  let searchOnAdd ← Column.truth r.searchOnAdd
  let minimumAvailability ← Column.text r.minimumAvailability
  let action ← Column.requiredText r.action
  let approvalReason ← Column.text r.approvalReason
  let approvalTrigger ← Column.requiredText r.approvalTrigger
  return { r with
    id, name, type, targetType, rootFolder, order, seriesType, seasonMonitoring, searchOnAdd
    minimumAvailability, action, approvalReason, approvalTrigger
    criteria := .map criteria
    qualityProfile := Column.profile r.qualityProfile }

def readRule (r : Rule) : Except Failure Rule :=
  (Column.readProfile r.qualityProfile).map fun p => { r with qualityProfile := p }

/-- Refuses a target that is not stored. -/
def requireTarget (r : Rule) (s : Store) : Except Failure Unit := do
  if !r.targetType.hashable then throw (.kind (.unhashable r.targetType.kind))
  let id ← Column.checked r.targetId
  let type ← Column.text r.targetType
  if s.instances.any (isInstance id type) then return ()
  throw (.storage (.unknownTarget r.name.display r.targetType.display r.targetId))

def putRule (r : Rule) (s : Store) : Except Failure (Unit × Store) := do
  requireTarget r s
  let row ← ruleRow r
  return ((), { s with rules := upsert (·.id = row.id) row s.rules })

def getRules (s : Store) : Except Failure (List Rule) :=
  (sortedBy Rule.id s.rules).mapM readRule

def getRulesOfType (type : Value) (s : Store) : Except Failure (List Rule) := do
  let type ← Column.text type
  ((sortedBy Rule.id s.rules).filter fun r => Column.same r.type type).mapM readRule

def getRule (id : Int) (s : Store) : Except Failure (Option Rule) := do
  let id ← Column.checked id
  match s.rules.find? (·.id = id) with
  | some row => (readRule row).map some
  | none => return none

/-- Drops all rules but those with the given ids and says how many there were. -/
def keepRules (ids : List Int) (s : Store) : Except Failure (Nat × Store) := do
  let ids ← ids.mapM Column.checked
  let kept := s.rules.filter fun r => ids.contains r.id
  return (s.rules.length - kept.length, { s with rules := kept })

end Watchgate.Store
