import Watchgate.Value.Reading

/-!
# Placements

Where a piece of content goes and with which settings. Settings that are absent are taken from the
instance when the content is added there.
-/

namespace Watchgate

/-- The priority of rules and placements that do not give one. -/
def defaultPriority : Int := 50

/-- An instance and the settings with which content is added there. -/
structure Placement where
  instanceId : Int
  instanceType : Value := .null
  qualityProfile : Value := .null
  rootFolder : Value := .null
  tags : List Value := []
  /-- Which of several placements at one instance wins. -/
  priority : Int := defaultPriority
  searchOnAdd : Value := .null
  seasonMonitoring : Value := .null
  seriesType : Value := .null
  minimumAvailability : Value := .null
  ruleId : Value := .null
  ruleName : Value := .null
  bypassQuota : Bool := false
deriving Inhabited

namespace Placement

/-- The value under the first of two keys that is there, null without either. -/
def either (entries : Entries) (first second : String) : Value :=
  (Entries.get? entries first).getD (Entries.get entries second)

/-- A priority, the default one where none is given. -/
def decodePriority : Value → Except Failure Int
  | .null => .ok defaultPriority
  | v => v.toInteger

def decode (data : Value) : Except Failure Placement := do
  let entries ← data.toEntries
  let instanceId ← (← Value.require entries "instanceId").toInteger
  let tags ← (Entries.get entries "tags").toItemsOrNone
  let priority ← decodePriority (either entries "priority" "weight")
  return {
    instanceId
    instanceType := Entries.get entries "instanceType"
    qualityProfile := Entries.get entries "qualityProfile"
    rootFolder := Entries.get entries "rootFolder"
    tags
    priority
    searchOnAdd := Entries.get entries "searchOnAdd"
    seasonMonitoring := Entries.get entries "seasonMonitoring"
    seriesType := Entries.get entries "seriesType"
    minimumAvailability := Entries.get entries "minimumAvailability"
    ruleId := Entries.get entries "ruleId"
    ruleName := Entries.get entries "ruleName"
    bypassQuota := (Entries.get entries "bypassQuota").truthy }

def encode (p : Placement) : Value :=
  .map [
    ("instanceId", .int p.instanceId),
    ("instanceType", p.instanceType),
    ("qualityProfile", p.qualityProfile),
    ("rootFolder", p.rootFolder),
    ("tags", .list p.tags),
    ("priority", .int p.priority),
    ("searchOnAdd", p.searchOnAdd),
    ("seasonMonitoring", p.seasonMonitoring),
    ("seriesType", p.seriesType),
    ("minimumAvailability", p.minimumAvailability),
    ("ruleId", p.ruleId),
    ("ruleName", p.ruleName),
    ("bypassQuota", .bool p.bypassQuota)]

end Placement

end Watchgate
