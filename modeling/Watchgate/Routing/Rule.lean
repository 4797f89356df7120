import Watchgate.Routing.Placement
import Watchgate.Json.Reader

/-!
# Rules

A rule says which content goes to which instance. Its criteria are either a shorthand for one
comparison or hold a whole condition; the type of the rule names the family that judges them.
-/

namespace Watchgate

/-- A routing rule. -/
structure Rule where
  id : Int
  name : Value
  type : Value
  targetType : Value
  targetId : Int
  criteria : Value := .map []
  qualityProfile : Value := .null
  rootFolder : Value := .null
  tags : List Value := []
  /-- The priority. -/
  order : Int := defaultPriority
  enabled : Bool := true
  seriesType : Value := .null
  seasonMonitoring : Value := .null
  searchOnAdd : Value := .null
  minimumAvailability : Value := .null
  /-- What a match does: route, reject or continue. -/
  action : Value := .text "route"
  /-- Whether every match needs approval. -/
  alwaysRequireApproval : Bool := false
  /-- Whether quotas are passed over. -/
  bypassUserQuotas : Bool := false
  approvalReason : Value := .null
  approvalTrigger : Value := .text "router_rule"
deriving Inhabited

namespace Rule

/-- The criteria of a rule; a text is read as JSON. -/
def decodeCriteria (v : Value) : Except Failure Value :=
  match v.orElse (.map []) with
  | .text s => Json.read s
  | v => .ok v

def decode (data : Value) : Except Failure Rule := do
  let entries ← data.toEntries
  let criteria ← decodeCriteria (Entries.get entries "criteria")
  let idValue ← Value.require entries "id"
  let id ← idValue.toInteger
  let targetId ← (← Value.require entries "target_instance_id").toInteger
  let tags ← (Entries.get entries "tags").toItemsOrNone
  let order ← Placement.decodePriority (Placement.either entries "order" "priority")
  return {
    id
    name := (Entries.get entries "name").orElse (.text ("Rule " ++ idValue.display))
    type := (Entries.get? entries "type").getD (.text "")
    targetType := (Entries.get? entries "target_type").getD (.text "")
    targetId
    criteria
    qualityProfile := Entries.get entries "quality_profile"
    rootFolder := Entries.get entries "root_folder"
    tags
    order
    enabled := match Entries.get? entries "enabled" with
      | some (.bool false) => false
      | _ => true
    seriesType := Entries.get entries "series_type"
    seasonMonitoring := Entries.get entries "season_monitoring"
    searchOnAdd := Entries.get entries "search_on_add"
    minimumAvailability := Entries.get entries "minimum_availability"
    action := (Entries.get entries "action").orElse (.text "route")
    alwaysRequireApproval := (Entries.get entries "always_require_approval").truthy
    bypassUserQuotas := (Entries.get entries "bypass_user_quotas").truthy
    approvalReason := Entries.get entries "approval_reason"
    approvalTrigger := (Entries.get entries "approval_trigger").orElse (.text "router_rule") }

def encode (r : Rule) : Value :=
  .map [
    ("id", .int r.id),
    ("name", r.name),
    ("type", r.type),
    ("target_type", r.targetType),
    ("target_instance_id", .int r.targetId),
    ("criteria", r.criteria),
    ("quality_profile", r.qualityProfile),
    ("root_folder", r.rootFolder),
    ("tags", .list r.tags),
    ("order", .int r.order),
    ("enabled", .bool r.enabled),
    ("series_type", r.seriesType),
    ("season_monitoring", r.seasonMonitoring),
    ("search_on_add", r.searchOnAdd),
    ("minimum_availability", r.minimumAvailability),
    ("action", r.action),
    ("always_require_approval", .bool r.alwaysRequireApproval),
    ("bypass_user_quotas", .bool r.bypassUserQuotas),
    ("approval_reason", r.approvalReason),
    ("approval_trigger", r.approvalTrigger)]

def toPlacement (r : Rule) : Placement where
  instanceId := r.targetId
  instanceType := r.targetType
  qualityProfile := r.qualityProfile
  rootFolder := r.rootFolder
  tags := r.tags
  priority := r.order
  searchOnAdd := r.searchOnAdd
  seasonMonitoring := r.seasonMonitoring
  seriesType := r.seriesType
  minimumAvailability := r.minimumAvailability
  ruleId := .int r.id
  ruleName := r.name
  bypassQuota := r.bypassUserQuotas

/-- Whether the rule is used for instances of a type. -/
def isActiveFor (r : Rule) (targetType : String) : Bool :=
  r.enabled && r.targetType.isOneOf [targetType]

end Rule

end Watchgate
