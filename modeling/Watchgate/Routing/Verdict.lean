import Watchgate.Routing.Placement

/-!
# Verdicts

What routing says about a piece of content: route it to an instance, ask for approval first, reject
it, or leave it to others. A verdict that routes holds a placement; one that asks for approval holds
a deferral, which proposes the placement to be used once somebody approves.
-/

namespace Watchgate

/-- What is to be done with a piece of content. -/
inductive Action where
  | route
  | requireApproval
  | reject
  | pass
deriving DecidableEq, Repr, Inhabited

def Action.word : Action → String
  | .route => "route"
  | .requireApproval => "require_approval"
  | .reject => "reject"
  | .pass => "continue"

/-- The action of a word; what is no known word leaves the content to others. -/
def Action.ofValue : Value → Action
  | .text "route" => .route
  | .text "require_approval" => .requireApproval
  | .text "reject" => .reject
  | _ => .pass

/-- Why approval is asked for, and what for. -/
structure Deferral where
  reason : Value
  triggeredBy : Value
  /-- Facts about the cause. -/
  facts : Entries := []
  /-- The placement that approval would lead to. -/
  proposed : Option Placement := none
deriving Inhabited

namespace Deferral

/-- Reads an optional placement: whatever counts as false is none. -/
def decodePlacement? (v : Value) : Except Failure (Option Placement) :=
  if v.truthy then (Placement.decode v).map some else .ok none

def decode (data : Value) : Except Failure Deferral := do
  let entries ← data.toEntries
  let facts ← ((Entries.get entries "data").orElse (.map [])).toMapping
  let proposed ← decodePlacement? (Entries.get entries "proposedRouting")
  return {
    reason := (Entries.get entries "reason").orElse (.text "Approval required")
    triggeredBy := (Entries.get entries "triggeredBy").orElse (.text "manual_flag")
    facts
    proposed }

def encode (d : Deferral) : Value :=
  .map [
    ("reason", d.reason),
    ("triggeredBy", d.triggeredBy),
    ("data", .map d.facts),
    ("proposedRouting", (d.proposed.map Placement.encode).getD .null)]

end Deferral

/-- What routing says about a piece of content. -/
structure Verdict where
  action : Action
  routing : Option Placement := none
  deferral : Option Deferral := none
deriving Inhabited

namespace Verdict

/-- The content goes to an instance. -/
def route (p : Placement) : Verdict := { action := .route, routing := some p }

def requireApproval (d : Deferral) : Verdict := { action := .requireApproval, deferral := some d }

def reject : Verdict := { action := .reject }

/-- The placement that the verdict leads to, at once or after approval. -/
def proposed (v : Verdict) : Option Placement :=
  match v.action with
  | .route => v.routing
  | .requireApproval => v.deferral.bind Deferral.proposed
  | _ => none

/-- Reads an optional deferral: whatever counts as false is none. -/
def decodeDeferral? (v : Value) : Except Failure (Option Deferral) :=
  if v.truthy then (Deferral.decode v).map some else .ok none

def decode (data : Value) : Except Failure Verdict := do
  let entries ← data.toEntries
  let routing ← Deferral.decodePlacement? (Entries.get entries "routing")
  let deferral ← decodeDeferral? (Entries.get entries "approval")
  return { action := .ofValue (Entries.get entries "action"), routing, deferral }

def encode (v : Verdict) : Value :=
  .map ([("action", .text v.action.word)]
    ++ (v.routing.map fun p => ("routing", p.encode)).toList
    ++ (v.deferral.map fun d => ("approval", d.encode)).toList)

@[simp] theorem proposed_route (p : Placement) : (route p).proposed = some p := rfl

@[simp] theorem proposed_requireApproval (d : Deferral) :
    (requireApproval d).proposed = d.proposed := rfl

end Verdict

end Watchgate
