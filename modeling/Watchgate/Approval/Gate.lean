import Watchgate.Approval.Partners
import Watchgate.Quota.Tracker

/-!
# The gate

The gate stands between routing and the instances. It either carries a routing out, and counts the
request, or keeps it as a request for approval. A verdict that rejects wins over all others; content
that is synchronised passes without any check; a request that is already there is honoured.

Of several verdicts only the first that can be acted on, the primary one, decides whether approval is
needed.
-/

namespace Watchgate

open Calendar

/-- What became of a submission. -/
inductive OutcomeKind where
  | routed
  | pending
  | rejected
  /-- There was nothing to do. -/
  | skipped
  /-- No instance took it. -/
  | failed
deriving DecidableEq, Repr

def OutcomeKind.name : OutcomeKind → String
  | .routed => "routed"
  | .pending => "pending"
  | .rejected => "rejected"
  | .skipped => "skipped"
  | .failed => "failed"

/-- What became of a submission, and why. -/
structure Outcome where
  kind : OutcomeKind
  routed : List Placement := []
  /-- The request that was made or honoured. -/
  request : Option Request := none
  message : Value := .text ""

def Outcome.encode (o : Outcome) : Value :=
  .map [
    ("status", .text o.kind.name),
    ("routed", .list (o.routed.map Placement.encode)),
    ("approvalRequest", (o.request.map Request.encode).getD .null),
    ("message", o.message)]

/-- How the gate works. -/
structure Gate where
  partners : Partners
  /-- How many hours a request waits; for ever if none. -/
  waitHours : Option Int := none

namespace Gate

/-- A verdict that can be acted on, with its placement. -/
def actionable? (v : Verdict) : Option (Verdict × Placement) :=
  v.proposed.map (v, ·)

/-- The deferral of a user all of whose requests need approval. -/
def userDeferral (u : User) (p : Placement) : Deferral where
  reason := .text ("User " ++ u.name.display ++ " requires approval for all requests")
  triggeredBy := .text "manual_flag"
  facts := [("userId", .int u.id)]
  proposed := some p

/-- The deferral of a user whose quota is used up. -/
def quotaDeferral (s : QuotaStatus) (p : Placement) : Deferral where
  reason := .text (Quota.exceededReason s)
  triggeredBy := .text "quota_exceeded"
  facts := [("quotaType", s.period), ("quotaUsage", .int s.usage), ("quotaLimit", s.limit)]
  proposed := some p

/-- Why a user has to wait, apart from what the rules say. -/
def userReason (contentType : Value) (userId : Int) (p : Placement) : Act (Option Deferral) := do
  match ← Act.getUser userId with
  | some u => if u.requiresApproval then return some (userDeferral u p) else quotaReason
  | none => quotaReason
where
  /-- Why the quota makes the user wait. -/
  quotaReason : Act (Option Deferral) := do
    if p.bypassQuota then return none
    match ← Quota.status userId contentType with
    | some s => return if s.exceeded then some (quotaDeferral s p) else none
    | none => return none

/-- A verdict that asks for approval, with its deferral. -/
structure Wait where
  verdict : Verdict
  deferral : Deferral

def Wait.ofDeferral (d : Deferral) : Wait := ⟨.requireApproval d, d⟩

/-- Why a submission has to wait, if it does. -/
def reasonToWait (primary : Verdict) (p : Placement) (contentType : Value) (userId : Option Int) :
    Act (Option Wait) :=
  match primary.action, primary.deferral, userId with
  | .requireApproval, some d, _ => return some ⟨primary, d⟩
  | _, _, none => return none
  | _, _, some userId => do
    return (← userReason contentType userId p).map Wait.ofDeferral

/-- Until when a request waits. -/
def expiry (g : Gate) : Act (Option Moment) := do
  match g.waitHours with
  | none => return none
  | some hours =>
    if hours = 0 then return none
    match (← Act.now).addHours? hours with
    | some t => return some t
    | none => throw .outOfRange

def newRequest (item : Item) (context : Context) (userId : Int) (wait : Wait)
    (expiresAt : Option Moment) : Store.NewRequest where
  userId
  contentType := context.contentType
  title := item.title
  key := contentKey item context
  guids := item.guids.map .text
  verdict := wait.verdict
  triggeredBy := wait.deferral.triggeredBy
  ruleId := (wait.deferral.proposed.map Placement.ruleId).getD .null
  reason := wait.deferral.reason
  expiresAt

/-- Keeps a submission as a request for approval. -/
def defer (g : Gate) (item : Item) (context : Context) (userId : Int) (wait : Wait) :
    Act Outcome := do
  let expiresAt ← g.expiry
  let request ← Act.addRequest (newRequest item context userId wait expiresAt)
  Act.info ("'" ++ item.title.display ++ "' needs approval (" ++ request.triggeredBy.display
    ++ "); request " ++ Number.integerText request.id ++ " created")
  g.partners.tellRequired request
  return { kind := .pending, request := some request, message := request.reason.orElse (.text "") }

/-- Adds a submission to instances; the request is counted for `counted`, if anybody. -/
def route (g : Gate) (item : Item) (contentType : Value) (placements : List Placement)
    (counted : Option Int) : Act Outcome := do
  let taken ← g.partners.attemptAll item placements
  if taken.isEmpty then
    return {
      kind := .failed
      message := .text ("No instance accepted '" ++ item.title.display ++ "'") }
  counted.forM fun userId => Quota.recordUsage userId contentType
  return { kind := .routed, routed := taken }

/-- Carries out the placement of a request that was approved before. -/
def replay (g : Gate) (item : Item) (contentType : Value) (r : Request) : Act Outcome := do
  match r.verdict.proposed with
  | none =>
    return {
      kind := .skipped, request := some r, message := .text "Approved request has no routing" }
  | some p =>
    Act.info ("'" ++ item.title.display ++ "' was previously approved; replaying request "
      ++ Number.integerText r.id)
    let outcome ← g.route item contentType [p] none
    return { outcome with request := some r }

/-- Answers a submission by the request that is already there. -/
def honour (g : Gate) (item : Item) (contentType : Value) (r : Request) : Act Outcome := do
  match r.status with
  | .pending =>
    Act.info ("'" ++ item.title.display ++ "' already awaiting approval (request "
      ++ Number.integerText r.id ++ ")")
    return { kind := .pending, request := some r, message := .text "Already awaiting approval" }
  | .rejected =>
    Act.info ("'" ++ item.title.display ++ "' was previously rejected (request "
      ++ Number.integerText r.id ++ ")")
    return { kind := .rejected, request := some r, message := .text "Previously rejected" }
  | _ => g.replay item contentType r

/-- The request of a user for a content key, unless it is expired. -/
def liveRequest (userId : Option Int) (key : Value) : Act (Option Request) := do
  match userId with
  | none => return none
  | some userId =>
    return (← Act.getRequestFor userId key).filter fun r => r.status ≠ .expired

/-- Answers a submission for which there is no request yet. -/
def receive (g : Gate) (item : Item) (context : Context) (primary : Verdict) (p : Placement)
    (placements : List Placement) : Act Outcome := do
  let userId := context.primaryUserId
  match ← reasonToWait primary p context.contentType userId, userId with
  | some wait, some userId => g.defer item context userId wait
  | some _, none =>
    Act.warning ("'" ++ item.title.display
      ++ "' requires approval but has no user to attribute it to")
    return { kind := .skipped, message := .text "Approval required but no user is attributed" }
  | none, userId => g.route item context.contentType placements userId

/-- Answers a submission on which there are verdicts. -/
def process (g : Gate) (item : Item) (context : Context) (verdicts : List Verdict) :
    Act Outcome := do
  if verdicts.isEmpty then return { kind := .skipped, message := .text "No routing decision" }
  if verdicts.any (·.action = .reject) then
    Act.info ("'" ++ item.title.display ++ "' rejected by routing rules")
    return { kind := .rejected, message := .text "Rejected by routing rules" }
  match verdicts.filterMap actionable? with
  | [] => return { kind := .skipped, message := .text "No routable decision" }
  | (primary, p) :: rest =>
    let placements := p :: rest.map (·.2)
    if context.syncing then g.route item context.contentType placements none
    else
      match ← liveRequest context.primaryUserId (contentKey item context) with
      | some r => g.honour item context.contentType r
      | none => g.receive item context primary p placements

end Gate

end Watchgate
