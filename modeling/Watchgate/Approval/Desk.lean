import Watchgate.Approval.Partners
import Watchgate.Quota.Tracker

/-!
# The desk

At the desk requests are approved, rejected, deleted and listed. A request is decided at most once: a
decision counts only if the request still waits and its time has not run out, and approving carries
out the placement that was proposed when the request was made.
-/

namespace Watchgate

open Calendar

/-- What a decision led to. -/
structure Decision where
  request : Request
  changed : Bool
  /-- Whether the content was added to an instance. -/
  executed : Bool := false

def Decision.encode (d : Decision) : Value :=
  .map [
    ("status", .text d.request.status.name),
    ("changed", .bool d.changed),
    ("executed", .bool d.executed),
    ("request", d.request.encode)]

namespace Desk

def get (id : Int) : Act Request := do
  match ← Act.getRequest id with
  | some r => return r
  | none => throw (.requestNotFound id)

/-- How a request stands that could not be decided; if its time has run out it is marked so. -/
def expireIfStale (id : Int) (now : Moment) : Act Request := do
  let current ← get id
  if current.status = .pending && current.isStaleAt now then
    let _ ← Act.transition id { status := .expired }
    get id
  else return current

/-- The item that a request was made for, as far as the request keeps it. -/
def itemOf (r : Request) : Item where
  title := r.title
  guids := r.guids.map Value.display

/-- Moves a request, if it waits, and goes on with `rest` if that succeeds. -/
def decideBy (id : Int) (t : Moment → Store.Transition) (rest : Act Decision) : Act Decision := do
  let request ← get id
  if request.status ≠ .pending then return { request, changed := false }
  let now ← Act.now
  let isMoved ← Act.transition id (t now)
  if !isMoved then return { request := ← expireIfStale id now, changed := false }
  rest

/-- Tells about a decision and returns it. -/
def announce (p : Partners) (text : String) (d : Decision) : Act Decision := do
  Act.info text
  p.tellResolved d.request
  return d

/-- Carries out what was approved and says whether an instance took it; if so, `count` follows. -/
def carryOut (p : Partners) (count : Request → Act Unit) (r : Request) : Act Bool := do
  match r.verdict.proposed with
  | none =>
    Act.error ("Approval request " ++ Number.integerText r.id
      ++ " has no stored routing to replay")
    return false
  | some placement =>
    let accepted ← p.attempt (itemOf r) placement
    if accepted then count r
    return accepted

def countUse (r : Request) : Act Unit := Quota.recordUsage r.userId r.contentType

def execute (p : Partners) (r : Request) : Act Bool := carryOut p countUse r

/-- Approves a request and goes on with `rest` once it is moved. -/
def approveThen (id : Int) (decidedBy notes : Value) (rest : Act Decision) : Act Decision :=
  decideBy id (fun now => { status := .approved, decidedBy, notes, unexpiredAt := some now }) rest

/-- What follows once a request is approved; what an instance took is counted by `count`. -/
def finish (p : Partners) (count : Request → Act Unit) (id : Int) (decidedBy : Value) :
    Act Decision := do
  let approved ← get id
  let executed ← carryOut p count approved
  announce p ("Approval request " ++ Number.integerText id ++ " approved by " ++ decidedBy.display)
    { request := approved, changed := true, executed }

def approve (p : Partners) (id : Int) (decidedBy notes : Value) : Act Decision :=
  approveThen id decidedBy notes (finish p countUse id decidedBy)

def reject (p : Partners) (id : Int) (decidedBy reason : Value) : Act Decision :=
  decideBy id (fun now => { status := .rejected, decidedBy, notes := reason, unexpiredAt := some now })
    do
      let rejected ← get id
      announce p
        ("Approval request " ++ Number.integerText id ++ " rejected by " ++ decidedBy.display)
        { request := rejected, changed := true }

def delete (id : Int) : Act Unit := do
  if ← Act.dropRequest id then
    Act.info ("Approval request " ++ Number.integerText id ++ " deleted")
  else throw (.requestNotFound id)

/-- Marks the requests whose time has run out. -/
def sweep : Act Nat := do
  let expired ← Act.expireRequests (← Act.now)
  if expired ≠ 0 then
    Act.info ("Expired " ++ toString expired ++ " pending approval request(s)")
  return expired

/-- Days after which expired requests are dropped unless configured otherwise. -/
def defaultCleanupDays : Int := 30

/-- Drops the requests that have been expired for more than `days` days. -/
def cleanup (days : Int) : Act Nat := do
  match (← Act.now).addDays? (-days) with
  | none => throw .outOfRange
  | some before =>
    let removed ← Act.dropExpired before
    if removed ≠ 0 then
      Act.info ("Removed " ++ toString removed ++ " expired approval request(s) older than "
        ++ Number.integerText days ++ " days")
    return removed

def listPending (limit offset : Int) : Act (List Request) := do
  Act.pendingRequests (← Act.now) limit offset

def history (f : Store.RequestFilter) (limit offset : Int) : Act (List Request) :=
  Act.requestHistory f limit offset

/-- How many requests have each status, of one user if one is given, and how many that is in all. -/
def stats (userId : Option Int) : Act Entries := do
  let count ← Act.countRequests userId
  let counts := Status.all.map fun s => (s.name, count s)
  return counts.map (fun c => (c.1, Value.int c.2))
    ++ [("total", .int (counts.foldl (fun n c => n + c.2) 0 : Nat))]

/-- What became of the requests of a batch; each list in the order in which they were named. -/
structure Batch where
  decided : List Int := []
  unchanged : List Int := []
  missing : List Int := []
deriving DecidableEq, Repr

/-- A batch as users are shown it; `verb` names the decision. -/
def Batch.encode (verb : String) (b : Batch) : Value :=
  .map [
    (verb, .list (b.decided.map .int)),
    ("unchanged", .list (b.unchanged.map .int)),
    ("notFound", .list (b.missing.map .int))]

/-- A decision, or none where the request is not there. -/
def tryDecide (decide : Int → Act Decision) (id : Int) : Act (Option Decision) :=
  tryCatch (some <$> decide id) fun e =>
    match e with
    | .requestNotFound _ => return none
    | e => throw e

/-- Decides one request after the other. -/
def decideAll (decide : Int → Act Decision) : List Int → Act Batch
  | [] => return {}
  | id :: ids => do
    let decision ← tryDecide decide id
    let rest ← decideAll decide ids
    return match decision with
      | none => { rest with missing := id :: rest.missing }
      | some d =>
        if d.changed then { rest with decided := id :: rest.decided }
        else { rest with unchanged := id :: rest.unchanged }

def approveAll (p : Partners) (ids : List Int) (decidedBy notes : Value) : Act Batch :=
  decideAll (fun id => approve p id decidedBy notes) ids

def rejectAll (p : Partners) (ids : List Int) (decidedBy reason : Value) : Act Batch :=
  decideAll (fun id => reject p id decidedBy reason) ids

end Desk

end Watchgate
