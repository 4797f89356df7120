import Watchgate.Store.Basic
import Watchgate.Store.Rules

/-!
# Approval requests in the store

A new request takes the id after the highest present one. A user has at most one request for a
content key; only an expired one gives way to a new one. A request leaves `pending` by a transition,
which checks the status, and on demand the expiry, in the same step.
-/

namespace Watchgate.Store

open Calendar

/-- A verdict as it is read back. -/
def recoded (v : Verdict) : Verdict :=
  match Verdict.decode v.encode with
  | .ok v => v
  | .error _ => v

/-- What a new request is made of. -/
structure NewRequest where
  userId : Int
  contentType : Value
  title : Value
  key : Value
  guids : List Value
  verdict : Verdict
  triggeredBy : Value
  ruleId : Value := .null
  reason : Value := .null
  expiresAt : Option Moment := none

def nextId (rows : List Request) : Int :=
  rows.foldl (fun n r => max n r.id) 0 + 1

/-- The request that is made, as the caller sees it. -/
def NewRequest.toRequest (n : NewRequest) (id : Int) (userName : Value) (now : Moment) : Request where
  id
  userId := n.userId
  userName
  contentType := n.contentType
  title := n.title
  key := n.key
  guids := n.guids
  verdict := recoded n.verdict
  ruleId := n.ruleId
  triggeredBy := n.triggeredBy
  reason := n.reason
  expiresAt := n.expiresAt
  createdAt := some now
  updatedAt := some now

def requestRow (r : Request) : Except Failure Request := do
  let contentType ← Column.requiredText r.contentType
  let title ← Column.requiredText r.title
  let key ← Column.requiredText r.key
  let ruleId ← Column.integer r.ruleId
  let triggeredBy ← Column.requiredText r.triggeredBy
  let reason ← Column.text r.reason
  return { r with contentType, title, key, ruleId, triggeredBy, reason, userName := .null }

/-- Refuses a rule that is not stored. -/
def requireRule (ruleId : Value) (s : Store) : Except Failure Unit := do
  match ruleId with
  | .null => return ()
  | v =>
    if !v.hashable then throw (.kind (.unhashable v.kind))
    let id ← Column.integer v
    if s.rules.any fun r => Column.same (.int r.id) id then return ()
    throw (.storage (.unknownRule v.display))

def isRequestFor (userId : Int) (key : Value) (r : Request) : Bool :=
  r.userId = userId && Column.same r.key key

/-- The requests without the one that a new request replaces. Only an expired one is replaced. -/
def withoutExpired (userId : Int) (key : Value) (rows : List Request) :
    Except Failure (List Request) := do
  let stored ← Column.text key
  match rows.find? (isRequestFor userId stored) with
  | none => return rows
  | some r =>
    if r.status = .expired then return rows.filter (·.id ≠ r.id)
    else throw (.storage (.duplicate r.id userId key.display r.status.name))

def addRequest (n : NewRequest) (now : Moment) (s : Store) : Except Failure (Request × Store) := do
  let user ← requireUser n.userId s
  requireRule n.ruleId s
  let rows ← withoutExpired n.userId n.key s.requests
  let request := n.toRequest (nextId rows) user.name now
  let row ← requestRow request
  return (request, { s with requests := rows ++ [row] })

/-- A request with the name of its user. -/
def named (s : Store) (r : Request) : Request :=
  { r with userName := ((s.users.find? (·.id = r.userId)).map User.name).getD .null }

def getRequest (id : Int) (s : Store) : Except Failure (Option Request) := do
  let id ← Column.checked id
  return (s.requests.find? (·.id = id)).map (named s)

def getRequestFor (userId : Int) (key : Value) (s : Store) : Except Failure (Option Request) := do
  let userId ← Column.checked userId
  let key ← Column.text key
  return (s.requests.find? (isRequestFor userId key)).map (named s)

/-- How a request leaves `pending`. -/
structure Transition where
  status : Status
  decidedBy : Value := .null
  notes : Value := .null
  /-- The moment before which the request must not have run out, if that matters. -/
  unexpiredAt : Option Moment := none

def Transition.appliesTo (t : Transition) (id : Int) (r : Request) : Bool :=
  r.id = id && r.status = .pending && !t.unexpiredAt.any r.isStaleAt

/-- Moves a request out of `pending` and says whether it was there. -/
def transition (id : Int) (t : Transition) (now : Moment) (s : Store) : Except Failure (Bool × Store) := do
  let id ← Column.checked id
  let decidedBy ← Column.integer t.decidedBy
  let notes ← Column.text t.notes
  let move := fun r : Request =>
    if t.appliesTo id r then { r with status := t.status, decidedBy, notes, updatedAt := some now }
    else r
  return (s.requests.any (t.appliesTo id), { s with requests := s.requests.map move })

/-- Whether a request waits although its time ran out. -/
def isOverdue (t : Moment) (r : Request) : Bool := r.status = .pending && r.isStaleAt t

/-- Marks the waiting requests whose time ran out and says how many there were. -/
def expireRequests (t now : Moment) (s : Store) : Nat × Store :=
  (s.requests.countP (isOverdue t),
    { s with requests := s.requests.map fun r =>
        if isOverdue t r then { r with status := .expired, updatedAt := some now } else r })

/-- Drops a request and says whether it was there. -/
def dropRequest (id : Int) (s : Store) : Except Failure (Bool × Store) := do
  let id ← Column.checked id
  return (s.requests.any (·.id = id), { s with requests := s.requests.filter (·.id ≠ id) })

/-- Drops the expired requests last touched before a moment and says how many there were. -/
def dropExpired (before : Moment) (s : Store) : Nat × Store :=
  let isOld := fun r : Request =>
    r.status = .expired && r.updatedAt.any fun t => t.micros < before.micros
  (s.requests.countP isOld, { s with requests := s.requests.filter fun r => !isOld r })

/-- The rows of one page. A negative size takes all, a negative start counts as zero. -/
def page {α : Type} (limit offset : Int) (rows : List α) : Except Failure (List α) := do
  let limit ← Column.checked limit
  let offset ← Column.checked offset
  let rows := rows.drop offset.toNat
  return if limit < 0 then rows else rows.take limit.toNat

/-- Whether `a` was made before `b`; of two made at once the one with the lower id comes first. -/
def isOlder (a b : Request) : Bool :=
  let x := (a.createdAt.map Moment.micros).getD 0
  let y := (b.createdAt.map Moment.micros).getD 0
  x < y || (x = y && a.id ≤ b.id)

/-- The waiting requests whose time has not run out, oldest first. -/
def pendingRequests (t : Moment) (limit offset : Int) (s : Store) :
    Except Failure (List Request) := do
  let rows := s.requests.filter fun r => r.status = .pending && !r.isStaleAt t
  return (← page limit offset (rows.mergeSort isOlder)).map (named s)

/-- Which requests are asked for; what is missing does not restrict. -/
structure RequestFilter where
  userId : Option Int := none
  status : Value := .null
  contentType : Value := .null
  triggeredBy : Value := .null

/-- Whether a stored text is the one asked for; anything is where nothing is asked for. -/
def isAsked (asked stored : Value) : Bool :=
  !asked.truthy || Column.same stored asked

/-- Whether a request is asked for. -/
def RequestFilter.admits (f : RequestFilter) (r : Request) : Bool :=
  f.userId.all (· = r.userId) && isAsked f.status (.text r.status.name)
    && isAsked f.contentType r.contentType && isAsked f.triggeredBy r.triggeredBy

/-- A filter with its texts as they are stored. -/
def RequestFilter.stored (f : RequestFilter) : Except Failure RequestFilter := do
  let userId ← f.userId.mapM Column.checked
  let status ← if f.status.truthy then Column.text f.status else .ok .null
  let contentType ← if f.contentType.truthy then Column.text f.contentType else .ok .null
  let triggeredBy ← if f.triggeredBy.truthy then Column.text f.triggeredBy else .ok .null
  return { userId, status, contentType, triggeredBy }

/-- The requests asked for, newest first. -/
def requestHistory (f : RequestFilter) (limit offset : Int) (s : Store) :
    Except Failure (List Request) := do
  let f ← f.stored
  let rows := (s.requests.filter f.admits).mergeSort fun a b => isOlder b a
  return (← page limit offset rows).map (named s)

/-- How many requests have a status, of one user if one is given. -/
def countRequests (userId : Option Int) (s : Store) : Except Failure (Status → Nat) := do
  let userId ← userId.mapM Column.checked
  return fun status =>
    s.requests.countP fun r => userId.all (· = r.userId) && r.status = status

end Watchgate.Store
