import Watchgate.Web.Token

/-!
# The web interface

Submissions come in at `/webhook`; requests for approval, quotas and evaluators are served below
`/api/`. A message below `/api/` that does not carry the token is turned away before anything else is
looked at. A request that is not there is answered by 404, a store that is out of order by 503, and
any other failure by 500.
-/

namespace Watchgate.Web

/-- What a path leads to. -/
inductive Place where
  | health
  | webhook
  | approvals
  | history
  | stats
  | approve (id : Int)
  | reject (id : Int)
  | approval (id : Int)
  | quota (userId : Int) (contentType : String)
  | evaluators
deriving DecidableEq, Repr

/-- The number that a piece of a path writes, if it consists of digits. -/
def pathNumber? (s : String) : Option Int :=
  if !s.isEmpty && s.toList.all Text.isDecimal then (Number.readInteger s).toOption else none

/-- What the pieces of a path lead to. -/
def placeOf? : List String → Option Place
  | ["", "health"] => some .health
  | ["", "webhook"] => some .webhook
  | ["", "api", "approvals"] => some .approvals
  | ["", "api", "approvals", "history"] => some .history
  | ["", "api", "approvals", "stats"] => some .stats
  | ["", "api", "approvals", id] => (pathNumber? id).map .approval
  | ["", "api", "approvals", id, "approve"] => (pathNumber? id).map .approve
  | ["", "api", "approvals", id, "reject"] => (pathNumber? id).map .reject
  | ["", "api", "quota", id, contentType] =>
    if contentType.isEmpty then none else (pathNumber? id).map (.quota · contentType)
  | ["", "api", "evaluators"] => some .evaluators
  | _ => none

def Place.method : Place → String
  | .webhook => "POST"
  | .approve _ => "POST"
  | .reject _ => "POST"
  | .approval _ => "DELETE"
  | _ => "GET"

/-- A number in the query; what is none counts as not given. -/
def intField? (m : Message) (name : String) : Option Int :=
  (m.field? name).bind fun s => (Number.readInteger s).toOption

/-- A text in the query, null where there is none. -/
def textField (m : Message) (name : String) : Value :=
  ((m.field? name).map Value.text).getD .null

def shownNames : OneOrMany Value → String
  | .none => "None"
  | .one v => v.display
  | .many [v] => "(" ++ v.source ++ ",)"
  | .many vs => "(" ++ ", ".intercalate (vs.map Value.source) ++ ")"

def badRequest : Answer := .text 400 "Bad Request"

def unauthorised : Answer := .text 401 "Unauthorized"

def readSubmission (item context : Value) : Except Failure (Item × Context) := do
  let item ← Item.decode item
  let context ← Context.decode context
  return (item, context)

/-- Failures that only show that a submission is malformed. -/
def isMalformed : Failure → Bool
  | .kind _ => true
  | .value _ => true
  | .json _ => true
  | .condition _ => true
  | _ => false

/-- Routes a submission and hands it to the gate. -/
def takeSubmission (service : Service) (item : Item) (context : Context) : Act Answer := do
  Act.info ("Processing: " ++ item.title.display ++ " (" ++ context.contentType.display ++ ") user="
    ++ shownNames context.userName)
  let (verdicts, outcome) ← service.submit item context
  Act.info ("Outcome for '" ++ item.title.display ++ "': " ++ outcome.kind.name)
  return .json 200 (.map [
    ("correlationId", .text "*"),
    ("decisions", .list (verdicts.map Verdict.encode)),
    ("outcome", outcome.encode)])

def webhook (service : Service) (m : Message) : Act Answer := do
  let body := m.value
  if !(← Act.ofResult (isAuthorised service m body)) then
    Act.warning "Unauthorized webhook: missing or invalid token"
    return unauthorised
  match body.get "item", body.get "context" with
  | .map item, .map context =>
    match readSubmission (.map item) (.map context) with
    | .error e =>
      if isMalformed e then
        Act.error ("Invalid webhook payload: " ++ e.message)
        return badRequest
      throw e
    | .ok (item, context) =>
      if context.knowsContentType then takeSubmission service item context
      else
        Act.error ("Unsupported contentType '" ++ context.contentType.display ++ "'")
        return badRequest
  | _, _ =>
    Act.error "Invalid JSON payload"
    return badRequest

/-- The fields of the body of a decision; none where it is no mapping. -/
def decisionBody? (m : Message) : Option Entries :=
  if !m.isJson then some []
  else match m.value with
    | .null => some []
    | .map entries => some entries
    | _ => none

def listing (rs : List Request) : Answer :=
  .json 200 (.map [("approvals", .list (rs.map Request.encode))])

def history (m : Message) : Act Answer := do
  let status := (m.field? "status").getD ""
  if !status.isEmpty && !(Status.all.map Status.name).contains status then
    return .json 400 (.map [("error", .text ("Unknown status '" ++ status ++ "'"))])
  let filter : Store.RequestFilter := {
    userId := intField? m "userId"
    status := textField m "status"
    contentType := textField m "contentType"
    triggeredBy := textField m "triggeredBy" }
  return listing (← Desk.history filter ((intField? m "limit").getD 50)
    ((intField? m "offset").getD 0))

/-- Answers a decision; `decide` gets the fields of the body. -/
def decideBy (m : Message) (verb : String) (id : Int) (decide : Entries → Act Decision) :
    Act Answer := do
  match decisionBody? m with
  | none =>
    Act.error ("Invalid " ++ verb ++ " body for request " ++ Number.integerText id)
    return badRequest
  | some body => return .json 200 (← decide body).encode

def quota (userId : Int) (contentType : String) : Act Answer := do
  if contentTypes.contains contentType then
    return .json 200 (← Quota.formatted userId (.text contentType))
  return .json 400 (.map [("error", .text ("Unknown content type '" ++ contentType ++ "'"))])

def serve (service : Service) (m : Message) : Place → Act Answer
  | .health => return .json 200 (.map [("ok", .bool true)])
  | .webhook => webhook service m
  | .approvals => do
    return listing (← Desk.listPending ((intField? m "limit").getD 50)
      ((intField? m "offset").getD 0))
  | .history => history m
  | .stats => do
    return .json 200 (.map [("stats", .map (← Desk.stats (intField? m "userId")))])
  | .approve id =>
    decideBy m "approve" id fun body =>
      Desk.approve service.partners id (Entries.get body "approvedBy") (Entries.get body "notes")
  | .reject id =>
    decideBy m "reject" id fun body =>
      Desk.reject service.partners id (Entries.get body "rejectedBy") (Entries.get body "reason")
  | .approval id => do
    Desk.delete id
    return .json 200 (.map [("deleted", .int id)])
  | .quota userId contentType => quota userId contentType
  | .evaluators =>
    return .json 200 (.map [
      ("evaluators", .list (Criteria.evaluators.map fun e => e.family.describe)),
      ("loaded", .list (service.router.runList.map fun r => .text r.name))])

/-- Whether a path belongs to the interface for administrators. -/
def isProtected (path : String) : Bool := path.startsWith "/api/"

def dispatch (service : Service) (m : Message) : Act Answer :=
  match placeOf? ((splitAt '/' m.path.toList).map String.ofList) with
  | none => return .bare 404
  | some place =>
    if m.method = place.method then serve service m place
    else if m.method = "OPTIONS" then return .bare 200
    else if m.method = "HEAD" && place.method = "GET" then do
      return .bare (← serve service m place).status
    else return .bare 405

/-- Turns away a message without the token, or answers it. -/
def admitOrTurnAway (service : Service) (m : Message) : Act Answer := do
  if isProtected m.path then
    if !(← Act.ofResult (isAuthorised service m .null)) then
      Act.warning ("Unauthorized API call to " ++ m.path)
      return unauthorised
  dispatch service m

def answerFailure (m : Message) : Failure → Act Answer
  | .requestNotFound id =>
    return .json 404 (.map [("error", .text (Failure.requestNotFound id).message)])
  | .storage f => do
    Act.error ("Storage failure while handling " ++ m.method ++ " " ++ m.path ++ ": " ++ f.message)
    return .json 503 (.map [("error", .text "Storage unavailable, retry later")])
  | _ => return .bare 500

def handle (service : Service) (m : Message) : Act Answer :=
  tryCatch (admitOrTurnAway service m) (answerFailure m)

end Watchgate.Web
