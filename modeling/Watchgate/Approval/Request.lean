import Watchgate.Content.Item
import Watchgate.Content.Context
import Watchgate.Routing.Verdict
import Watchgate.Calendar.Moment

/-!
# Approval requests

A request keeps what a submission asked for and the verdict that deferred it, until somebody approves
or rejects it or its time runs out.
-/

namespace Watchgate

open Calendar

/-- Where a request stands. -/
inductive Status where
  | pending
  | approved
  | rejected
  | expired
  /-- A mark set by hand. -/
  | other (name : String)
deriving DecidableEq, Repr, Inhabited

namespace Status

def name : Status → String
  | .pending => "pending"
  | .approved => "approved"
  | .rejected => "rejected"
  | .expired => "expired"
  | .other name => name

def ofName : String → Status
  | "pending" => .pending
  | "approved" => .approved
  | "rejected" => .rejected
  | "expired" => .expired
  | name => .other name

/-- The statuses that requests go through. -/
def all : List Status := [.pending, .approved, .rejected, .expired]

end Status

/-- A request for approval. -/
structure Request where
  id : Int
  userId : Int
  userName : Value := .null
  contentType : Value
  title : Value
  /-- The key under which the content is known. -/
  key : Value
  guids : List Value
  verdict : Verdict
  ruleId : Value := .null
  triggeredBy : Value
  reason : Value := .null
  status : Status := .pending
  decidedBy : Value := .null
  notes : Value := .null
  /-- Until when the request waits. -/
  expiresAt : Option Moment := none
  createdAt : Option Moment := none
  /-- When its status was last set. -/
  updatedAt : Option Moment := none
deriving Inhabited

namespace Request

def encode (r : Request) : Value :=
  .map [
    ("id", .int r.id),
    ("userId", .int r.userId),
    ("userName", r.userName),
    ("contentType", r.contentType),
    ("contentTitle", r.title),
    ("contentKey", r.key),
    ("contentGuids", .list r.guids),
    ("proposedRouterDecision", r.verdict.encode),
    ("routerRuleId", r.ruleId),
    ("triggeredBy", r.triggeredBy),
    ("approvalReason", r.reason),
    ("status", .text r.status.name),
    ("approvedBy", r.decidedBy),
    ("approvalNotes", r.notes),
    ("expiresAt", Moment.valueOf r.expiresAt),
    ("createdAt", Moment.valueOf r.createdAt),
    ("updatedAt", Moment.valueOf r.updatedAt)]

/-- Whether the time of the request ran out before a moment. -/
def isStaleAt (r : Request) (t : Moment) : Bool :=
  r.expiresAt.any fun e => e.micros < t.micros

end Request

/-- The key under which requests for an item are known: the one of the context, else the first
identifier, else the title. -/
def contentKey (item : Item) (context : Context) : Value :=
  if context.itemKey.truthy then context.itemKey
  else match item.guids with
    | guid :: _ => .text guid
    | [] => item.title

end Watchgate
