import Watchgate.Store.Basic

/-!
# Quotas and counted requests in the store

A user has at most one quota for a type of content.
-/

namespace Watchgate.Store

open Calendar

def isQuota (userId : Int) (contentType : Value) (q : Quota) : Bool :=
  q.userId = userId && Column.same q.contentType contentType

def quotaRow (q : Quota) : Except Failure Quota := do
  let contentType ← Column.requiredText q.contentType
  let period ← Column.requiredText q.period
  match ← Column.integer q.limit with
  | .null => throw refused
  | limit => return { q with contentType, period, limit }

def putQuota (q : Quota) (s : Store) : Except Failure (Unit × Store) := do
  let _ ← requireUser q.userId s
  let row ← quotaRow q
  return ((), { s with quotas := upsert (isQuota row.userId row.contentType) row s.quotas })

def getQuota (userId : Int) (contentType : Value) (s : Store) : Except Failure (Option Quota) := do
  let userId ← Column.checked userId
  let contentType ← Column.text contentType
  return s.quotas.find? (isQuota userId contentType)

def getQuotas (userId : Int) (s : Store) : Except Failure (List Quota) := do
  let userId ← Column.checked userId
  let rows := s.quotas.filter (·.userId = userId)
  return rows.mergeSort fun a b => Column.before a.contentType b.contentType

/-- Drops the quota of a user for a type of content and says whether there was one. -/
def dropQuota (userId : Int) (contentType : Value) (s : Store) : Except Failure (Bool × Store) := do
  let userId ← Column.checked userId
  let contentType ← Column.text contentType
  let isDropped := isQuota userId contentType
  return (s.quotas.any isDropped,
    { s with quotas := s.quotas.filter fun q => !isDropped q })

/-- Counts a request. -/
def putUsage (userId : Int) (contentType : Value) (date : Date) (s : Store) : Except Failure (Unit × Store) := do
  let _ ← requireUser userId s
  match ← Column.text contentType with
  | .text contentType => return ((), { s with usage := s.usage ++ [⟨userId, contentType, date⟩] })
  | _ => throw refused

/-- The counted requests of a user for a type of content on the days of a window. -/
def usageIn (userId : Int) (contentType : Value) (w : Window) (s : Store) :
    Except Failure (List Usage) := do
  let userId ← Column.checked userId
  let contentType ← Column.text contentType
  return s.usage.filter fun u =>
    u.userId = userId && contentType.isOneOf [u.contentType] && w.contains u.date

/-- How many requests count. -/
def countUsage (userId : Int) (contentType : Value) (w : Window) (s : Store) :
    Except Failure Nat :=
  (usageIn userId contentType w s).map List.length

/-- The earlier of two days. -/
def earlier (a b : Date) : Date := if a.ordinal ≤ b.ordinal then a else b

/-- The earliest day of some counted requests. -/
def earliest? : List Usage → Option Date
  | [] => none
  | u :: us => some (us.foldl (fun d v => earlier d v.date) u.date)

/-- The day of the oldest request that counts. -/
def oldestUsage (userId : Int) (contentType : Value) (w : Window) (s : Store) :
    Except Failure (Option Date) :=
  (usageIn userId contentType w s).map earliest?

/-- Drops the requests counted before a day and says how many there were. -/
def dropUsageBefore (day : Date) (s : Store) : Nat × Store :=
  let kept := s.usage.filter fun u => day.ordinal ≤ u.date.ordinal
  (s.usage.length - kept.length, { s with usage := kept })

end Watchgate.Store
