import Watchgate.Session.Tables
import Watchgate.Text.CaseMap

/-!
# Keeping track of quotas

What the quota of a user allows today, and the counting of requests. Only the store is asked; nothing
is remembered between two questions.
-/

namespace Watchgate

open Calendar

namespace Quota

/-- Whether `usage` requests use up a limit. -/
def reaches (usage : Nat) (limit : Value) : Except Failure Bool :=
  match Value.order? (.int usage) limit with
  | some (some o) => .ok (o != .lt)
  | some none => .ok false
  | none => .error (.kind (.unordered ">=" "int" limit.kind))

/-- When the requests that count today stop counting. -/
def resetOf (q : Quota) (p : Period) (today : Date) : Act (Option Moment) :=
  match p with
  | .weeklyRolling => do
    let window ← Act.ofResult (p.window today)
    let oldest ← Act.oldestUsage q.userId q.contentType window
    Act.ofResult (p.reset today oldest)
  | _ => Act.ofResult (p.reset today none)

/-- How far the quota of a user is used up; none where there is no quota. -/
def status (userId : Int) (contentType : Value) : Act (Option QuotaStatus) := do
  match ← Act.getQuota userId contentType with
  | none => return none
  | some q =>
    let today ← Act.today
    let p ← Act.ofResult (periodOf q.period)
    let window ← Act.ofResult (p.window today)
    let usage ← Act.countUsage userId contentType window
    let exceeded ← if q.bypass then pure false else Act.ofResult (reaches usage q.limit)
    let reset ← q.resetOf p today
    return some
      { period := q.period, limit := q.limit, usage, exceeded, reset, bypass := q.bypass }

/-- Whether another request would go beyond the limit. -/
def wouldExceed (userId : Int) (contentType : Value) : Act Bool := do
  return (← status userId contentType).any QuotaStatus.exceeded

def leftOf (limit : Value) (usage : Nat) : Except Failure Value :=
  match limit with
  | .int n => .ok (.int (max 0 (n - usage)))
  | .bool b => .ok (.int (max 0 ((if b then 1 else 0) - (usage : Int))))
  | .real x => .ok (.int (max 0 (x.truncate?.getD 0 - usage)))
  | v => .error (.kind (.unordered "-" v.kind "int"))

/-- How many requests the user may still make; null where there is no limit. -/
def remaining (userId : Int) (contentType : Value) : Act Value := do
  match ← status userId contentType with
  | none => return .null
  | some s => if s.bypass then return .null else Act.ofResult (leftOf s.limit s.usage)

/-- How close usage has come to a limit. -/
def warningLevel (usage : Nat) (limit : Value) : String :=
  match limit.wholeNumber? with
  | some n =>
    if n ≤ 0 || n ≤ usage then "danger"
    else if 4 * n ≤ 5 * (usage : Int) then "warning"
    else "none"
  | none => "none"

/-- A quota that does not limit anything, as users are shown it. -/
def unlimited (status : Value) (text : String) : Value :=
  .map [("status", status), ("displayText", .text text), ("warningLevel", .text "none")]

/-- How far a quota is used up, in words. -/
def describe (s : QuotaStatus) : Value :=
  if s.bypass then unlimited s.encode "Unlimited (quota bypass enabled)"
  else
    let resets := (s.reset.map fun t => " (resets " ++ t.date.text ++ ")").getD ""
    .map [
      ("status", s.encode),
      ("displayText", .text (toString s.usage ++ "/" ++ s.limit.display ++ " used" ++ resets)),
      ("warningLevel", .text (warningLevel s.usage s.limit))]

/-- How far the quota of a user is used up, in words. -/
def formatted (userId : Int) (contentType : Value) : Act Value := do
  match ← status userId contentType with
  | none => return unlimited .null "No quota configured"
  | some s => return describe s

/-- Counts a request of today. -/
def recordUsage (userId : Int) (contentType : Value) : Act Unit := do
  Act.putUsage userId contentType (← Act.today)

/-- Stores a quota after a check. -/
def set (q : Quota) : Act Unit := do
  Act.ofResult q.check
  Act.putQuota q

/-- Drops the requests counted more than `days` days ago. -/
def cleanup (days : Int) : Act Nat := do
  match (← Act.today).addDays? (-days) with
  | none => throw .outOfRange
  | some cutoff =>
    let removed ← Act.dropUsageBefore cutoff
    if removed ≠ 0 then
      Act.info ("Removed " ++ toString removed ++ " quota usage rows older than " ++ cutoff.text)
    return removed

/-- Days after which counted requests are dropped unless configured otherwise. -/
def defaultRetentionDays : Int := 90

/-- The reason that a status gives for asking for approval. -/
def exceededReason (s : QuotaStatus) : String :=
  let period := String.ofList (s.period.display.toList.map fun c => if c = '_' then ' ' else c)
  Text.capitalize period ++ " quota exceeded (" ++ toString s.usage ++ "/" ++ s.limit.display ++ ")"

end Quota

end Watchgate
