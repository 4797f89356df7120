import Watchgate.Content.Context
import Watchgate.Calendar.Moment

/-!
# Quotas

A quota limits how many requests of one type of content a user may make within a period: a day, the
last seven days, or a calendar month. The *window* of a period is the days that are counted today;
the *reset* is the first moment at which requests counted today no longer count.
-/

namespace Watchgate

open Calendar

/-- The periods of quotas. -/
inductive Period where
  | daily
  /-- Today and the six days before. -/
  | weeklyRolling
  /-- The calendar month up to today. -/
  | monthly
deriving DecidableEq, Repr

namespace Period

def word : Period → String
  | .daily => "daily"
  | .weeklyRolling => "weekly_rolling"
  | .monthly => "monthly"

def ofValue? : Value → Option Period
  | .text "daily" => some .daily
  | .text "weekly_rolling" => some .weeklyRolling
  | .text "monthly" => some .monthly
  | _ => none

end Period

/-- Days, both ends included. -/
structure Window where
  start : Date
  stop : Date
deriving DecidableEq, Repr

/-- Whether a day lies in the window. -/
def Window.contains (w : Window) (d : Date) : Bool :=
  w.start.ordinal ≤ d.ordinal && d.ordinal ≤ w.stop.ordinal

namespace Period

/-- The days that count today. -/
def window (p : Period) (today : Date) : Except Failure Window :=
  match p with
  | .daily => .ok ⟨today, today⟩
  | .weeklyRolling =>
    match today.addDays? (-6) with
    | some start => .ok ⟨start, today⟩
    | none => .error .outOfRange
  | .monthly => .ok ⟨today.firstOfMonth, today⟩

/-- When requests counted today stop counting; `oldest` is the day of the oldest counted one, which
only a rolling period asks for. -/
def reset (p : Period) (today : Date) (oldest : Option Date) : Except Failure (Option Moment) :=
  match p with
  | .daily =>
    match today.addDays? 1 with
    | some d => .ok (some (.ofDate d))
    | none => .error .outOfRange
  | .monthly =>
    match today.firstOfNextMonth? with
    | some d => .ok (some (.ofDate d))
    | none => .error (.value (.year 10000))
  | .weeklyRolling =>
    match oldest with
    | none => .ok none
    | some d =>
      match d.addDays? 7 with
      | some d => .ok (some (.ofDate d))
      | none => .error .outOfRange

end Period

/-- The period that a value names, for a quota that is in force. -/
def periodOf (v : Value) : Except Failure Period :=
  match Period.ofValue? v with
  | some p => .ok p
  | none => .error (.quota (.unknownPeriod v.display))

/-- A limit on the requests of a user. -/
structure Quota where
  userId : Int
  contentType : Value
  period : Value
  limit : Value
  /-- Whether the quota only counts and never stops a request. -/
  bypass : Bool := false
deriving Inhabited

namespace Quota

def highestLimit : Int := 1000

/-- Whether a limit is an integer from 0 to the highest one. -/
def isLimit : Value → Bool
  | .int n => 0 ≤ n && n ≤ highestLimit
  | _ => false

/-- Refuses a quota with an unknown type of content, period or limit. -/
def check (q : Quota) : Except Failure Unit :=
  if !q.contentType.isOneOf contentTypes then
    .error (.quota (.contentType q.contentType.display))
  else if (Period.ofValue? q.period).isNone then .error (.quota (.period q.period.display))
  else if !isLimit q.limit then .error (.quota .limit)
  else .ok ()

def encode (q : Quota) : Value :=
  .map [
    ("userId", .int q.userId),
    ("contentType", q.contentType),
    ("quotaType", q.period),
    ("quotaLimit", q.limit),
    ("bypassApproval", .bool q.bypass)]

end Quota

/-- A request that counts against quotas. -/
structure Usage where
  userId : Int
  contentType : String
  date : Date
deriving DecidableEq, Repr

/-- How far a quota is used up. -/
structure QuotaStatus where
  period : Value
  limit : Value
  /-- The requests that count today. -/
  usage : Nat
  /-- Whether another request would go beyond the limit. -/
  exceeded : Bool
  /-- When requests stop counting. -/
  reset : Option Moment
  /-- Whether the quota never stops a request. -/
  bypass : Bool

namespace QuotaStatus

def encode (s : QuotaStatus) : Value :=
  .map [
    ("quotaType", s.period),
    ("quotaLimit", s.limit),
    ("currentUsage", .int s.usage),
    ("exceeded", .bool s.exceeded),
    ("resetDate", Moment.valueOf s.reset),
    ("bypassApproval", .bool s.bypass)]

end QuotaStatus

end Watchgate
