import Watchgate.Session.Basic
import Watchgate.Store.Quotas
import Watchgate.Store.Requests

/-!
# The store in a session

Each operation of the store as an act. An operation that is out of order fails before it does
anything. An operation that fails leaves the store as it was; a refusal by the database itself is
noted.
-/

namespace Watchgate

open Calendar

/-- Whether an outage concerns an operation with a first argument. -/
def Outage.concerns (o : Outage) (call : StoreCall) (first : Option Value) : Bool :=
  o.call = call &&
    match o.only, first with
    | none, _ => true
    | some v, some w => v.agrees w
    | some _, none => false

/-- How an operation fails, if it is out of order. -/
def Session.outage? (s : Session) (call : StoreCall) (first : Option Value) : Option Failure :=
  (s.outages.find? (·.concerns call first)).map Outage.failure

/-- The session after a failure of the store. -/
def Session.afterFailure (s : Session) : Failure → Session
  | .storage .database => { s with journal := s.journal ++ [⟨.error, "Database error:"⟩] }
  | _ => s

namespace Act

variable {α : Type}

/-- An operation that may change the store. -/
def write (call : StoreCall) (first : Option Value) (f : Store → Except Failure (α × Store)) :
    Act α := fun s =>
  match s.outage? call first with
  | some e => (.error e, s)
  | none =>
    match f s.store with
    | .ok (a, store) => (.ok a, { s with store })
    | .error e => (.error e, s.afterFailure e)

/-- An operation that only reads the store. -/
def read (call : StoreCall) (first : Option Value) (f : Store → Except Failure α) : Act α := fun s =>
  match s.outage? call first with
  | some e => (.error e, s)
  | none =>
    match f s.store with
    | .ok a => (.ok a, s)
    | .error e => (.error e, s.afterFailure e)

def putInstance (i : Instance) : Act Unit := write .putInstance none (Store.putInstance i)

def getInstance (id : Int) (type : Value) : Act (Option Instance) :=
  read .getInstance (some (.int id)) (Store.getInstance id type)

def getInstances (type : Value) : Act (List Instance) :=
  read .getInstances (some type) (Store.getInstances type)

/-- The instance of a type for content without a rule. -/
def getDefaultInstance (type : String) : Act (Option Instance) :=
  read .getDefaultInstance (some (.text type)) (Store.getDefaultInstance type)

def putUser (id : Int) (name requiresApproval : Value) : Act Unit :=
  write .putUser none (Store.putUser id name requiresApproval)

def getUser (id : Int) : Act (Option User) :=
  read .getUser (some (.int id)) (Store.getUser id)

def getUsers : Act (List User) :=
  read .getUsers none fun s => .ok s.getUsers

def putRule (r : Rule) : Act Unit := write .putRule none (Store.putRule r)

def getRules : Act (List Rule) := read .getRules none Store.getRules

def getRulesOfType (type : Value) : Act (List Rule) :=
  read .getRulesOfType (some type) (Store.getRulesOfType type)

def getRule (id : Int) : Act (Option Rule) :=
  read .getRule (some (.int id)) (Store.getRule id)

/-- Drops all rules but those with the given ids. -/
def keepRules (ids : List Int) : Act Nat :=
  write .keepRules (some (.list (ids.map .int))) (Store.keepRules ids)

def putQuota (q : Quota) : Act Unit := write .putQuota none (Store.putQuota q)

def getQuota (userId : Int) (contentType : Value) : Act (Option Quota) :=
  read .getQuota (some (.int userId)) (Store.getQuota userId contentType)

def getQuotas (userId : Int) : Act (List Quota) :=
  read .getQuotas (some (.int userId)) (Store.getQuotas userId)

def dropQuota (userId : Int) (contentType : Value) : Act Bool :=
  write .dropQuota (some (.int userId)) (Store.dropQuota userId contentType)

def putUsage (userId : Int) (contentType : Value) (date : Date) : Act Unit :=
  write .putUsage (some (.int userId)) (Store.putUsage userId contentType date)

def countUsage (userId : Int) (contentType : Value) (w : Window) : Act Nat :=
  read .countUsage (some (.int userId)) (Store.countUsage userId contentType w)

/-- The day of the oldest request that counts. -/
def oldestUsage (userId : Int) (contentType : Value) (w : Window) : Act (Option Date) :=
  read .oldestUsage (some (.int userId)) (Store.oldestUsage userId contentType w)

def dropUsageBefore (day : Date) : Act Nat :=
  write .dropUsage none fun s => .ok (s.dropUsageBefore day)

def addRequest (n : Store.NewRequest) : Act Request := fun s =>
  write .addRequest none (Store.addRequest n s.now) s

def getRequest (id : Int) : Act (Option Request) :=
  read .getRequest (some (.int id)) (Store.getRequest id)

def getRequestFor (userId : Int) (key : Value) : Act (Option Request) :=
  read .getRequestFor (some (.int userId)) (Store.getRequestFor userId key)

/-- Moves an approval request out of `pending`. -/
def transition (id : Int) (t : Store.Transition) : Act Bool := fun s =>
  write .transition (some (.int id)) (Store.transition id t s.now) s

/-- Marks the waiting requests whose time ran out before a moment. -/
def expireRequests (t : Moment) : Act Nat := fun s =>
  write .expireRequests none (fun store => .ok (store.expireRequests t s.now)) s

def dropRequest (id : Int) : Act Bool :=
  write .dropRequest (some (.int id)) (Store.dropRequest id)

/-- Drops the expired requests last touched before a moment. -/
def dropExpired (before : Moment) : Act Nat :=
  write .dropExpired none fun s => .ok (s.dropExpired before)

def pendingRequests (t : Moment) (limit offset : Int) : Act (List Request) :=
  read .pendingRequests none (Store.pendingRequests t limit offset)

def requestHistory (f : Store.RequestFilter) (limit offset : Int) : Act (List Request) :=
  read .requestHistory none (Store.requestHistory f limit offset)

def countRequests (userId : Option Int) : Act (Status → Nat) :=
  read .countRequests none (Store.countRequests userId)

end Act

end Watchgate
