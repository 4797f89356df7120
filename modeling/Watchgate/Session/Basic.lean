import Watchgate.Store.Basic
import Watchgate.Media.Exchange
import Watchgate.Criteria.Family

/-!
# Sessions

A session is everything that the service reads and changes while it works: the store, the clock, the
other servers, and the journal. An act runs in a session and ends with a value or with a failure; in
either case the session keeps what was done before.

The session also records each attempt to add content to an instance, with what came of it.

There is one clock. The days of quotas are days of local time, while requests and the store are dated in
universal time; both are read off the same clock, as where the local time is universal time.
-/

namespace Watchgate

open Calendar

/-- The operations of the store, by name. -/
inductive StoreCall where
  | putInstance | getInstance | getInstances | getDefaultInstance
  | putUser | getUser | getUsers
  | putRule | getRules | getRulesOfType | getRule | keepRules
  | putQuota | getQuota | getQuotas | dropQuota
  | putUsage | countUsage | oldestUsage | dropUsage
  | addRequest | getRequest | getRequestFor | transition | expireRequests | dropRequest
  | pendingRequests | requestHistory | countRequests | dropExpired
deriving DecidableEq, Repr

/-- An operation of the store that is out of order. -/
structure Outage where
  call : StoreCall
  /-- For which first argument; for any if none is named. -/
  only : Option Value := none
  failure : Failure

/-- A connection to an instance, made when the instance was first used. -/
structure Client where
  id : Int
  type : Value
  service : String
  baseUrl : String
  apiKey : Value
deriving Inhabited

/-- An attempt to add content to an instance. -/
structure Attempt where
  item : Item
  placement : Placement
  /-- Whether the instance took it; none if the attempt failed otherwise. -/
  accepted : Option Bool

/-- Everything that the service reads and changes. -/
structure Session where
  store : Store := {}
  /-- The clock, for local and for universal time alike. -/
  now : Moment
  /-- The operations of the store that are out of order. -/
  outages : List Outage := []
  network : Network := []
  /-- The calls made. -/
  calls : List Call := []
  clients : List Client := []
  attempts : List Attempt := []
  journal : List Entry := []

def Act (α : Type) : Type := Session → Except Failure α × Session

namespace Act

variable {α β : Type}

def ofValue (a : α) : Act α := fun s => (.ok a, s)

def fail (e : Failure) : Act α := fun s => (.error e, s)

/-- Goes on with the value, unless there was a failure. -/
def andThen (x : Act α) (f : α → Act β) : Act β := fun s =>
  match x s with
  | (.ok a, s) => f a s
  | (.error e, s) => (.error e, s)

instance : Monad Act where
  pure := ofValue
  bind := andThen

/-- Goes on after a failure; the session keeps what was done before it. -/
def recover (x : Act α) (f : Failure → Act α) : Act α := fun s =>
  match x s with
  | (.ok a, s) => (.ok a, s)
  | (.error e, s) => f e s

instance : MonadExceptOf Failure Act where
  throw := fail
  tryCatch := recover

/-- A result that does not depend on the session. -/
def ofResult (x : Except Failure α) : Act α := fun s => (x, s)

def ask (f : Session → α) : Act α := fun s => (.ok (f s), s)

def change (f : Session → Session) : Act Unit := fun s => (.ok (), f s)

/-- Writes an entry into the journal. -/
def note (level : Level) (text : String) : Act Unit :=
  change fun s => { s with journal := s.journal ++ [⟨level, text⟩] }

/-- Notes that something happened as planned. -/
def info (text : String) : Act Unit := note .info text

/-- Notes that something was passed over. -/
def warning (text : String) : Act Unit := note .warning text

def error (text : String) : Act Unit := note .error text

def ofJudgement (x : Criteria.Judgement α) : Act α := fun s =>
  (x.run.value, { s with journal := s.journal ++ x.run.notes })

def now : Act Moment := ask Session.now

/-- The present day, by the one clock of the session. -/
def today : Act Date := ask fun s => s.now.date

@[simp] theorem pure_apply (a : α) (s : Session) : (pure a : Act α) s = (.ok a, s) := rfl

@[simp] theorem throw_apply (e : Failure) (s : Session) :
    (throw e : Act α) s = (.error e, s) := rfl

theorem bind_apply (x : Act α) (f : α → Act β) (s : Session) :
    (x >>= f) s = match x s with
      | (.ok a, s) => f a s
      | (.error e, s) => (.error e, s) := rfl

theorem bind_of_ok {x : Act α} {f : α → Act β} {s s' : Session} {a : α} (h : x s = (.ok a, s')) :
    (x >>= f) s = f a s' := by
  rw [bind_apply, h]

theorem bind_of_error {x : Act α} {f : α → Act β} {s s' : Session} {e : Failure}
    (h : x s = (.error e, s')) : (x >>= f) s = (.error e, s') := by
  rw [bind_apply, h]

end Act

end Watchgate
