import Watchgate.Notice.Payload
import Watchgate.Media.Client

/-!
# Sending notices

Notices go out only where a key of the notification service is configured. A notice that is not
delivered is noted and changes nothing else; one that could not even be tried fails.
-/

namespace Watchgate

/-- The account at the notification service. -/
structure Notifier where
  apiKey : Value := .null
  /-- The channel in which notices appear. -/
  channel : Value := .null
deriving Inhabited

namespace Notifier

/-- The address that notices are sent to. -/
def url (n : Notifier) : String :=
  "https://notifiarr.com/api/v1/notification/passthrough/" ++ n.apiKey.display

/-- Sends a notice and says whether it was taken. -/
def send (n : Notifier) (payload : Value) : Act Bool := do
  if !n.apiKey.truthy then return false
  match ← Act.send { method := "POST", url := n.url, body := some payload } with
  | .failed e => throw e
  | .broken _ reason =>
    Act.error ("Notifiarr passthrough exception: " ++ reason)
    return false
  | .answer status _ body =>
    if status = 200 then
      Act.info "Notification sent via Notifiarr."
      return true
    Act.error ("Notifiarr passthrough failed " ++ Number.integerText status ++ ": " ++ body)
    return false

def required (n : Notifier) (r : Request) : Act Bool := do
  n.send (← Act.ofResult (Notice.payload r "Approval Required" n.channel))

def resolved (n : Notifier) (r : Request) : Act Bool := do
  let event := if r.status = .approved then "Request Approved" else "Request Rejected"
  n.send (← Act.ofResult (Notice.payload r event n.channel))

end Notifier

end Watchgate
