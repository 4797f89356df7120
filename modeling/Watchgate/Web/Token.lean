import Watchgate.Web.Message
import Watchgate.Service

/-!
# Tokens

Where a token is configured, a message has to carry it: in a header, or, for a submission, among the
headers that its body brings along.
-/

namespace Watchgate.Web

/-- The names under which the body of a submission may bring the token along. -/
def tokenNames : List String := ["X-Webhook-Token", "x-webhook-token"]

/-- The first value that counts as true under one of the names. -/
def firstTruthy (entries : Entries) (names : List String) : Value :=
  ((names.map (Entries.get entries)).find? Value.truthy).getD (.text "")

/-- The token in the headers that a body brings along. -/
def tokenInBody (body : Value) : Except Failure String :=
  match body.get "headers" with
  | .map headers =>
    match firstTruthy headers tokenNames with
    | .text s => .ok (Text.trim s)
    | v => .error (.noAttribute ("'" ++ v.kind ++ "' object") "strip")
  | _ => .ok ""

def tokenOf (m : Message) (body : Value) : Except Failure String :=
  let sent := Text.trim ((m.header? "X-Webhook-Token").getD "")
  if sent.isEmpty then tokenInBody body else .ok sent

def isAscii (s : String) : Bool := s.toList.all fun c => c.toNat < 128

/-- Whether two tokens are the same; only ASCII ones can be compared. -/
def sameToken (a b : String) : Except Failure Bool :=
  if isAscii a && isAscii b then .ok (a = b) else .error (.kind .notAscii)

/-- Whether a message may pass. -/
def isAuthorised (service : Service) (m : Message) (body : Value) : Except Failure Bool := do
  if !service.token.truthy then return true
  let sent ← tokenOf m body
  if sent.isEmpty then return false
  sameToken sent service.token.display

end Watchgate.Web
