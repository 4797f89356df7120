import Watchgate.Failure

/-!
# Exchanges with other servers

A call is what is sent: method, address, and what goes with it. A reply is what comes back: a status
with a body, or nothing because the exchange broke off. A network holds the replies that each address
gives, in turn; the last one stays. An address without replies answers with status 404.
-/

namespace Watchgate

/-- What is sent to a server. -/
structure Call where
  method : String
  /-- The address without parameters. -/
  url : String
  params : Option Entries := none
  body : Option Value := none
  headers : Option Entries := none
deriving DecidableEq

def Call.encode (c : Call) : Value :=
  .map ([("method", .text c.method), ("url", .text c.url)]
    ++ (c.params.map fun e => ("params", .map e)).toList
    ++ (c.body.map fun v => ("json", v)).toList
    ++ (c.headers.map fun e => ("headers", .map e)).toList)

/-- What comes back. -/
inductive Reply where
  /-- A status, its reason phrase, and a body. -/
  | answer (status : Int) (phrase body : String)
  /-- The exchange broke off; `kind` names the way. -/
  | broken (kind reason : String)
  /-- The exchange could not even be tried. -/
  | failed (failure : Failure)
deriving DecidableEq, Inhabited

/-- The replies of other servers, by method and address. -/
abbrev Network := List (String × List Reply)

namespace Network

def key (c : Call) : String := c.method ++ " " ++ c.url

/-- The reply of an address that has none. -/
def unknown : Reply := .answer 404 "Scripted" "null"

/-- The next of some replies, and those that are left. -/
def next : List Reply → Reply × List Reply
  | [] => (unknown, [])
  | [r] => (r, [r])
  | r :: rs => (r, rs)

def reply (k : String) : Network → Reply × Network
  | [] => (unknown, [])
  | (k', rs) :: rest =>
    if k' = k then
      let (r, rs) := next rs
      (r, (k', rs) :: rest)
    else
      let (r, rest) := reply k rest
      (r, (k', rs) :: rest)

def set (n : Network) (k : String) (rs : List Reply) : Network :=
  (n.filter (·.1 ≠ k)) ++ [(k, rs)]

end Network

end Watchgate
