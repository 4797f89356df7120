import Watchgate.Session.Tables
import Watchgate.Media.Found
import Watchgate.Json.Reader
import Watchgate.Text.CaseMap

/-!
# Talking to media servers

A client sends calls to one instance. An error status, a broken exchange and a body that is no JSON
are failures. Quality profiles and tags may be given by id or by name: names are looked up at the
server, and labels that it does not know are created there.
-/

namespace Watchgate

/-- Sends a call and takes the reply. -/
def Act.send (c : Call) : Act Reply := fun s =>
  let (reply, network) := s.network.reply (Network.key c)
  (.ok reply, { s with network, calls := s.calls ++ [c] })

namespace Client

/-- A text with its first letter as a capital. -/
def serviceName (c : Client) : String := Text.capitalize c.service

def headers (c : Client) (isPost : Bool) : Entries :=
  [("accept", .text "application/json"), ("X-Api-Key", c.apiKey)]
    ++ if isPost then [("Content-Type", .text "application/json")] else []

/-- The body of a reply, unless it is a failure. -/
def bodyOf (url : String) : Reply → Except Failure String
  | .answer status phrase body =>
    if 400 ≤ status && status < 600 then .error (.exchange (.status status phrase url)) else .ok body
  | .broken kind reason => .error (.exchange (.broken kind reason))
  | .failed e => .error e

def noteFailure (c : Client) (call : Call) : Failure → Act Unit
  | .exchange fault =>
    Act.error (c.serviceName ++ " API error during " ++ call.method ++ " " ++ call.url ++ ": "
      ++ fault.message)
  | _ => return ()

def readBody (body : String) : Except Failure Value :=
  match Json.read body with
  | .ok v => .ok v
  | .error (.json fault) => .error (.exchange (.body fault))
  | .error e => .error e

/-- Sends a call and reads the answer. -/
def request (c : Client) (call : Call) : Act Value := do
  let reply ← Act.send call
  match bodyOf call.url reply with
  | .ok body => Act.ofResult (readBody body)
  | .error e =>
    c.noteFailure call e
    throw e

def fetch (c : Client) (path : String) (params : Option Entries) : Act Value :=
  c.request { method := "GET", url := c.baseUrl ++ path, params, headers := some (c.headers false) }

def submit (c : Client) (path : String) (body : Value) : Act Value :=
  c.request {
    method := "POST", url := c.baseUrl ++ path, body := some body
    headers := some (c.headers true) }

def qualityProfiles (c : Client) : Act Value := do
  return (← c.fetch "/qualityprofile" none).orElse (.list [])

def tags (c : Client) : Act Value := do
  return (← c.fetch "/tag" none).orElse (.list [])

def createTag (c : Client) (label : Value) : Act Value :=
  c.submit "/tag" (.map [("label", label)])

def addMovie (c : Client) (payload : Value) : Act Value := c.submit "/movie" payload

def addShow (c : Client) (payload : Value) : Act Value := c.submit "/series" payload

/-- A name as names are compared. -/
def normalName (v : Value) : String := Text.casefold (Text.trim v.display)

def profileNamed? (name : String) : List Value → Except Failure (Option Value)
  | [] => .ok none
  | v :: vs => do
    let entries ← v.toEntries
    if normalName ((Entries.get? entries "name").getD (.text "")) = name then
      return some (Entries.get entries "id")
    profileNamed? name vs

/-- Whether a profile or tag is given by its id. -/
def isById : Value → Bool
  | .int _ => true
  | .bool _ => true
  | v => Text.allDigits v.display

/-- The id in a profile or tag that is given by its id. -/
def idOf : Value → Except Failure Int
  | .int n => .ok n
  | .bool b => .ok (if b then 1 else 0)
  | v => Value.integerOfText v.display

def resolveProfile (c : Client) (profile : Value) : Act Value := do
  match profile with
  | .null => return .null
  | v =>
    if isById v then return .int (← Act.ofResult (idOf v))
    let profiles ← c.qualityProfiles
    match ← Act.ofResult (profiles.toItems.bind (profileNamed? (normalName v))) with
    | some id => return id
    | none => throw (.profileNotFound v.display c.service)

/-- The ids of the tags that a server knows, by label; of two equal labels the last counts. -/
def tagIds : List Value → Except Failure Entries
  | [] => .ok []
  | v :: vs => do
    let entries ← v.toEntries
    let label := Text.casefold ((Entries.get? entries "label").getD (.text "")).display
    return (label, Entries.get entries "id") :: (← tagIds vs)

/-- The id of a label: a known one, or that of a tag created for it. -/
def resolveLabel (c : Client) (known : Entries) (label : Value) : Act Value := do
  match Entries.get known (Text.casefold label.display) with
  | .null =>
    let created ← c.createTag (.text label.display)
    let entries ← Act.ofResult created.toEntries
    return Entries.get entries "id"
  | id => return id

/-- The ids of tags: first those given by id, then those given by label. -/
def resolveTags (c : Client) (tags : List Value) : Act (List Value) := do
  let labels := tags.filter (!isById ·)
  let ids ← Act.ofResult ((tags.filter isById).mapM idOf)
  let ids := ids.map Value.int
  if labels.isEmpty then return ids
  let listed ← c.tags
  let known ← Act.ofResult (listed.toItems.bind tagIds)
  return ids ++ (← labels.mapM (c.resolveLabel (Entries.ofPairs known)))

def findMovie (c : Client) (id : Value) : Act (Option Found) := do
  let data ← c.fetch "/movie/lookup/tmdb" (some [("tmdbId", id)])
  let data := match data with
    | .list items => items.headD .null
    | v => v
  if data.truthy then return some (← Act.ofResult (Found.decodeMovie data))
  return none

def firstResult : Value → Except Failure Value
  | .list items => .ok (items.headD .null)
  | .text s => .ok (.text (String.ofList (s.toList.take 1)))
  | .map _ => .error (.missingKey (.int 0))
  | v => .error (.kind (.notSubscriptable v.kind))

def findShow (c : Client) (id : Value) : Act (Option Found) := do
  let results ← c.fetch "/series/lookup" (some [("term", .text ("tvdb:" ++ id.display))])
  if results.truthy then
    let first ← Act.ofResult (firstResult results)
    return some (← Act.ofResult (Found.decodeShow first))
  return none

end Client

namespace Act

/-- The client of an instance; it keeps the address and key with which it was first made. -/
def clientFor (i : Instance) : Act Client := fun s =>
  match s.clients.find? fun c => c.id = i.id && Store.Column.same c.type i.type with
  | some c => (.ok c, s)
  | none =>
    let c : Client := {
      id := i.id
      type := i.type
      service := if i.servesMovies then "radarr" else "sonarr"
      baseUrl := Instance.dropSlashes i.baseUrl ++ "/api/v3"
      apiKey := i.apiKey }
    (.ok c, { s with clients := s.clients ++ [c] })

/-- The client for searches at instances of a type: that of the default instance, else of the first
one in use. -/
def searchClient (type : String) : Act (Option Client) := do
  let candidate ← match ← getDefaultInstance type with
    | some i => pure (some i)
    | none => do
      let all ← getInstances (.text type)
      pure (all.find? Instance.enabled)
  match candidate with
  | some i => if i.baseUrl.isEmpty then return none else return some (← clientFor i)
  | none => return none

end Act

end Watchgate
