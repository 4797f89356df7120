import Watchgate.Value.Reading

/-!
# Contexts of a submission

Who asks for an item, and how: the type of content, the users it is attributed to, the key under
which requests for it are known, and whether it is part of a synchronisation with an instance.
-/

namespace Watchgate

/-- Nothing, a single thing or a list of things. -/
inductive OneOrMany (α : Type) where
  | none
  | one (a : α)
  | many (as : List α)
deriving Inhabited, Repr

def OneOrMany.toList {α : Type} : OneOrMany α → List α
  | .none => []
  | .one a => [a]
  | .many as => as

/-- How a submission reaches the service. -/
structure Context where
  /-- Movie or show, as it was given. -/
  contentType : Value
  userId : OneOrMany Int := .none
  userName : OneOrMany Value := .none
  itemKey : Value := .null
  /-- Whether this is part of a synchronisation. -/
  syncing : Bool := false
  /-- The instance that is synchronised. -/
  syncTarget : Option Int := none
deriving Inhabited

/-- The type of instance for a type of content. -/
def targetTypeFor (contentType : Value) : String :=
  match contentType with
  | .text "movie" => "radarr"
  | _ => "sonarr"

/-- The type of content of a type of instance. -/
def contentTypeFor (targetType : Value) : String :=
  match targetType with
  | .text "radarr" => "movie"
  | _ => "show"

def contentTypes : List String := ["movie", "show"]

namespace Context

def decodeIds : Value → Except Failure (OneOrMany Int)
  | .null => .ok .none
  | .list items => (items.mapM Value.toInteger).map .many
  | v => v.toInteger.map .one

/-- Reads user names; those in a list become texts. -/
def decodeNames : Value → OneOrMany Value
  | .null => .none
  | .list items => .many (items.map fun v => .text v.display)
  | v => .one v

def decode (data : Value) : Except Failure Context := do
  let entries ← data.toEntries
  let userId ← decodeIds (Entries.get entries "userId")
  let syncTarget ← match Entries.get entries "syncTargetInstanceId" with
    | .null => .ok none
    | v => v.toInteger.map some
  return {
    contentType := (Entries.get? entries "contentType").getD (.text "")
    userId
    userName := decodeNames (Entries.get entries "userName")
    itemKey := Entries.get entries "itemKey"
    syncing := (Entries.get entries "syncing").truthy
    syncTarget }

/-- The type of instance that serves the content. -/
def targetType (c : Context) : String := targetTypeFor c.contentType

def knowsContentType (c : Context) : Bool := c.contentType.isOneOf contentTypes

/-- The ids of the users; zero names nobody. -/
def userIds (c : Context) : List Int := c.userId.toList.filter (· != 0)

/-- The names of the users that are not empty. -/
def userNames (c : Context) : List Value := c.userName.toList.filter Value.truthy

/-- The user that requests are attributed to. -/
def primaryUserId (c : Context) : Option Int := c.userIds.head?

def primaryUserName (c : Context) : Option Value := c.userNames.head?

end Context

end Watchgate
