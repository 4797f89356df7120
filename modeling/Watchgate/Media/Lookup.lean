import Watchgate.Media.Client

/-!
# Looking up metadata

An item is looked up by its identifier: a movie by `tmdb` at a movie server, a show by `tvdb` at a
show server. When the server cannot be reached or finds nothing there is no metadata.
-/

namespace Watchgate.Lookup

/-- Failures of an exchange, or of reading what came back. -/
def isExchangeFailure : Failure → Bool
  | .exchange _ => true
  | .value _ => true
  | .json _ => true
  | .condition _ => true
  | _ => false

def search (isMovie : Bool) (c : Client) (id : Int) : Act (Option Found) :=
  if isMovie then c.findMovie (.int id) else c.findShow (.int id)

/-- A search whose failure is noted and finds nothing. The outer option tells a failure from an empty
answer. -/
def trySearch (title : Value) (x : Act (Option Found)) : Act (Option (Option Found)) :=
  tryCatch (some <$> x) fun e =>
    if isExchangeFailure e then do
      Act.error ("Metadata lookup failed for '" ++ title.display ++ "': " ++ e.message)
      return none
    else throw e

def metadata (item : Item) (contentType : Value) : Act (Option Metadata) := do
  let isMovie := contentType.isOneOf ["movie"]
  let id ← Act.ofResult (item.guidId (if isMovie then "tmdb" else "tvdb"))
  let client ← Act.searchClient (if isMovie then "radarr" else "sonarr")
  match id, client with
  | some id, some client =>
    match ← trySearch item.title (search isMovie client id) with
    | none => return none
    | some none =>
      Act.warning ("Metadata lookup returned nothing for '" ++ item.title.display ++ "'")
      return none
    | some (some found) => return some found.toMetadata
  | _, _ => return none

/-- The item with the metadata that was found, or as it was. Genres that the server does not know are
taken from the item. -/
def enrich (item : Item) (contentType : Value) : Act Item := do
  match ← metadata item contentType with
  | none => return item
  | some m =>
    let m := if m.genres.isEmpty && !item.genres.isEmpty then { m with genres := item.genres } else m
    return item.withMetadata m

end Watchgate.Lookup
