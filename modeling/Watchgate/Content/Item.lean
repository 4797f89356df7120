import Watchgate.Content.Metadata
import Watchgate.Text.CaseMap

/-!
# Items

A piece of content that somebody asked for: its title, its identifiers such as `tmdb:603`, its
genres, and what else is known about it.
-/

namespace Watchgate

open Text

/-- A piece of content. -/
structure Item where
  title : Value
  /-- Identifiers, trimmed, none empty and none twice. -/
  guids : List String := []
  genres : List Value := []
  metadata : Option Metadata := none
deriving Inhabited

namespace Item

/-- The identifiers of a list: trimmed texts, the empty ones and repetitions left out. -/
def cleanGuids (vs : List Value) : List String :=
  vs.foldl (fun seen v =>
    let guid := trim v.display
    if guid.isEmpty || seen.contains guid then seen else seen ++ [guid]) []

def decode (data : Value) : Except Failure Item := do
  let entries ← data.toEntries
  let guids ← (Entries.get entries "guids").toItemsOrNone
  let metadata ← match Entries.get entries "metadata" with
    | .map inner => (Metadata.decode (.map inner)).map some
    | _ => .ok none
  return {
    title := (Entries.get entries "title").orElse (.text "Unknown Title")
    guids := cleanGuids guids
    genres := (Entries.get entries "genres").toListOfOne
    metadata }

def encode (item : Item) : Value :=
  .map [
    ("title", item.title),
    ("guids", .list (item.guids.map .text)),
    ("genres", .list item.genres),
    ("metadata", (item.metadata.map Metadata.encode).getD .null)]

/-- What follows the type in an identifier of that type. -/
def guidBody? (type : String) (guid : String) : Option String :=
  let marker := type ++ ":"
  if marker.toList.isPrefixOf (lower guid).toList then
    some (trim (String.ofList (guid.toList.drop marker.length)))
  else none

/-- The number in the first identifier of a type that holds digits only. Digits that cannot stand in
a number make it fail. -/
def guidId (item : Item) (type : String) : Except Failure (Option Int) :=
  match (item.guids.filterMap (guidBody? type)).find? allDigits with
  | some body => (Value.integerOfText body).map some
  | none => .ok none

def withMetadata (item : Item) (m : Metadata) : Item :=
  { item with metadata := some m }

end Item

end Watchgate
