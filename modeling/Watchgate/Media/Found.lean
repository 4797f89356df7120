import Watchgate.Content.Metadata

/-!
# What a media server finds

The answers of the servers to a search by identifier, and the metadata they stand for.
-/

namespace Watchgate

/-- A movie or show that a server found. -/
structure Found where
  title : Value
  externalId : Value
  year : Value
  language : Value
  certification : Value
  genres : List Value
  seasons : List Int := []
deriving Inhabited

namespace Found

def languageName : Value → Value
  | .map entries => (Entries.get entries "name").orElse .null
  | v => v.orElse .null

/-- Reads what both kinds of content have. -/
def decodeWith (idKey : String) (entries : Entries) : Except Failure Found := do
  let genres ← (Entries.get entries "genres").toItemsOrNone
  return {
    title := (Entries.get? entries "title").getD (.text "")
    externalId := Entries.get entries idKey
    year := (Entries.get entries "year").orElse .null
    language := languageName (Entries.get entries "originalLanguage")
    certification := (Entries.get entries "certification").orElse .null
    genres }

def decodeMovie (data : Value) : Except Failure Found := do
  decodeWith "tmdbId" (← data.toEntries)

def decodeShow (data : Value) : Except Failure Found := do
  let entries ← data.toEntries
  let found ← decodeWith "tvdbId" entries
  let seasons ← seasonNumbers (Entries.get entries "seasons")
  return { found with seasons }

/-- What is common to both kinds of content. -/
def commonEntries (f : Found) (idKey : String) : Entries :=
  [("title", f.title), (idKey, f.externalId), ("year", f.year), ("originalLanguage", f.language),
    ("certification", f.certification), ("genres", .list f.genres)]

def encodeMovie (f : Found) : Value := .map (f.commonEntries "tmdbId")

def encodeShow (f : Found) : Value :=
  .map (f.commonEntries "tvdbId" ++ [("seasons", .list (f.seasons.map .int))])

def toMetadata (f : Found) : Metadata where
  year := f.year
  language := f.language
  certification := f.certification
  genres := f.genres
  seasons := f.seasons

end Found

end Watchgate
