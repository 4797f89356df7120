import Watchgate.Value.Reading

/-!
# What is known about a piece of content

Year, original language, certification, genres and, for a show, the numbers of its seasons. Only
the season numbers have a fixed kind; the rest is kept as it was given, absent where it counts as
false.
-/

namespace Watchgate

/-- The season number of an entry of a list of seasons: the number itself, or the one that a mapping
names. -/
def seasonNumber? : Value → Option Int
  | .map entries => (Entries.get entries "seasonNumber").int?
  | v => v.int?

/-- The season numbers of a list of seasons. Entries without a proper number are left out. -/
def seasonNumbers (seasons : Value) : Except Failure (List Int) := do
  let items ← seasons.toItemsOrNone
  return items.filterMap seasonNumber?

/-- What is known about a piece of content. -/
structure Metadata where
  year : Value := .null
  language : Value := .null
  certification : Value := .null
  genres : List Value := []
  /-- The numbers of the seasons; none for a movie. -/
  seasons : List Int := []
deriving DecidableEq, Inhabited

namespace Metadata

/-- The year of a number: the integer part of a number that is not zero. -/
def yearOf : Value → Except Failure Value
  | .int n => .ok (if n = 0 then .null else .int n)
  | .bool b => .ok (if b then .int 1 else .null)
  | .real x => if x.isZero then .ok .null else (Value.toInteger (.real x)).map .int
  | _ => .ok .null

/-- Reads metadata. The language may be given by name or as a mapping that holds the name. -/
def decode (data : Value) : Except Failure Metadata := do
  let entries ← data.toEntries
  let language := (Entries.get? entries "originalLanguage").getD
    (Entries.get entries "original_language")
  let language := match language with
    | .map inner => Entries.get inner "name"
    | v => v
  let year ← yearOf (Entries.get entries "year")
  let seasons ← seasonNumbers (Entries.get entries "seasons")
  return {
    year
    language := language.orElse .null
    certification := (Entries.get entries "certification").orElse .null
    genres := (Entries.get entries "genres").toListOfOne
    seasons }

def encode (m : Metadata) : Value :=
  .map [
    ("year", m.year),
    ("originalLanguage", if m.language.truthy then .map [("name", m.language)] else .null),
    ("certification", m.certification),
    ("genres", .list m.genres),
    ("seasons", .list (m.seasons.map fun n => .map [("seasonNumber", .int n)]))]

end Metadata

end Watchgate
