import Watchgate.Routing.Placement

/-!
# Instances

The media servers to which content is added. Each comes with the settings that are used when a
placement leaves them open.
-/

namespace Watchgate

/-- A media server. -/
structure Instance where
  /-- The id, unique among the instances of one type. -/
  id : Int
  type : Value
  name : Value := .text ""
  /-- The address, without a slash at the end. -/
  baseUrl : String := ""
  apiKey : Value := .text ""
  /-- Quality profile, by id or by name. -/
  qualityProfile : Value := .null
  rootFolder : Value := .null
  /-- Tags, by id or by label. -/
  tags : List Value := []
  /-- Whether content without a rule goes here. -/
  isDefault : Bool := false
  enabled : Bool := true
  searchOnAdd : Bool := true
  seasonMonitoring : Value := .text "all"
  seriesType : Value := .text "standard"
  /-- From when on a movie counts as available. -/
  minimumAvailability : Value := .text "released"
deriving DecidableEq, Inhabited

namespace Instance

/-- A text without the slashes at its end. -/
def dropSlashes (s : String) : String :=
  String.ofList (s.toList.reverse.dropWhile (· = '/')).reverse

def decode (data : Value) (type : Value) : Except Failure Instance := do
  let idValue ← data.subscript "id"
  let id ← idValue.toInteger
  let entries ← data.toEntries
  let tags ← (Entries.get entries "tags").toItemsOrNone
  return {
    id
    type
    name := (Entries.get entries "name").orElse (.text (type.display ++ " " ++ idValue.display))
    baseUrl := dropSlashes ((Entries.get entries "base_url").orElse (.text "")).display
    apiKey := (Entries.get entries "api_key").orElse (.text "")
    qualityProfile := Entries.get entries "quality_profile"
    rootFolder := Entries.get entries "root_folder"
    tags
    isDefault := (Entries.get entries "is_default").truthy
    enabled := match Entries.get? entries "enabled" with
      | some (.bool false) => false
      | _ => true
    searchOnAdd := ((Entries.get? entries "search_on_add").getD (.bool true)).truthy
    seasonMonitoring := (Entries.get entries "season_monitoring").orElse (.text "all")
    seriesType := (Entries.get entries "series_type").orElse (.text "standard")
    minimumAvailability :=
      (Entries.get entries "minimum_availability").orElse (.text "released") }

/-- All fields by their names in a configuration. -/
def encode (i : Instance) : Value :=
  .map [
    ("id", .int i.id),
    ("type", i.type),
    ("name", i.name),
    ("base_url", .text i.baseUrl),
    ("api_key", i.apiKey),
    ("quality_profile", i.qualityProfile),
    ("root_folder", i.rootFolder),
    ("tags", .list i.tags),
    ("is_default", .bool i.isDefault),
    ("enabled", .bool i.enabled),
    ("search_on_add", .bool i.searchOnAdd),
    ("season_monitoring", i.seasonMonitoring),
    ("series_type", i.seriesType),
    ("minimum_availability", i.minimumAvailability)]

def servesMovies (i : Instance) : Bool := i.type.isOneOf ["radarr"]

def servesShows (i : Instance) : Bool := i.type.isOneOf ["sonarr"]

/-- The placement at the instance with its own settings. -/
def defaultPlacement (i : Instance) : Placement where
  instanceId := i.id
  instanceType := i.type
  qualityProfile := i.qualityProfile
  rootFolder := i.rootFolder
  tags := i.tags
  searchOnAdd := .bool i.searchOnAdd
  seasonMonitoring := if i.servesShows then i.seasonMonitoring else .null
  seriesType := if i.servesShows then i.seriesType else .null
  minimumAvailability := if i.servesMovies then i.minimumAvailability else .null

end Instance

end Watchgate
