import Watchgate.Media.Client

/-!
# Adding content to instances

A placement is carried out by handing the content in at its instance; settings that the placement
leaves open are those of the instance. In a dry run nothing is sent.
-/

namespace Watchgate

namespace Acquire

def searches (p : Placement) (i : Instance) : Bool :=
  match p.searchOnAdd with
  | .null => i.searchOnAdd
  | v => v.truthy

def moviePayload (item : Item) (p : Placement) (i : Instance) (id : Int) (profile : Value)
    (tags : Value) : Value :=
  .map [
    ("title", item.title),
    ("tmdbId", .int id),
    ("qualityProfileId", profile),
    ("rootFolderPath", p.rootFolder.orElse i.rootFolder),
    ("monitored", .bool true),
    ("minimumAvailability", p.minimumAvailability.orElse i.minimumAvailability),
    ("tags", tags),
    ("addOptions", .map [("searchForMovie", .bool (searches p i))])]

def showPayload (item : Item) (p : Placement) (i : Instance) (id : Int) (profile : Value)
    (tags : Value) : Value :=
  .map [
    ("title", item.title),
    ("tvdbId", .int id),
    ("qualityProfileId", profile),
    ("rootFolderPath", p.rootFolder.orElse i.rootFolder),
    ("monitored", .bool true),
    ("seasonFolder", .bool true),
    ("seriesType", p.seriesType.orElse i.seriesType),
    ("tags", tags),
    ("addOptions", .map [
      ("monitor", p.seasonMonitoring.orElse i.seasonMonitoring),
      ("searchForMissingEpisodes", .bool (searches p i))])]

def guidType (i : Instance) : String := if i.servesMovies then "tmdb" else "tvdb"

/-- What is handed in; none where the item lacks the identifier. -/
def payload (item : Item) (p : Placement) (i : Instance) (profile : Value) (tags : Value) :
    Except Failure (Option Value) := do
  match ← item.guidId (guidType i) with
  | none => return none
  | some id =>
    return some (if i.servesMovies then moviePayload item p i id profile tags
      else showPayload item p i id profile tags)

def profileOf (p : Placement) (i : Instance) : Value :=
  match p.qualityProfile with
  | .null => i.qualityProfile
  | v => v

def tagsOf (p : Placement) (i : Instance) : List Value :=
  if p.tags.isEmpty then i.tags else p.tags

/-- Notes that nothing can be added. -/
def cannot (item : Item) (reason : String) : Act Bool := do
  Act.error ("Cannot add '" ++ item.title.display ++ "': " ++ reason)
  return false

def dryRun (item : Item) (p : Placement) (i : Instance) : Act Bool := do
  Act.warning ("[DRY RUN] Would add '" ++ item.title.display ++ "' to " ++ i.type.display ++ " '"
    ++ i.name.display ++ "' (profile=" ++ (profileOf p i).display ++ " root='"
    ++ (p.rootFolder.orElse i.rootFolder).display ++ "' tags="
    ++ (Value.list (tagsOf p i)).display ++ ")")
  return true

def handIn (item : Item) (p : Placement) (i : Instance) (c : Client) : Act Bool := do
  let profile ← c.resolveProfile (profileOf p i)
  let tags ← c.resolveTags (tagsOf p i)
  match ← Act.ofResult (payload item p i profile (.list tags)) with
  | none => cannot item ("no " ++ guidType i ++ " GUID")
  | some body =>
    let _ ← if i.servesMovies then c.addMovie body else c.addShow body
    Act.info ("Added '" ++ item.title.display ++ "' to " ++ i.type.display ++ " '"
      ++ i.name.display ++ "'")
    return true

/-- Failures that only show that an instance did not take the content. -/
def isRefusal : Failure → Bool
  | .exchange _ => true
  | .profileNotFound _ _ => true
  | _ => false

/-- An attempt whose refusal is noted. -/
def tryHandIn (item : Item) (i : Instance) (x : Act Bool) : Act Bool :=
  tryCatch x fun e =>
    if isRefusal e then do
      Act.error ("Failed to add '" ++ item.title.display ++ "' to " ++ i.name.display ++ ": "
        ++ e.message)
      return false
    else throw e

/-- Carries out a placement and says whether the instance took the content. -/
def acquire (isDryRun : Bool) (item : Item) (p : Placement) : Act Bool := do
  match ← Act.getInstance p.instanceId p.instanceType with
  | none =>
    cannot item ("instance " ++ Number.integerText p.instanceId ++ " is missing or disabled")
  | some i =>
    if !i.enabled then
      cannot item ("instance " ++ Number.integerText p.instanceId ++ " is missing or disabled")
    else if isDryRun then dryRun item p i
    else do
      let client ← Act.clientFor i
      tryHandIn item i (handIn item p i client)

end Acquire

end Watchgate
