import Watchgate.Command.Arguments
import Watchgate.Command.Threshold
import Watchgate.Config.Load
import Watchgate.Service

/-!
# Running a task

What a command line leads to. A task that cannot be done ends with status 1 and says why in the
journal; words that make no sense, an unknown threshold and a token of negative size are failures of the
call itself. Serving begins with the configuration in the store, and the report holds what to serve with.
The address of the database names memory or a file, which can be used if its folder is there.
-/

namespace Watchgate

namespace Store

/-- Where a database is. -/
inductive Location where
  | memory
  | file (path : String)
deriving DecidableEq, Repr

def schemes : List String := ["sqlite://", "sqlite+pysqlite://"]

/-- The place that an address names behind its beginning; what follows a question mark is ignored. -/
def Location.ofRest? (rest : String) : Option Location :=
  match rest.toList.takeWhile (· ≠ '?') with
  | [] => some .memory
  | ['/'] => some .memory
  | '/' :: path =>
    if path = ":memory:".toList then some .memory else some (.file (String.ofList path))
  | _ => none

def Location.ofAddress? (address : String) : Option Location :=
  (schemes.find? fun scheme => address.startsWith scheme).bind fun scheme =>
    Location.ofRest? (String.ofList (address.toList.drop scheme.length))

/-- The folder of a file, empty for the current one. -/
def folderOf (path : String) : String :=
  String.ofList ((path.toList.reverse.dropWhile (· ≠ '/')).reverse)

/-- Whether a database can be used; `hasFolder` says which folders are there. -/
def Location.isUsable (hasFolder : String → Bool) : Location → Bool
  | .memory => true
  | .file path => (folderOf path).isEmpty || hasFolder (folderOf path)

end Store

namespace Command

open Calendar

/-- What a task finds around it. -/
structure Surroundings where
  /-- Where the configuration is, unless the command line says it. -/
  configPath : String
  /-- The text of a file, none where there is none. -/
  fileText : String → Option String
  hasFolder : String → Bool
  /-- The threshold of the journal, unless the command line sets one. -/
  threshold : Threshold := .standard
  now : Moment

/-- What came of a task. -/
structure Report where
  code : Int := 0
  threshold : Threshold
  journal : List Entry := []
  printed : Option Value := none
  tokenSize : Option Nat := none
  /-- What is to be served, and where it starts from. -/
  serving : Option (Service × Session) := none

/-- Checks that the store of a configuration can be used. -/
def openStore (s : Surroundings) (config : Entries) : Act Unit := do
  let address := (Entries.get config "DATABASE_URL").display
  if !(Store.Location.ofAddress? address).any (·.isUsable s.hasFolder) then
    throw (.storage (.outage ("Could not open database " ++ address)))

def loadConfig (s : Surroundings) (args : Arguments) : Act Entries :=
  let path := args.config.getD s.configPath
  Config.load path (s.fileText path)

/-- Loads and checks the configuration and sets the service up. -/
def setUp (s : Surroundings) (args : Arguments) : Act Service := do
  let config ← loadConfig s args
  Config.validate config
  openStore s config
  Service.configure config

/-- What a task that works with a configuration leads to. -/
inductive Step where
  | done
  | prints (v : Value)
  | serves (service : Service)

def descriptions : Value := .list (Criteria.evaluators.map fun e => e.family.describe)

/-- Does a task, or else serves. -/
def perform (s : Surroundings) (args : Arguments) : Option Task → Act Step
  | some .validate => do
    Config.validate (← loadConfig s args)
    return .done
  | some .evaluators => return .prints descriptions
  | some .maintenance => do
    let service ← setUp s args
    let result ← service.maintain
    Act.info ("Maintenance complete: " ++ result.encode.display)
    return .done
  | _ => do
    let service ← setUp s args
    Act.info ("Configuration valid. Starting server on " ++ service.host.display ++ ":"
      ++ Number.integerText service.port)
    return .serves service

/-- What came of a task that was begun in a session. -/
def conclude (threshold : Threshold) : Except Failure Step × Session → Report
  | (.ok .done, session) => { threshold, journal := threshold.filter session.journal }
  | (.ok (.prints v), session) =>
    { threshold, journal := threshold.filter session.journal, printed := some v }
  | (.ok (.serves service), session) =>
    { threshold, journal := threshold.filter session.journal
      serving := some (service, { session with journal := [] }) }
  | (.error (.exit code), session) =>
    { code := if code = 0 then 1 else code, threshold
      journal := threshold.filter session.journal }
  | (.error _, session) =>
    { code := 1, threshold
      journal := threshold.filter
        (session.journal ++ [⟨.error, "Fatal error starting server"⟩]) }

def tokenBytes (size : Int) : Except Failure Nat :=
  if size < 0 then .error (.value .negativeCount)
  else if Nat.pow 2 63 ≤ size then .error .outOfRange
  else .ok size.toNat

def runWith (s : Surroundings) (args : Arguments) : Except Failure Report := do
  let threshold ← s.threshold.ofWord (args.logLevel.getD "")
  match args.task with
  | some (.genToken size) => return { threshold, tokenSize := some (← tokenBytes size) }
  | task => return conclude threshold (perform s args task { now := s.now })

/-- Does what a command line asks for. -/
def run (s : Surroundings) (words : List String) : Except Failure Report :=
  match readArguments words with
  | .ok args => runWith s args
  | .error stop => .error (.exit stop.status)

end Command

end Watchgate
