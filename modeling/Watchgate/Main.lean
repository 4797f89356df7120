import Std.Time.DateTime.Timestamp
import Watchgate.Command.Run
import Watchgate.Command.Secret
import Watchgate.Journal.Record
import Watchgate.Json.Writer
import Watchgate.Web.Routes

/-!
# The command line

Hands the command line to the service and shows what comes of it. Entries of the journal go to the
standard error stream, and as JSON to a file if one is named. A service that is started reads messages
from standard input, a JSON object with method, path, headers and body on each line, and writes an
answer for each.
-/

namespace Watchgate.Main

open Calendar

/-- The day from which clocks count. -/
def epochOrdinal : Nat := 719163

def now : IO Moment := do
  let t ← Std.Time.Timestamp.now
  let micros := t.toNanosecondsSinceUnixEpoch.val / 1000
  return ⟨(epochOrdinal * microsPerDay : Int) + micros |>.toNat⟩

/-- The text of a file, none if it cannot be read. -/
def fileText (path : String) : IO (Option String) := do
  try
    return some (← IO.FS.readFile path)
  catch _ =>
    return none

/-- How entries are laid out on the console. -/
def layout : String := "%(asctime)s - %(levelname)s - %(message)s"

def showEntries (time : Moment) (file : Option String) (entries : List Entry) : IO Unit := do
  for e in entries do
    let r : Record := {
      level := e.level.name, template := e.text, attributes := [("asctime", .text time.text)] }
    match r.withIds.forConsole.line layout with
    | .ok s => IO.eprintln s
    | .error f => IO.eprintln f.message
    match file, r.withIds.encode with
    | some path, .ok v =>
      IO.FS.withFile path .append fun h =>
        h.putStrLn (Json.write (Value.map (("ts", .text time.text) :: (v.entries?.getD []))))
    | _, _ => pure ()

def answerLine (a : Web.Answer) : String :=
  Json.write (.map (("status", .int a.status) :: (match a with
    | .json _ v => [("json", v)]
    | .text _ s => [("text", .text s)]
    | .bare _ => [])))

def messageOf (line : String) : Option Web.Message :=
  match Json.read line with
  | .ok v@(.map _) =>
    let headers := ((v.get "headers").entries?.getD []).map fun e => (e.1, e.2.display)
    some (.ofTarget ((v.get "method").orElse (.text "GET")).display
      ((v.get "path").orElse (.text "/")).display headers
      ((v.get "body").orElse (.text "")).display)
  | _ => none

/-- Answers messages until the input ends. -/
partial def serve (threshold : Threshold) (file : Option String) (service : Service)
    (session : Session) : IO Unit := do
  let line ← (← IO.getStdin).getLine
  if line.isEmpty then return
  let time ← now
  let session := { session with now := time, journal := [], calls := [] }
  let (answer, session) := match messageOf line with
    | some m => Web.handle service m session
    | none => (.ok (.bare 400), session)
  showEntries time file (threshold.filter session.journal)
  let out ← IO.getStdout
  out.putStrLn (match answer with
    | .ok a => answerLine a
    | .error _ => answerLine (.bare 500))
  out.flush
  serve threshold file service session

/-- Shows what came of a task, and serves if that was asked for. -/
def follow (time : Moment) (file : Option String) (report : Command.Report) : IO UInt32 := do
  showEntries time file report.journal
  if let some v := report.printed then IO.println (Json.write v)
  if let some size := report.tokenSize then
    let bytes ← IO.getRandomBytes size.toUSize
    IO.println (String.ofList (Command.secretOf bytes.toList))
  if let some (service, session) := report.serving then
    serve report.threshold file service session
  return report.code.toNat.toUInt32

/-- Does what the command line asks for. -/
def run (words : List String) : IO UInt32 := do
  let args := (Command.readArguments words).toOption.getD {}
  let path := args.config.getD ((← IO.getEnv "WATCHGATE_CONFIG").getD "config.yaml")
  let text ← fileText path
  let threshold := ((← IO.getEnv "LOG_LEVEL").bind fun word =>
    (Threshold.standard.ofWord word).toOption).getD .standard
  let time ← now
  let surroundings : Command.Surroundings := {
    configPath := path, fileText := fun _ => text, hasFolder := fun _ => true
    threshold, now := time }
  match Command.run surroundings words with
  | .ok report => follow time args.logFile report
  | .error (.exit 0) =>
    IO.print Command.usage
    return 0
  | .error (.exit code) =>
    IO.eprint Command.usage
    return code.toNat.toUInt32
  | .error e =>
    IO.eprintln e.message
    return 1

end Watchgate.Main

/-- Does what the command line asks for and ends with its status. -/
def main (words : List String) : IO UInt32 := Watchgate.Main.run words
