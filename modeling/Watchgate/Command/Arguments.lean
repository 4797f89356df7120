import Watchgate.Command.Words

/-!
# The command line of the service

General options come first, then a command with options of its own. Without a command the service is
started.
-/

namespace Watchgate.Command

/-- What can be done. -/
inductive Task where
  | genToken (size : Int)
  | serve
  | maintenance
  | validate
  | evaluators
deriving DecidableEq, Repr

def Task.name : Task → String
  | .genToken _ => "gen-token"
  | .serve => "serve"
  | .maintenance => "maintenance"
  | .validate => "validate"
  | .evaluators => "evaluators"

/-- The size of tokens, unless one is given. -/
def standardSize : Int := 32

def tasks : List Task := [.genToken standardSize, .serve, .maintenance, .validate, .evaluators]

/-- What a command line says. -/
structure Arguments where
  task : Option Task := none
  config : Option String := none
  /-- From which level on entries are kept. -/
  logLevel : Option String := none
  logFile : Option String := none
deriving DecidableEq, Repr

def generalOptions : List Option_ :=
  [helpOption, { names := ["-c", "--config"] }, { names := ["--log-level"] },
    { names := ["--log-file"] }]

def isInteger (s : String) : Bool := (Number.readInteger s).toOption.isSome

def Task.options : Task → List Option_
  | .genToken _ => [helpOption, { names := ["--size"], accepts := isInteger }]
  | _ => [helpOption]

/-- A task with what its options say. -/
def Task.withSettings (t : Task) (s : Settings) : Task :=
  match t, (s.value? "--size").bind fun v => (Number.readInteger v).toOption with
  | .genToken _, some size => .genToken size
  | t, _ => t

/-- Reads a task, which is the first of the words, and its options. -/
def readTask : List String → Except Stop (Option Task × Bool)
  | [] => .ok (none, false)
  | name :: args =>
    match tasks.find? (·.name = name) with
    | none => .error .misuse
    | some t => do
      let ws ← classifyAll t.options args
      let (s, _) ← takeWords t.options false (ws.length + 1) {} ws
      return (some (t.withSettings s), s.hasExtra)

/-- Reads a command line. -/
def readArguments (args : List String) : Except Stop Arguments := do
  let ws ← classifyAll generalOptions args
  let (s, rest) ← takeWords generalOptions true (ws.length + 1) {} ws
  let (task, hasExtra) ← readTask (args.drop (args.length - rest.length))
  if s.hasExtra || hasExtra then throw .misuse
  return {
    task
    config := s.value? "--config"
    logLevel := s.value? "--log-level"
    logFile := s.value? "--log-file" }

/-- What the service says when help is asked for. -/
def usage : String :=
  "usage: watchgate [-h] [-c CONFIG] [--log-level LEVEL] [--log-file FILE] [COMMAND]\n\n"
    ++ "Routes requested content to media servers and keeps its approvals.\n\n"
    ++ "commands:\n"
    ++ "  gen-token [--size SIZE]  make a token for the web interface\n"
    ++ "  serve                    serve messages (the default)\n"
    ++ "  maintenance              expire old approvals and drop old records once\n"
    ++ "  validate                 check the configuration\n"
    ++ "  evaluators               describe the evaluators as JSON\n"

end Watchgate.Command
