import Watchgate.Config.Check
import Watchgate.Session.Tables
import Watchgate.Yaml.Document

/-!
# From a text into the store

A configuration is a YAML text whose document is a mapping with the mandatory keys. What is not one
ends the process, and so does one that is checked and does not pass. Then instances, users, quotas and
rules are stored; rules that are no longer configured are dropped.
-/

namespace Watchgate.Config

def mandatoryKeys : List String := ["DATABASE_URL", "DRY_RUN"]

/-- Notes why the process cannot go on, and ends it. -/
def giveUp {α : Type} (reason : String) : Act α := do
  Act.note .critical reason
  throw (.exit 1)

/-- The document of a text; null counts as an empty mapping. -/
def document (text : String) : Act Value :=
  match Yaml.read text with
  | .ok v => return v.orElse (.map [])
  | .error .yaml => giveUp "Error parsing 'config.yaml':"
  | .error e => throw e

def missingKeys (config : Entries) : List String :=
  mandatoryKeys.filter fun key => (Entries.get? config key).isNone

/-- Loads the configuration with this text, which is none where there is no file at `path`. -/
def load (path : String) : Option String → Act Entries
  | none => giveUp ("Configuration file 'config.yaml' not found at " ++ path ++ ".")
  | some text => do
    match ← document text with
    | .map config =>
      let missing := missingKeys config
      if !missing.isEmpty then
        giveUp ("Missing required configuration keys: " ++ ", ".intercalate missing)
      else match Entries.get config "DRY_RUN" with
        | .bool _ => return config
        | _ => giveUp "DRY_RUN must be a boolean."
    | _ => giveUp "Configuration root must be a mapping."

/-- Puts a configuration into the store. -/
def seed (config : Entries) : Act Unit := do
  let instances ← Act.ofResult (instances config)
  instances.forM Act.putInstance
  let users ← Act.ofResult (users config)
  users.forM fun u => Act.putUser u.id u.name (.bool u.requiresApproval)
  let quotas ← Act.ofResult (quotas config)
  quotas.forM Act.putQuota
  let rules ← Act.ofResult (rules config)
  rules.forM Act.putRule
  let removed ← Act.keepRules (rules.map Rule.id)
  Act.info ("Seeded " ++ toString instances.length ++ " instance(s), " ++ toString users.length
    ++ " user(s) and " ++ toString rules.length ++ " rule(s)"
    ++ if removed = 0 then "" else "; removed " ++ toString removed ++ " stale rule(s)")

/-- Ends the process unless all checks of a configuration pass. -/
def validate (config : Entries) : Act Unit := do
  if ← Act.ofJudgement (check config) then
    Act.info "Configuration loaded and validated successfully."
  else
    Act.note .critical "Configuration validation failed."
    throw (.exit 1)

end Watchgate.Config
