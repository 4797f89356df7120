import Watchgate.Config.Load
import Watchgate.Routing.Resolve
import Watchgate.Approval.Gate
import Watchgate.Approval.Desk

/-!
# The service

The settings of a configuration, and the parts of the service that work by them.
-/

namespace Watchgate

open Criteria

/-- The settings of the service. -/
structure Service where
  /-- Whether content is never really added. -/
  isDryRun : Bool := true
  /-- The token that requests have to carry, if it counts as true. -/
  token : Value := .null
  host : Value := .text "0.0.0.0"
  port : Int := 12210
  threads : Int := 15
  connectionLimit : Int := 500
  maintenanceMinutes : Int := 60
  /-- Days after which expired requests are dropped. -/
  cleanupDays : Int := Desk.defaultCleanupDays
  /-- Days after which counted requests are dropped. -/
  retentionDays : Int := Quota.defaultRetentionDays
  /-- How many hours a request waits. -/
  waitHours : Option Int := none
  /-- Whether plugins look up metadata. -/
  usesPlugins : Bool := false
  /-- Whether runners run at the same time. -/
  isParallel : Bool := false
  /-- How many run at the same time. -/
  workers : Int := 4
  notifier : Option Notifier := none

namespace Service

def integerSetting (section_ : Entries) (key : String) (standard : Int) : Except Failure Int :=
  ((Entries.get? section_ key).getD (.int standard)).toInteger

/-- The settings that are read before the store is opened. -/
def readFirst (config : Entries) : Except Failure Service := do
  let isDryRun := (← Value.require config "DRY_RUN").truthy
  let server := Config.section_ config "SERVER"
  let port ← integerSetting server "PORT" 12210
  let threads ← integerSetting server "THREADS" 15
  let connectionLimit ← integerSetting server "CONNECTION_LIMIT" 500
  let approval := Config.section_ config "APPROVAL"
  let maintenance := Config.section_ config "MAINTENANCE"
  let maintenanceMinutes ← integerSetting maintenance "INTERVAL_MINUTES" 60
  let cleanupDays ← integerSetting approval "CLEANUP_EXPIRED_DAYS" Desk.defaultCleanupDays
  let retentionDays ← integerSetting (Config.section_ config "QUOTA") "RETENTION_DAYS"
    Quota.defaultRetentionDays
  return {
    isDryRun
    token := Entries.get (Config.section_ config "WEBHOOK") "TOKEN"
    host := (Entries.get? server "HOST").getD (.text "0.0.0.0")
    port, threads, connectionLimit, maintenanceMinutes, cleanupDays, retentionDays }

/-- The settings that are read after the store was filled. The time limits of calls are looked at only
because what is no number is refused: whether a call ends in time, or can be made with such a limit at
all, is a matter of the network. -/
def readLast (config : Entries) (service : Service) : Except Failure Service := do
  let routing := Config.section_ config "ROUTING"
  ((Entries.get? routing "LOOKUP_TIMEOUT").getD (.int 5)).checkReal
  let workers ← integerSetting routing "MAX_WORKERS" 4
  let notices := Config.section_ config "NOTIFIARR"
  let _ ← integerSetting notices "TIMEOUT" 10
  let wait := Entries.get (Config.section_ config "APPROVAL") "EXPIRES_AFTER_HOURS"
  let waitHours ← if wait.truthy then wait.toInteger.map some else .ok none
  return { service with
    waitHours, workers
    usesPlugins := (Entries.get routing "USE_LOOKUP_PLUGINS").truthy
    isParallel := (Entries.get routing "PARALLEL_EVALUATION").truthy
    notifier := some {
      apiKey := Entries.get notices "API_KEY", channel := Entries.get notices "CHANNEL" } }

/-- Reads the settings and puts the configuration into the store. -/
def configure (config : Entries) : Act Service := do
  let service ← Act.ofResult (readFirst config)
  Config.seed config
  Act.ofResult (readLast config service)

def plugins (s : Service) : List Runner :=
  if s.usesPlugins then Runner.pluginFamilies.map Runner.ofPlugin else []

def router (s : Service) : Router where
  evaluators := evaluators.map Runner.ofEvaluator
  plugins := s.plugins
  enrich := some Lookup.enrich
  isParallel := s.isParallel
  workers := s.workers

/-- What the gate and the desk work with. -/
def partners (s : Service) : Partners := .real s.isDryRun s.notifier

def gate (s : Service) : Gate where
  partners := s.partners
  waitHours := s.waitHours

/-- Routes an item and hands the verdicts to the gate. -/
def submit (s : Service) (item : Item) (context : Context) : Act (List Verdict × Outcome) := do
  let verdicts ← s.router.resolve item context
  let outcome ← s.gate.process item context verdicts
  return (verdicts, outcome)

/-- What a run of maintenance did. -/
structure Maintenance where
  /-- Requests whose time had run out. -/
  expired : Nat
  requestsDropped : Nat
  usageDropped : Nat
deriving DecidableEq, Repr

/-- What a run of maintenance did, as users are shown it. -/
def Maintenance.encode (m : Maintenance) : Value :=
  .map [
    ("expired", .int m.expired),
    ("approvalsRemoved", .int m.requestsDropped),
    ("usageRemoved", .int m.usageDropped)]

/-- Marks requests whose time has run out and drops what is old. -/
def maintain (s : Service) : Act Maintenance := do
  let expired ← Desk.sweep
  let requestsDropped ← Desk.cleanup s.cleanupDays
  let usageDropped ← Quota.cleanup s.retentionDays
  return { expired, requestsDropped, usageDropped }

end Service

end Watchgate
