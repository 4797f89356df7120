import Watchgate.Routing.Instance
import Watchgate.Routing.Rule
import Watchgate.Quota.Basic
import Watchgate.Store.Basic

/-!
# Configurations

A configuration is a mapping. Some of its keys hold lists of instances, users, quotas and rules,
others hold sections with settings of one part of the service.
-/

namespace Watchgate.Config

/-- The section under a key; empty where there is none. -/
def section_ (config : Entries) (key : String) : Entries :=
  match Entries.get config key with
  | .map entries => entries
  | _ => []

def instanceLists : List (String × String) :=
  [("radarr", "RADARR_INSTANCES"), ("sonarr", "SONARR_INSTANCES")]

def listOf (config : Entries) (key : String) : Except Failure (List Value) :=
  (Entries.get config key).toItemsOrNone

def instancesOf (config : Entries) (type key : String) : Except Failure (List Instance) := do
  (← listOf config key).mapM fun entry => Instance.decode entry (.text type)

def instances (config : Entries) : Except Failure (List Instance) := do
  return (← instanceLists.mapM fun (type, key) => instancesOf config type key).flatten

def decodeUser (entry : Value) : Except Failure User := do
  let idValue ← entry.subscript "id"
  let id ← idValue.toInteger
  return {
    id
    name := .text ((entry.get "name").orElse idValue).display
    requiresApproval := (entry.get "requires_approval").truthy }

def users (config : Entries) : Except Failure (List User) := do
  (← listOf config "USERS").mapM decodeUser

def decodeQuota (entry : Value) : Except Failure Quota := do
  let userId ← (← entry.subscript "user_id").toInteger
  return {
    userId
    contentType := (entry.get? "content_type").getD (.text "")
    period := (entry.get? "quota_type").getD (.text "")
    limit := entry.get "quota_limit"
    bypass := (entry.get "bypass_approval").truthy }

def quotas (config : Entries) : Except Failure (List Quota) := do
  (← listOf config "USER_QUOTAS").mapM decodeQuota

def rules (config : Entries) : Except Failure (List Rule) := do
  (← listOf config "ROUTER_RULES").mapM Rule.decode

end Watchgate.Config
