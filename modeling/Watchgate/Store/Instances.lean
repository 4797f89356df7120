import Watchgate.Store.Basic

/-!
# Instances in the store

An instance is known by its id and type. Its quality profile is stored as a text and read as a
number where it consists of digits.
-/

namespace Watchgate.Store

def instanceRow (i : Instance) : Except Failure Instance := do
  let id ← Column.checked i.id
  let type ← Column.requiredText i.type
  let name ← Column.requiredText i.name
  let apiKey ← Column.requiredText i.apiKey
  let rootFolder ← Column.text i.rootFolder
  let seasonMonitoring ← Column.requiredText i.seasonMonitoring
  let seriesType ← Column.requiredText i.seriesType
  let minimumAvailability ← Column.requiredText i.minimumAvailability
  return { i with
    id, type, name, apiKey, rootFolder, seasonMonitoring, seriesType, minimumAvailability
    qualityProfile := Column.profile i.qualityProfile }

def readInstance (i : Instance) : Except Failure Instance :=
  (Column.readProfile i.qualityProfile).map fun p => { i with qualityProfile := p }

def isInstance (id : Int) (type : Value) (i : Instance) : Bool :=
  i.id = id && Column.same i.type type

def putInstance (i : Instance) (s : Store) : Except Failure (Unit × Store) := do
  let row ← instanceRow i
  return ((), { s with instances := upsert (isInstance row.id row.type) row s.instances })

def sortInstances (rows : List Instance) : List Instance :=
  (sortedBy Instance.id rows).mergeSort fun a b => Column.before a.type b.type

/-- The stored instances of a type, of all types where none is given, by type and id. -/
def instanceRows (type : Value) (s : Store) : Except Failure (List Instance) := do
  if type.truthy then
    let type ← Column.text type
    return sortInstances (s.instances.filter fun i => Column.same i.type type)
  else return sortInstances s.instances

/-- The instance with an id and, if one is given, a type. -/
def getInstance (id : Int) (type : Value) (s : Store) : Except Failure (Option Instance) := do
  let id ← Column.checked id
  let rows ← instanceRows type s
  match rows.find? (·.id = id) with
  | some row => (readInstance row).map some
  | none => return none

/-- The instances of a type, of all types where none is given, by type and id. -/
def getInstances (type : Value) (s : Store) : Except Failure (List Instance) := do
  (← instanceRows type s).mapM readInstance

/-- The instance of a type for content without a rule. -/
def getDefaultInstance (type : String) (s : Store) : Except Failure (Option Instance) :=
  match s.instances.find? fun i => Column.same i.type (.text type) && i.isDefault && i.enabled with
  | some row => (readInstance row).map some
  | none => .ok none

end Watchgate.Store
