import Watchgate.Store.Column
import Watchgate.Routing.Instance
import Watchgate.Routing.Rule
import Watchgate.Quota.Basic
import Watchgate.Approval.Request

/-!
# The store

What outlives a single submission: instances, users, rules, quotas, the requests counted against
them, and approval requests. Each table is a list of its rows in the order in which they were first
written; writing a row under a known key replaces it in place. Here are the operations on users; those on
the other tables have modules of their own.
-/

namespace Watchgate

/-- Somebody who asks for content. -/
structure User where
  id : Int
  name : Value
  /-- Whether all requests of the user need approval. -/
  requiresApproval : Bool := false
deriving Inhabited

def User.encode (u : User) : Value :=
  .map [
    ("id", .int u.id),
    ("name", u.name),
    ("requires_approval", .bool u.requiresApproval)]

/-- The tables. -/
structure Store where
  instances : List Instance := []
  users : List User := []
  rules : List Rule := []
  quotas : List Quota := []
  usage : List Usage := []
  requests : List Request := []
deriving Inhabited

namespace Store

/-- Replaces the rows that `isSame` picks out, or appends the row if there are none. -/
def upsert {α : Type} (isSame : α → Bool) (row : α) (rows : List α) : List α :=
  if rows.any isSame then rows.map fun r => if isSame r then row else r else rows ++ [row]

def sortedBy {α : Type} (key : α → Int) (rows : List α) : List α :=
  rows.mergeSort fun a b => key a ≤ key b

theorem mem_upsert_self {α : Type} (isSame : α → Bool) (row : α) (rows : List α) :
    row ∈ upsert isSame row rows := by
  unfold upsert
  split
  · rename_i h
    obtain ⟨r, hr, hs⟩ := List.any_eq_true.1 h
    exact List.mem_map.2 ⟨r, hr, by simp [hs]⟩
  · simp

def getUser (id : Int) (s : Store) : Except Failure (Option User) := do
  let id ← Column.checked id
  return s.users.find? (·.id = id)

def getUsers (s : Store) : List User :=
  sortedBy User.id s.users

/-- Whether all requests of a user need approval, as it is stored: a new user for whom it is left open
needs none. -/
def approvalFlag (isKnown : Bool) (v : Value) : Except Failure Bool := do
  match ← Column.truth v with
  | .bool b => return b
  | _ => if isKnown then throw refused else return false

def putUser (id : Int) (name requiresApproval : Value) (s : Store) : Except Failure (Unit × Store) := do
  let known ← getUser id s
  let name ← Column.requiredText name
  let flag ← approvalFlag known.isSome requiresApproval
  return ((), { s with users := upsert (·.id = id) ⟨id, name, flag⟩ s.users })

/-- Refuses a user that is not stored. -/
def requireUser (id : Int) (s : Store) : Except Failure User := do
  match ← getUser id s with
  | some u => return u
  | none => throw (.storage (.unknownUser id))

end Store

end Watchgate
