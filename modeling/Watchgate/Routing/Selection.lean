import Watchgate.Routing.Placement
import Watchgate.Value.Order

/-!
# Selecting placements

Several rules may place content at one instance. The placement with the highest priority is kept; of
equal ones that of the lowest rule id, a placement without a rule counting as last. The placements
that are kept are listed in the same order, those of equal rank by instance.
-/

namespace Watchgate.Placement

/-- The place of a rule id in the order of rules. -/
def ruleRank (p : Placement) : Value :=
  match p.ruleId with
  | .null => .real (.infinite false)
  | v => v

/-- The order of two rule ids. Ids without a common order make it fail. -/
def compareRules (a b : Placement) : Except Failure Ordering :=
  if a.ruleRank.agrees b.ruleRank then .ok .eq
  else match Value.order? a.ruleRank b.ruleRank with
    | some (some o) => .ok o
    | some none => .ok .gt
    | none => .error (.kind (.unordered "<" a.ruleRank.kind b.ruleRank.kind))

/-- The order of two placements: higher priority first, then lower rule id. -/
def compareRank (a b : Placement) : Except Failure Ordering :=
  if a.priority = b.priority then compareRules a b
  else .ok (if b.priority < a.priority then .lt else .gt)

/-- The order in which selected placements are listed: by rank, then by instance. -/
def compareListed (a b : Placement) : Except Failure Ordering := do
  match ← compareRank a b with
  | .eq => return compare a.instanceId b.instanceId
  | o => return o

/-- Takes up a placement: in place of one at the same instance that it outranks, at the end if there is
none at that instance. -/
def keepBetter (p : Placement) : List Placement → Except Failure (List Placement)
  | [] => .ok [p]
  | q :: qs =>
    if q.instanceId = p.instanceId then
      (compareRank p q).map fun o => (if o = .lt then p else q) :: qs
    else (keepBetter p qs).map (q :: ·)

/-- The best placement for each instance, in the order in which the instances first appear. -/
def bestPerInstance (ps : List Placement) : Except Failure (List Placement) :=
  ps.foldlM (fun kept p => keepBetter p kept) []

/-- Puts a placement into its place among listed ones. -/
def insertListed (p : Placement) : List Placement → Except Failure (List Placement)
  | [] => .ok [p]
  | q :: qs => do
    match ← compareListed p q with
    | .lt => return p :: q :: qs
    | _ => return q :: (← insertListed p qs)

def sortListed (ps : List Placement) : Except Failure (List Placement) :=
  ps.foldlM (fun sorted p => insertListed p sorted) []

/-- One placement for each instance, best first. -/
def select (ps : List Placement) : Except Failure (List Placement) := do
  sortListed (← bestPerInstance ps)

end Watchgate.Placement
