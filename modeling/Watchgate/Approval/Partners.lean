import Watchgate.Media.Acquire
import Watchgate.Notice.Notifier

/-!
# What approvals work with

The gate and the desk add content to instances and tell about requests. How they do it is handed to
them, so that statements about them can be made for every way of adding content.
-/

namespace Watchgate

/-- What the gate and the desk work with. -/
structure Partners where
  /-- Adds content to an instance and says whether it was taken. -/
  acquire : Item → Placement → Act Bool
  tellRequired : Request → Act Unit
  tellResolved : Request → Act Unit

namespace Partners

/-- Instances and the notification service. -/
def real (isDryRun : Bool) (notifier : Option Notifier) : Partners where
  acquire := Acquire.acquire isDryRun
  tellRequired r := notifier.forM fun n => discard (n.required r)
  tellResolved r := notifier.forM fun n => discard (n.resolved r)

/-- Adds content to an instance and records the attempt. -/
def attempt (p : Partners) (item : Item) (placement : Placement) : Act Bool := fun s =>
  match p.acquire item placement s with
  | (.ok accepted, s) =>
    (.ok accepted, { s with attempts := s.attempts ++ [⟨item, placement, some accepted⟩] })
  | (.error e, s) =>
    (.error e, { s with attempts := s.attempts ++ [⟨item, placement, none⟩] })

/-- The placements at which content is taken, out of several. -/
def attemptAll (p : Partners) (item : Item) : List Placement → Act (List Placement)
  | [] => return []
  | placement :: rest => do
    let accepted ← p.attempt item placement
    let others ← p.attemptAll item rest
    return if accepted then placement :: others else others

end Partners

end Watchgate
