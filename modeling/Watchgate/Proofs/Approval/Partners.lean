import Watchgate.Proofs.Media.Browsing
import Watchgate.Approval.Partners

/-!
# Adding content and telling about it

An attempt to add content leaves one record of itself, whatever comes of it, and touches no table;
a notice leaves no record at all. A notice on a stored request goes out or is noted as lost, as long
as exchanges end with an answer or break off. What the instances do with the content is left open.
-/

namespace Watchgate

open Act

/-- Every notice is answered, or the exchange breaks off; nothing else goes wrong with it. -/
def Network.Delivers (w : Network) : Prop :=
  ∀ n : Notifier, ∀ e ∈ w, e.1 = "POST " ++ n.url → ∀ r ∈ e.2, ∀ f, r ≠ Reply.failed f

theorem Network.delivers_nil : Network.Delivers [] := fun _ _ he => by cases he

theorem Network.Leaves.delivers {w w' : Network} (h : w.Leaves w') (hd : w.Delivers) :
    w'.Delivers := by
  intro n e' he' haddress r hr
  obtain ⟨e, he, hsame, hreplies⟩ := h e' he'
  exact hd n e he (hsame.trans haddress) r (hreplies hr)

/-- Partners that change none of the records themselves. -/
structure Partners.Quiet (p : Partners) : Prop where
  acquire : ∀ item placement, (p.acquire item placement).Quiet
  tellRequired : ∀ r, (p.tellRequired r).Quiet
  tellResolved : ∀ r, (p.tellResolved r).Quiet

namespace Notifier

theorem browses_send {same : Store → Store → Prop} (n : Notifier) (payload : Value) :
    (n.send payload).Browses same := by
  refine .ite (.value _) (.sequence (.exchange _) fun reply => ?_)
  cases reply with
  | answer status phrase body =>
    exact .ite (.sequence (.entry _ _) fun _ => .value _) (.sequence (.entry _ _) fun _ => .value _)
  | broken kind reason => exact .sequence (.entry _ _) fun _ => .value _
  | failed e => exact .failure e

theorem browses_required {same : Store → Store → Prop} (n : Notifier) (r : Request) :
    (n.required r).Browses same :=
  .sequence (.result _) fun _ => browses_send n _

theorem browses_resolved {same : Store → Store → Prop} (n : Notifier) (r : Request) :
    (n.resolved r).Browses same :=
  .sequence (.result _) fun _ => browses_send n _

/-- Where notices are delivered, sending one does not fail. -/
theorem send_ok (n : Notifier) (payload : Value) {s : Session} (h : s.network.Delivers) :
    ∃ taken, (n.send payload s).1 = .ok taken := by
  unfold send
  split
  · exact ⟨false, rfl⟩
  · let c : Call := { method := "POST", url := n.url, body := some payload }
    have hr := Network.reply_ne_failed (k := Network.key c) (h n)
    have hsend : Act.send c s = (.ok (s.network.reply (Network.key c)).1, _) := rfl
    rw [bind_of_ok hsend]
    cases hreply : (s.network.reply (Network.key c)).1 with
    | failed e => exact absurd hreply (hr e)
    | broken kind reason => exact ⟨false, rfl⟩
    | answer status phrase body =>
      by_cases hs : status = 200
      · exact ⟨true, by simp only [hs, if_true]; rfl⟩
      · exact ⟨false, by simp only [hs, if_false]; rfl⟩

/-- So telling about a new request fails only if there is no name for its cause. -/
theorem required_result (n : Notifier) (r : Request) {s : Session} (h : s.network.Delivers) :
    (n.required r s).1.map (fun _ => ()) = (Notice.triggerLabel r.triggeredBy).map fun _ => () := by
  cases hl : Notice.triggerLabel r.triggeredBy with
  | error e =>
    have hp : Notice.payload r "Approval Required" n.channel = .error e := by
      unfold Notice.payload
      rw [hl]
      rfl
    have hfails : n.required r s = (.error e, s) := bind_of_error (congrArg (·, s) hp)
    rw [hfails]
    rfl
  | ok label =>
    obtain ⟨payload, hp⟩ : ∃ payload,
        Notice.payload r "Approval Required" n.channel = .ok payload := by
      unfold Notice.payload
      rw [hl]
      exact ⟨_, rfl⟩
    have hsends : n.required r s = n.send payload s := bind_of_ok (congrArg (·, s) hp)
    obtain ⟨taken, ht⟩ := n.send_ok payload h
    rw [hsends, ht]
    rfl

theorem required_ok (n : Notifier) {r : Request} {trigger : String}
    (hr : r.triggeredBy = .text trigger) {s : Session} (h : s.network.Delivers) :
    ∃ taken, (n.required r s).1 = .ok taken := by
  have hresult := n.required_result r h
  rw [hr] at hresult
  rcases hx : n.required r s with ⟨e | taken, s'⟩
  · rw [hx] at hresult
    cases hresult
  · exact ⟨taken, rfl⟩

/-- So telling about a decision does not fail either, if the cause of the request is a text. -/
theorem resolved_ok (n : Notifier) {r : Request} {trigger : String}
    (hr : r.triggeredBy = .text trigger) {s : Session} (h : s.network.Delivers) :
    ∃ taken, (n.resolved r s).1 = .ok taken := by
  have hlabel : ∃ label, Notice.triggerLabel r.triggeredBy = .ok label := by
    rw [hr]
    exact ⟨_, rfl⟩
  obtain ⟨label, hl⟩ := hlabel
  have hp : ∀ event, ∃ payload, Notice.payload r event n.channel = .ok payload := by
    intro event
    unfold Notice.payload
    rw [hl]
    exact ⟨_, rfl⟩
  obtain ⟨payload, hp⟩ := hp
    (if r.status = .approved then "Request Approved" else "Request Rejected")
  have hb : n.resolved r s = n.send payload s := by
    change (ofResult (Notice.payload r _ n.channel) >>= n.send) s = _
    exact bind_of_ok (congrArg (·, s) hp)
  rw [hb]
  exact n.send_ok payload h

end Notifier

namespace Partners

/-- Adding content and telling about requests browse the instances. -/
structure Browses (p : Partners) : Prop where
  acquire : ∀ item placement, (p.acquire item placement).Browses Store.SameInstances
  tellRequired : ∀ r, (p.tellRequired r).Browses Store.SameInstances
  tellResolved : ∀ r, (p.tellResolved r).Browses Store.SameInstances

theorem Browses.quiet {p : Partners} (h : p.Browses) : p.Quiet where
  acquire item placement := (h.acquire item placement).quiet
  tellRequired r := (h.tellRequired r).quiet
  tellResolved r := (h.tellResolved r).quiet

/-- The real partners browse. -/
theorem real_browses (isDryRun : Bool) (notifier : Option Notifier) :
    (real isDryRun notifier).Browses where
  acquire item p := Acquire.browses_acquire isDryRun item p
  tellRequired r := .option_forM (fun n => .map _ (n.browses_required r)) notifier
  tellResolved r := .option_forM (fun n => .map _ (n.browses_resolved r)) notifier

theorem result_discard {α : Type} {x : Act α} {s : Session} {a : α} (h : (x s).1 = .ok a) :
    ((discard x : Act PUnit) s).1 = .ok () := by
  change (((fun _ => PUnit.unit) <$> x : Act PUnit) s).1 = _
  rw [map_apply]
  rcases hx : x s with ⟨e | b, s'⟩
  · rw [hx] at h
    cases h
  · rfl

theorem real_tellRequired_ok (isDryRun : Bool) (notifier : Option Notifier) {r : Request}
    {trigger : String} (hr : r.triggeredBy = .text trigger) {s : Session}
    (h : s.network.Delivers) : ((real isDryRun notifier).tellRequired r s).1 = .ok () := by
  cases notifier with
  | none => rfl
  | some n =>
    obtain ⟨taken, ht⟩ := n.required_ok hr h
    exact result_discard ht

theorem real_tellResolved_ok (isDryRun : Bool) (notifier : Option Notifier) {r : Request}
    {trigger : String} (hr : r.triggeredBy = .text trigger) {s : Session}
    (h : s.network.Delivers) : ((real isDryRun notifier).tellResolved r s).1 = .ok () := by
  cases notifier with
  | none => rfl
  | some n =>
    obtain ⟨taken, ht⟩ := n.resolved_ok hr h
    exact result_discard ht

/-- What an attempt leaves behind: one record of itself. -/
structure Attempted (item : Item) (placement : Placement) (s : Session)
    (result : Except Failure Bool) (s' : Session) : Prop extends s.SameTables s' where
  attempts : s'.attempts = s.attempts ++ [⟨item, placement, result.toOption⟩]

theorem attempted {p : Partners} (hp : p.Quiet) (item : Item) (placement : Placement)
    (s : Session) :
    Attempted item placement s (p.attempt item placement s).1 (p.attempt item placement s).2 := by
  unfold attempt
  rcases h : p.acquire item placement s with ⟨e | accepted, s'⟩
  · have hs := (hp.acquire item placement).of_eq h
    exact ⟨⟨hs.store, hs.now, hs.outages, hs.network⟩, by simp [hs.attempts, Except.toOption]⟩
  · have hs := (hp.acquire item placement).of_eq h
    exact ⟨⟨hs.store, hs.now, hs.outages, hs.network⟩, by simp [hs.attempts, Except.toOption]⟩

/-- An attempt ends as adding the content ends. -/
theorem attempt_result (p : Partners) (item : Item) (placement : Placement) (s : Session) :
    (p.attempt item placement s).1 = (p.acquire item placement s).1 := by
  unfold attempt
  rcases p.acquire item placement s with ⟨_ | _, _⟩ <;> rfl

/-- An attempt does the same in sessions that look the same, if adding the content does and the record
of an attempt may be written into both. -/
theorem lockstep_attempt {p : Partners} {R : Session → Session → Prop}
    (hrecorded : ∀ {s s'}, R s s' → ∀ a, R { s with attempts := s.attempts ++ [a] }
      { s' with attempts := s'.attempts ++ [a] })
    {item : Item} {placement : Placement} (hp : (p.acquire item placement).Lockstep R) :
    (p.attempt item placement).Lockstep R := by
  intro s s' h
  obtain ⟨hvalue, hs⟩ := hp s s' h
  unfold attempt
  rcases hx : p.acquire item placement s with ⟨r, s₁⟩
  rcases hx' : p.acquire item placement s' with ⟨r', s₁'⟩
  rw [hx, hx'] at hvalue hs
  obtain rfl : r = r' := hvalue
  cases r <;> exact ⟨rfl, hrecorded hs _⟩

/-- So do attempts at several instances. -/
theorem lockstep_attemptAll {p : Partners} {R : Session → Session → Prop}
    (hrecorded : ∀ {s s'}, R s s' → ∀ a, R { s with attempts := s.attempts ++ [a] }
      { s' with attempts := s'.attempts ++ [a] })
    (hp : ∀ item placement, (p.acquire item placement).Lockstep R) (item : Item)
    (placements : List Placement) : (p.attemptAll item placements).Lockstep R := by
  induction placements with
  | nil => exact lockstep_pure _
  | cons placement rest ih =>
    refine lockstep_bind (lockstep_attempt hrecorded (hp item placement)) fun accepted => ?_
    exact lockstep_bind ih fun others => lockstep_pure _

theorem keepsTables_attempt {p : Partners} (hp : p.Quiet) (item : Item) (placement : Placement) :
    (p.attempt item placement).KeepsTables := fun s => (attempted hp item placement s).toSameTables

/-- Attempts at several instances touch no table. -/
theorem keepsTables_attemptAll {p : Partners} (hp : p.Quiet) (item : Item) :
    ∀ placements, (p.attemptAll item placements).KeepsTables
  | [] => (quiet_pure _).keepsTables
  | placement :: rest =>
    keepsTables_bind (keepsTables_attempt hp item placement) fun _ =>
      keepsTables_bind (keepsTables_attemptAll hp item rest) fun _ => (quiet_pure _).keepsTables

end Partners

end Watchgate
