import Watchgate.Proofs.Approval.Lifecycle
import Watchgate.Proofs.Routing.Recoding

/-!
# A deferred submission is carried out once

A request that a submission made is followed through whatever happens afterwards. As long as nothing
in the store is out of order, it is carried out exactly when it leaves `pending` for `approved`, with
the placement, title and identifiers of the submission, and never otherwise. Ids that were given up
may be given again, so a request is followed only until another one is made under its id.
-/

namespace Watchgate

open Act Calendar Store

/-! ## What is seen of a step -/

namespace Step

/-- The attempts to add content that were made in the step. -/
def attempts (st : Step) : List Attempt := st.after.attempts.drop st.before.attempts.length

/-- The step makes a request: it waits afterwards, and it was not there before. -/
def Makes (st : Step) (r : Request) : Prop :=
  r.status = .pending ∧ r ∈ st.after.store.requests ∧ r ∉ st.before.store.requests

/-- In the step the request with an id leaves `pending` for `approved`. -/
def Approves (st : Step) (id : Int) : Prop :=
  (∃ r ∈ st.before.store.requests, r.id = id ∧ r.status = .pending) ∧
    ∃ r ∈ st.after.store.requests, r.id = id ∧ r.status = .approved

/-- In the step the request with an id leaves `pending` by being rejected, expired or deleted. -/
def Declines (st : Step) (id : Int) : Prop :=
  (∃ r ∈ st.before.store.requests, r.id = id ∧ r.status = .pending) ∧
    ∀ r ∈ st.after.store.requests, r.id = id → r.status = .rejected ∨ r.status = .expired

end Step

/-- The attempts that were made when the request with an id was decided, over several steps. -/
def deskAttempts (id : Int) (sts : List Step) : List Attempt :=
  (sts.filter fun st => st.event.decided? = some id).flatMap Step.attempts

theorem deskAttempts_nil {id : Int} {sts : List Step}
    (h : ∀ st ∈ sts, st.event.decided? = some id → st.attempts = []) : deskAttempts id sts = [] := by
  refine List.flatMap_eq_nil_iff.2 fun st hst => ?_
  obtain ⟨hmem, hd⟩ := List.mem_filter.1 hst
  exact h st hmem (by simpa using hd)

theorem Step.attempts_eq_nil {st : Step} (h : st.after.attempts = st.before.attempts) :
    st.attempts = [] := by
  rw [attempts, h, List.drop_length]

theorem Step.attempts_eq_singleton {st : Step} {a : Attempt}
    (h : st.after.attempts = st.before.attempts ++ [a]) : st.attempts = [a] := by
  rw [attempts, h, List.drop_left]

/-! ## One decision -/

theorem Store.transition_idle {id : Int} {t : Transition} {now : Moment} {s s' : Store} {b : Bool}
    (h : s.transition id t now = .ok (b, s'))
    (hn : ∀ r ∈ s.requests, r.id = id → r.status ≠ .pending) : b = false ∧ s' = s := by
  have hb : b = false := by
    rw [(transition_ok h).1, List.any_eq_false]
    intro r hr ha
    obtain ⟨hid, hp⟩ := Transition.pending_of_applies ha
    exact hn r hr hid hp
  subst hb
  exact ⟨rfl, transition_none h⟩

/-- A decision on a request that does not wait changes no table and tries nothing. -/
theorem Desk.Effect.of_not_pending {p : Partners} {id : Int} {isApproval : Bool} {s : Session}
    {x : Except Failure Decision × Session} (h : Desk.Effect p id isApproval s x)
    (hn : ∀ r ∈ s.store.requests, r.id = id → r.status ≠ .pending) :
    x.2.store = s.store ∧ x.2.attempts = s.attempts := by
  cases h with
  | kept same => exact ⟨same.store, same.attempts⟩
  | declined _ moved same =>
    rw [(transition_idle moved hn).2] at same
    exact ⟨same.store, same.attempts⟩
  | unplaced _ _ moved => cases (transition_idle moved hn).1
  | tried _ _ moved => cases (transition_idle moved hn).1
  | counted _ _ moved => cases (transition_idle moved hn).1

/-- A transition sets one status only. -/
theorem Store.transition_status {id : Int} {t : Transition} {now : Moment} {s s' : Store} {b : Bool}
    (h : s.transition id t now = .ok (b, s')) {r : Request} (hr : r ∈ s'.requests) :
    r ∈ s.requests ∨ (r.id = id ∧ r.status = t.status) := by
  obtain ⟨-, decidedBy, notes, rfl⟩ := transition_ok h
  obtain ⟨r₀, hr₀, rfl⟩ := List.mem_map.1 hr
  by_cases ha : t.appliesTo id r₀ = true
  · refine .inr ⟨?_, ?_⟩
    · rw [Transition.settle_id]
      exact (Transition.pending_of_applies ha).1
    · simp [Transition.settle, ha]
  · rw [Transition.settle_of_not (by simpa using ha)]
    exact .inl hr₀

/-- If a transition moved something, a waiting request got the status. -/
theorem Store.transition_moved {id : Int} {t : Transition} {now : Moment} {s s' : Store}
    (h : s.transition id t now = .ok (true, s')) :
    (∃ r ∈ s.requests, r.id = id ∧ r.status = .pending) ∧
      ∃ r ∈ s'.requests, r.id = id ∧ r.status = t.status := by
  obtain ⟨hm, decidedBy, notes, rfl⟩ := transition_ok h
  obtain ⟨r, hr, ha⟩ := List.any_eq_true.1 hm.symm
  refine ⟨⟨r, hr, Transition.pending_of_applies ha⟩, _, List.mem_map_of_mem hr, ?_, ?_⟩
  · rw [Transition.settle_id]
    exact (Transition.pending_of_applies ha).1
  · simp [Transition.settle, ha]

/-- A decision touches no request but the one decided. -/
theorem Desk.Effect.rows {p : Partners} {id : Int} {isApproval : Bool} {s : Session}
    {x : Except Failure Decision × Session} (h : Desk.Effect p id isApproval s x) {r : Request}
    (hr : r ∈ x.2.store.requests) : r ∈ s.store.requests ∨ r.id = id := by
  rcases h.requests_cases with hsame | ⟨t, b, store, -, moved, hrequests⟩
  · rw [hsame] at hr
    exact .inl hr
  · rw [hrequests] at hr
    exact (transition_status moved hr).imp_right And.left

/-- What a decision is about: wherever a request has the id, it has this placement and item. -/
def IsFor (id : Int) (item : Item) (placement : Placement) (rows : List Request) : Prop :=
  ∀ r ∈ rows, r.id = id → r.verdict.proposed = some placement ∧ Desk.itemOf r = item

theorem IsFor.found {id : Int} {item : Item} {placement : Placement} {t : Transition} {now : Moment}
    {s s' : Store} {b : Bool} (hfor : IsFor id item placement s.requests)
    (h : s.transition id t now = .ok (b, s')) {r : Request}
    (hr : s'.getRequest id = .ok (some r)) :
    r.verdict.proposed = some placement ∧ Desk.itemOf r = item := by
  obtain ⟨row, hrow, hid, rfl⟩ := getRequest_ok hr
  obtain ⟨-, decidedBy, notes, rfl⟩ := transition_ok h
  obtain ⟨r₀, hr₀, rfl⟩ := List.mem_map.1 hrow
  rw [Transition.settle_id] at hid
  have h₀ := hfor r₀ hr₀ hid
  unfold Transition.settle
  split <;> exact h₀

/-- With nothing out of order, a decision either tries nothing and approves nothing, or it approves
the waiting request and tries its placement once. -/
theorem Desk.Effect.attempts {p : Partners} {id : Int} {isApproval : Bool} {s : Session}
    {x : Except Failure Decision × Session} (h : Desk.Effect p id isApproval s x)
    (ho : s.outages = []) {item : Item} {placement : Placement}
    (hfor : IsFor id item placement s.store.requests) :
    (x.2.attempts = s.attempts ∧
      ∀ r ∈ x.2.store.requests, r.status = .approved → r ∈ s.store.requests) ∨
    ((∃ accepted, x.2.attempts = s.attempts ++ [⟨item, placement, accepted⟩]) ∧
      (∃ r ∈ s.store.requests, r.id = id ∧ r.status = .pending) ∧
      ∃ r ∈ x.2.store.requests, r.id = id ∧ r.status = .approved) := by
  cases h with
  | kept same =>
    rw [same.store]
    exact .inl ⟨same.attempts, fun r hr _ => hr⟩
  | declined status moved same =>
    rw [same.store]
    refine .inl ⟨same.attempts, fun r hr ha => ?_⟩
    rcases transition_status moved hr with hr | ⟨-, hs⟩
    · exact hr
    · rw [ha] at hs
      rcases status with ht | ht <;> rw [ht] at hs <;> cases hs
  | unplaced _ _ moved _ _ cause =>
    rcases cause with hc | ⟨r, hr, hnone⟩
    · exact absurd ho hc
    · rw [(hfor.found moved hr).1] at hnone
      cases hnone
  | tried _ status moved found placed same hattempts =>
    obtain ⟨hp, hi⟩ := hfor.found moved found
    obtain rfl := Option.some.inj (placed.symm.trans hp)
    rw [hi] at hattempts
    rw [same.store, ← status]
    exact .inr ⟨⟨_, hattempts⟩, transition_moved moved⟩
  | counted _ status moved found placed written same hattempts =>
    obtain ⟨hp, hi⟩ := hfor.found moved found
    obtain rfl := Option.some.inj (placed.symm.trans hp)
    rw [hi] at hattempts
    rw [same.store, putUsage_requests written, ← status]
    exact .inr ⟨⟨_, hattempts⟩, transition_moved moved⟩

/-! ## One event -/

/-- Requests from one table to the next, as far as one id is concerned: whoever has it afterwards
had it before. -/
def Follows (id : Int) (rows rows' : List Request) : Prop :=
  ∀ r' ∈ rows', r'.id = id → ∃ r ∈ rows, r.id = id ∧ r.Evolves r'

theorem Follows.refl (id : Int) (rows : List Request) : Follows id rows rows :=
  fun r hr hid => ⟨r, hr, hid, .stays⟩

theorem Follows.trans {id : Int} {rows rows' rows'' : List Request} (h : Follows id rows rows')
    (h' : Follows id rows' rows'') : Follows id rows rows'' := by
  intro r'' hr'' hid
  obtain ⟨r', hr', hid', he'⟩ := h' r'' hr'' hid
  obtain ⟨r, hr, hid, he⟩ := h r' hr' hid'
  exact ⟨r, hr, hid, he.trans he'⟩

theorem Follows.of_mem {id : Int} {rows rows' : List Request}
    (h : ∀ r ∈ rows', r.id = id → r ∈ rows) : Follows id rows rows' :=
  fun r hr hid => ⟨r, h r hr hid, hid, .stays⟩

theorem CarriedOver.follows {mayDrop : Request → Prop} {rows rows' : List Request}
    (h : CarriedOver mayDrop rows rows') (id : Int) : Follows id rows rows' := by
  obtain ⟨kept, hsub, hev, -⟩ := h
  intro r' hr' hid
  obtain ⟨r, hr, he⟩ := hev.exists_before hr'
  exact ⟨r, hsub.subset hr, he.matter.id.symm.trans hid, he⟩

/-- A new request is not one of those that were there. -/
theorem Filed.new_row {userId : Int} {rows rows' : List Request} (h : Filed userId rows rows') :
    ∃ row ∈ rows', row.status = .pending ∧ row ∉ rows ∧ ∀ r ∈ rows', r = row ∨ r ∈ rows := by
  cases h with
  | @beside row new =>
    refine ⟨row, by simp, new.status, fun hr => ?_, fun r hr => ?_⟩
    · exact absurd (new.newId row hr) (Int.lt_irrefl _)
    · rcases List.mem_append.1 hr with hr | hr
      · exact .inr hr
      · exact .inl (List.mem_singleton.1 hr)
  | @instead front back old row split expired _ _ new =>
    subst split
    refine ⟨row, by simp, new.status, fun hr => ?_, fun r hr => ?_⟩
    · rcases List.mem_append.1 hr with hr | hr
      · exact absurd (new.newId row (List.mem_append_left _ hr)) (Int.lt_irrefl _)
      · rcases List.mem_cons.1 hr with rfl | hr
        · rw [new.status] at expired
          cases expired
        · exact absurd (new.newId row (List.mem_append_right _ hr)) (Int.lt_irrefl _)
    · rcases List.mem_append.1 hr with hr | hr
      · refine .inr ?_
        rcases List.mem_append.1 hr with hr | hr
        · exact List.mem_append_left _ hr
        · exact List.mem_append_right _ (List.mem_cons_of_mem _ hr)
      · exact .inl (List.mem_singleton.1 hr)

/-- Only a decision on a request lets it be approved. -/
theorem Event.Change.approved_rows {service : Service} {s : Session} {e : Event}
    {x : Except Failure Event.Answer × Session} (h : Event.Change service s e x)
    (hk : WellKept s.store.requests) {r : Request} (hr : r ∈ x.2.store.requests)
    (hs : r.status = .approved) : r ∈ s.store.requests ∨ e.decided? = some r.id := by
  cases h with
  | idle same =>
    rw [same.requests] at hr
    exact .inl hr
  | clock => exact .inl hr
  | processed effect =>
    rcases effect.requests_cases with hsame | ⟨_, _, _, _, _, _, _, _, -, -, -, added, hrequests⟩
    · rw [hsame] at hr
      exact .inl hr
    · rw [hrequests] at hr
      obtain ⟨row, -, hpending, -, hall⟩ := (filed_of_addRequest hk added).new_row
      rcases hall r hr with rfl | hr
      · rw [hs] at hpending
        cases hpending
      · exact .inl hr
  | approved effect => exact (effect.rows hr).imp_right fun hid => congrArg some hid.symm
  | rejected effect => exact (effect.rows hr).imp_right fun hid => congrArg some hid.symm
  | deleted dropped same =>
    rw [same.store, dropRequest_ok dropped] at hr
    exact .inl (List.mem_of_mem_filter hr)
  | swept same =>
    rw [same.store] at hr
    obtain ⟨r₀, hr₀, rfl⟩ := List.mem_map.1 hr
    split at hs
    · cases hs
    · rename_i ho
      rw [if_neg ho]
      exact .inl hr₀
  | cleaned same =>
    rw [same.store] at hr
    exact .inl (List.mem_of_mem_filter hr)
  | discarded same =>
    rw [same.store] at hr
    exact .inl hr

namespace Step

variable {st : Step} {id : Int}

/-- Whatever a step does, it follows an id unless it makes a request under it. -/
theorem Sound.follows (h : st.Sound) (hmakes : ∀ r, st.Makes r → r.id ≠ id) :
    Follows id st.before.store.requests st.after.store.requests := by
  obtain ⟨service, hchange⟩ := h.change
  rcases hchange.lawful h.wellKept with hc | ⟨_, _, -, -, hfiled⟩
  · exact hc.follows id
  · obtain ⟨row, hrow, hpending, hnew, hall⟩ := hfiled.new_row
    refine Follows.of_mem fun r hr hid => ?_
    rcases hall r hr with rfl | hr
    · exact absurd hid (hmakes r ⟨hpending, hrow, hnew⟩)
    · exact hr

/-- A step that approves a request is a decision on it. -/
theorem Sound.decided (h : st.Sound) (ha : st.Approves id) : st.event.decided? = some id := by
  obtain ⟨service, hchange⟩ := h.change
  obtain ⟨⟨r, hr, hid, hpending⟩, r', hr', hid', happroved⟩ := ha
  rcases hchange.approved_rows h.wellKept hr' happroved with hmem | hd
  · obtain rfl := h.wellKept.eq_of_id hr hmem (hid.trans hid'.symm)
    rw [hpending] at happroved
    cases happroved
  · rw [hd, hid']

theorem Sound.effect (h : st.Sound) (hd : st.event.decided? = some id) :
    ∃ p isApproval result, Desk.Effect p id isApproval st.before (result, st.after) := by
  obtain ⟨service, hchange⟩ := h.change
  obtain ⟨isApproval, result, heffect⟩ := hchange.effect hd
  exact ⟨_, _, _, heffect⟩

/-- A further decision on a request that does not wait is without effect. -/
theorem Sound.idle_of_not_pending (h : st.Sound) (hd : st.event.decided? = some id)
    (hn : ∀ r ∈ st.before.store.requests, r.id = id → r.status ≠ .pending) :
    st.after.store = st.before.store ∧ st.attempts = [] := by
  obtain ⟨p, isApproval, result, heffect⟩ := h.effect hd
  obtain ⟨hstore, hattempts⟩ := heffect.of_not_pending hn
  exact ⟨hstore, attempts_eq_nil hattempts⟩

/-- With nothing out of order, a decision tries the placement of its request exactly if it approves
the request. -/
theorem Sound.decision (h : st.Sound) (hd : st.event.decided? = some id)
    (ho : st.before.outages = []) {item : Item} {placement : Placement}
    (hfor : IsFor id item placement st.before.store.requests) :
    (st.attempts = [] ∧ ¬ st.Approves id) ∨
      (st.Approves id ∧ ∃ accepted, st.attempts = [⟨item, placement, accepted⟩]) := by
  obtain ⟨p, isApproval, result, heffect⟩ := h.effect hd
  rcases heffect.attempts ho hfor with ⟨hattempts, hrows⟩ | ⟨⟨accepted, hattempts⟩, hbefore, hafter⟩
  · refine .inl ⟨attempts_eq_nil hattempts, fun ha => ?_⟩
    obtain ⟨⟨r, hr, hid, hpending⟩, r', hr', hid', happroved⟩ := ha
    obtain rfl := h.wellKept.eq_of_id hr (hrows r' hr' happroved) (hid.trans hid'.symm)
    rw [hpending] at happroved
    cases happroved
  · exact .inr ⟨⟨hbefore, hafter⟩, accepted, attempts_eq_singleton hattempts⟩

end Step

/-! ## Runs -/

theorem IsFor.follows {id : Int} {item : Item} {placement : Placement} {rows rows' : List Request}
    (h : IsFor id item placement rows) (hf : Follows id rows rows') :
    IsFor id item placement rows' := by
  intro r' hr' hid'
  obtain ⟨r, hr, hid, he⟩ := hf r' hr' hid'
  have hr₀ := h r hr hid
  unfold Desk.itemOf at hr₀ ⊢
  rw [he.matter.verdict, he.matter.title, he.matter.guids]
  exact hr₀

/-- No request with the id waits. -/
def Settled (id : Int) (rows : List Request) : Prop :=
  ∀ r ∈ rows, r.id = id → r.status ≠ .pending

theorem Settled.follows {id : Int} {rows rows' : List Request} (h : Settled id rows)
    (hf : Follows id rows rows') : Settled id rows' := by
  intro r' hr' hid'
  obtain ⟨r, hr, hid, he⟩ := hf r' hr' hid'
  rw [he.eq_of_not_pending (h r hr hid)]
  exact h r hr hid

theorem Step.Approves.settled {st : Step} {id : Int} (h : st.Approves id) (hs : st.Sound) :
    Settled id st.after.store.requests := by
  obtain ⟨-, r', hr', hid', happroved⟩ := h
  intro r hr hid hpending
  obtain rfl := hs.wellKeptAfter.eq_of_id hr hr' (hid.trans hid'.symm)
  rw [hpending] at happroved
  cases happroved

theorem Step.Declines.settled {st : Step} {id : Int} (h : st.Declines id) :
    Settled id st.after.store.requests := by
  intro r hr hid hpending
  rcases h.2 r hr hid with hs | hs <;> rw [hpending] at hs <;> cases hs

/-- No step makes a request under the id. -/
def Unmade (id : Int) (sts : List Step) : Prop := ∀ st ∈ sts, ∀ r, st.Makes r → r.id ≠ id

namespace Linked

variable {id : Int} {s s' : Session} {sts : List Step}

/-- A run follows an id under which it makes no request. -/
theorem follows (h : Linked s sts s') (hk : WellKept s.store.requests) (hu : Unmade id sts) :
    Follows id s.store.requests s'.store.requests := by
  induction h with
  | nil => exact .refl _ _
  | @cons s s' st sts happens rest ih =>
    have hsound := (Linked.cons happens rest).sound hk
    have hst := hsound.2 st List.mem_cons_self
    have hfirst := hst.follows (hu st List.mem_cons_self)
    rw [happens.before_eq] at hfirst
    exact hfirst.trans (ih hst.wellKeptAfter fun st hst => hu st (List.mem_cons_of_mem _ hst))

/-- A run up to one of its steps, and from there on. -/
theorem at_step {front back : List Step} {st : Step} (h : Linked s (front ++ st :: back) s') :
    Linked s front st.before ∧ Linked st.after back s' := by
  obtain ⟨m, h1, h2⟩ := h.split
  cases h2 with
  | cons happens rest =>
    rw [happens.before_eq]
    exact ⟨h1, rest⟩

theorem follows_before {front back : List Step} {st : Step} (h : Linked s (front ++ st :: back) s')
    (hk : WellKept s.store.requests) (hu : Unmade id (front ++ st :: back)) :
    Follows id s.store.requests st.before.store.requests :=
  h.at_step.1.follows hk fun st' hst' => hu st' (List.mem_append_left _ hst')

/-- Once no request with the id waits, none does at any later step. -/
theorem settled (h : Linked s sts s') (hk : WellKept s.store.requests) (hu : Unmade id sts)
    (hs : Settled id s.store.requests) {st : Step} (hst : st ∈ sts) :
    Settled id st.before.store.requests := by
  obtain ⟨front, back, rfl⟩ := List.append_of_mem hst
  exact hs.follows (h.follows_before hk hu)

/-- Then decisions on it try nothing. -/
theorem deskAttempts_of_settled (h : Linked s sts s') (hk : WellKept s.store.requests)
    (hu : Unmade id sts) (hs : Settled id s.store.requests) : deskAttempts id sts = [] :=
  deskAttempts_nil fun st hst hd =>
    (((h.sound hk).2 st hst).idle_of_not_pending hd (h.settled hk hu hs hst)).2

/-- Of two steps in which a request would leave `pending`, the later one does not. -/
theorem not_pending_twice {front middle back : List Step} {st st' : Step}
    (h : Linked s (front ++ st :: (middle ++ st' :: back)) s') (hk : WellKept s.store.requests)
    (hu : Unmade id (front ++ st :: (middle ++ st' :: back)))
    (hs : Settled id st.after.store.requests) : Settled id st'.before.store.requests := by
  have hst := (h.sound hk).2 st (by simp)
  refine h.at_step.2.settled hst.wellKeptAfter (fun x hx => hu x ?_) hs (by simp)
  exact List.mem_append_right _ (List.mem_cons_of_mem _ hx)

/-- The step that approves a request tries its placement once, and no other decision on it does. -/
theorem attempts_of_approves {front back : List Step} {st : Step} {item : Item}
    {placement : Placement} (h : Linked s (front ++ st :: back) s')
    (hk : WellKept s.store.requests) (hu : Unmade id (front ++ st :: back))
    (ho : ∀ x ∈ front ++ st :: back, x.before.outages = [])
    (hfor : IsFor id item placement s.store.requests) (ha : st.Approves id) :
    (∃ accepted, st.attempts = [⟨item, placement, accepted⟩]) ∧
      deskAttempts id front = [] ∧ deskAttempts id back = [] := by
  have hsound := (h.sound hk).2
  have hst := hsound st (by simp)
  refine ⟨?_, deskAttempts_nil fun x hx hd => ?_, ?_⟩
  · rcases hst.decision (hst.decided ha) (ho st (by simp)) (hfor.follows (h.follows_before hk hu))
      with ⟨-, hn⟩ | ⟨-, hattempts⟩
    · exact absurd ha hn
    · exact hattempts
  · obtain ⟨front₁, front₂, rfl⟩ := List.append_of_mem hx
    rw [List.append_assoc, List.cons_append] at h hu
    have hxs := hsound x (by simp)
    rcases hxs.decision hd (ho x (by simp)) (hfor.follows (h.follows_before hk hu)) with
      ⟨hattempts, -⟩ | ⟨hx, -⟩
    · exact hattempts
    · obtain ⟨r, hr, hid, hpending⟩ := ha.1
      exact absurd hpending (h.not_pending_twice hk hu (hx.settled hxs) r hr hid)
  · refine h.at_step.2.deskAttempts_of_settled hst.wellKeptAfter (fun x hx => hu x ?_)
      (ha.settled hst)
    exact List.mem_append_right _ (List.mem_cons_of_mem _ hx)

/-- A request that leaves `pending` otherwise is never approved, so its placement is not tried. -/
theorem attempts_of_declines {st : Step} {item : Item} {placement : Placement}
    (h : Linked s sts s') (hk : WellKept s.store.requests) (hu : Unmade id sts)
    (ho : ∀ x ∈ sts, x.before.outages = []) (hfor : IsFor id item placement s.store.requests)
    (hst : st ∈ sts) (hd : st.Declines id) : deskAttempts id sts = [] := by
  have hsound := (h.sound hk).2
  refine deskAttempts_nil fun x hx hdecided => ?_
  have hxfor : IsFor id item placement x.before.store.requests := by
    obtain ⟨front, back, rfl⟩ := List.append_of_mem hx
    exact hfor.follows (h.follows_before hk hu)
  rcases (hsound x hx).decision hdecided (ho x hx) hxfor with ⟨hattempts, -⟩ | ⟨ha, -⟩
  · exact hattempts
  -- an approving step `x` can stand neither after nor at nor before `st`
  obtain ⟨front, back, rfl⟩ := List.append_of_mem hst
  exfalso
  rcases List.mem_append.1 hx with hx | hx
  · obtain ⟨front₁, front₂, rfl⟩ := List.append_of_mem hx
    rw [List.append_assoc, List.cons_append] at h hu
    obtain ⟨r, hr, hid, hpending⟩ := hd.1
    exact h.not_pending_twice hk hu (ha.settled (hsound x (by simp))) r hr hid hpending
  rcases List.mem_cons.1 hx with rfl | hx
  · obtain ⟨-, r, hr, hid, happroved⟩ := ha
    rcases hd.2 r hr hid with hs | hs <;> rw [happroved] at hs <;> cases hs
  · obtain ⟨back₁, back₂, rfl⟩ := List.append_of_mem hx
    obtain ⟨r, hr, hid, hpending⟩ := ha.1
    exact h.not_pending_twice hk hu hd.settled r hr hid hpending

/-- A request can only be found approved if some step approved it. -/
theorem exists_approves (h : Linked s sts s') (hk : WellKept s.store.requests)
    (hu : Unmade id sts) (hstart : ∀ r ∈ s.store.requests, r.id = id → r.status ≠ .approved)
    {r : Request} (hr : r ∈ s'.store.requests) (hid : r.id = id) (hs : r.status = .approved) :
    ∃ st ∈ sts, st.Approves id := by
  -- the first step that approves it is found by going on as long as no step does
  induction h with
  | nil => exact absurd hs (hstart r hr hid)
  | @cons s s' st sts happens rest ih =>
    have hst := ((Linked.cons happens rest).sound hk).2 st List.mem_cons_self
    by_cases ha : st.Approves id
    · exact ⟨st, List.mem_cons_self, ha⟩
    · have hnext : ∀ r ∈ st.after.store.requests, r.id = id → r.status ≠ .approved := by
        intro r' hr' hid' happroved
        obtain ⟨r₀, hr₀, hid₀, he⟩ := hst.follows (hu st List.mem_cons_self) r' hr' hid'
        rw [happens.before_eq] at hr₀
        cases he with
        | stays => exact hstart _ hr₀ hid₀ happroved
        | settles _ pending _ =>
          refine ha ⟨⟨r₀, ?_, hid₀, pending⟩, r', hr', hid', happroved⟩
          rw [happens.before_eq]
          exact hr₀
      obtain ⟨x, hx, hxa⟩ := ih hst.wellKeptAfter
        (fun x hx => hu x (List.mem_cons_of_mem _ hx)) hnext hr
      exact ⟨x, List.mem_cons_of_mem _ hx, hxa⟩

/-- A run up to and including one of its steps. -/
theorem through_step {front back : List Step} {st : Step} (h : Linked s (front ++ st :: back) s') :
    Linked s (front ++ [st]) st.after := by
  rw [List.append_cons] at h
  obtain ⟨m, hupTo, -⟩ := h.split
  obtain ⟨m', -, hlast⟩ := hupTo.split
  cases hlast with
  | cons happens rest =>
    cases rest
    exact hupTo

/-- So it can be found approved after a step only if that step or an earlier one approved it. -/
theorem exists_approves_after (h : Linked s sts s') (hk : WellKept s.store.requests)
    (hu : Unmade id sts) (hstart : ∀ r ∈ s.store.requests, r.id = id → r.status ≠ .approved)
    {st : Step} (hst : st ∈ sts) {r : Request} (hr : r ∈ st.after.store.requests)
    (hid : r.id = id) (hs : r.status = .approved) : ∃ x ∈ sts, x.Approves id := by
  obtain ⟨front, back, rfl⟩ := List.append_of_mem hst
  have hupTo : ∀ x ∈ front ++ [st], x ∈ front ++ st :: back := by
    intro x hx
    rw [List.append_cons]
    exact List.mem_append_left _ hx
  obtain ⟨x, hx, ha⟩ :=
    h.through_step.exists_approves hk (fun x hx => hu x (hupTo x hx)) hstart hr hid hs
  exact ⟨x, hupTo x hx, ha⟩

end Linked

/-! ## The request of a submission -/

theorem CarriedOver.mem_of_pending {mayDrop : Request → Prop} {rows rows' : List Request}
    (h : CarriedOver mayDrop rows rows') {r : Request} (hr : r ∈ rows')
    (hp : r.status = .pending) : r ∈ rows := by
  obtain ⟨kept, hsub, hev, -⟩ := h
  obtain ⟨r₀, hr₀, he⟩ := hev.exists_before hr
  exact he.eq_of_pending hp ▸ hsub.subset hr₀

theorem Event.eq_process_of_submitted {e : Event} {context : Context}
    (h : e.submitted? = some context) : ∃ item verdicts, e = .process item context verdicts := by
  cases e with
  | process item context' verdicts =>
    obtain rfl := Option.some.inj h
    exact ⟨item, verdicts, rfl⟩
  | _ => cases h

/-- What a submission files: the first placement that can be acted on, the title and the
identifiers. -/
structure FiledFor (item : Item) (verdicts : List Verdict) (placement : Placement)
    (row : Request) : Prop where
  first : ∃ primary rest, verdicts.filterMap Gate.actionable? = (primary, placement) :: rest
  proposed : row.verdict.proposed = some placement
  title : Column.requiredText item.title = .ok row.title
  guids : row.guids = item.guids.map .text

theorem filedFor_of_addRequest {item : Item} {context : Context} {userId : Int} {wait : Gate.Wait}
    {expiresAt : Option Moment} {now : Moment} {s s' : Store} {request row : Request}
    {verdicts : List Verdict} {primary : Verdict} {placement : Placement}
    {rest : List (Verdict × Placement)}
    (hfirst : verdicts.filterMap Gate.actionable? = (primary, placement) :: rest)
    (hproposed : wait.verdict.proposed = some placement)
    (h : s.addRequest (Gate.newRequest item context userId wait expiresAt) now = .ok (request, s'))
    (hrow : row ∈ s'.requests) (hnew : row ∉ s.requests) :
    FiledFor item verdicts placement row := by
  obtain ⟨kept, row', hkept, hof, rfl, hrequest⟩ := addRequest_ok h
  have he : row = row' := by
    rcases List.mem_append.1 hrow with hr | hr
    · exact absurd (hkept.sublist.subset hr) hnew
    · exact List.mem_singleton.1 hr
  subst he
  refine ⟨⟨primary, rest, hfirst⟩, ?_, ?_, ?_⟩
  · rw [hof.verdict, hrequest]
    exact (recoded_proposed _).trans hproposed
  · have htitle := hof.title
    rw [hrequest] at htitle
    exact htitle
  · rw [hof.guids, hrequest]
    rfl

/-- Only a submission makes requests, and what it makes is filed for it. -/
theorem Step.Sound.makes {st : Step} (h : st.Sound) {row : Request} (hm : st.Makes row) :
    ∃ item context verdicts placement, st.event = .process item context verdicts ∧
      FiledFor item verdicts placement row := by
  obtain ⟨service, hchange⟩ := h.change
  obtain ⟨hp, hrow, hnew⟩ := hm
  rcases hchange.lawful h.wellKept with hc | ⟨context, userId, hsub, -, -⟩
  · exact absurd (hc.mem_of_pending hrow hp) hnew
  obtain ⟨item, verdicts, he⟩ := Event.eq_process_of_submitted hsub
  rw [he] at hchange
  generalize hx : (st.result, st.after) = x at hchange
  have hafter : st.after = x.2 := congrArg Prod.snd hx
  rw [hafter] at hrow
  cases hchange with
  | idle _ other => cases other
  | processed effect =>
    rcases effect.requests_cases with
      hsame | ⟨_, placement, _, _, _, _, _, _, first, -, proposed, added, hrequests⟩
    · rw [hsame] at hrow
      exact absurd hrow hnew
    · rw [hrequests] at hrow
      exact ⟨item, context, verdicts, placement, he,
        filedFor_of_addRequest first proposed added hrow hnew⟩

theorem FiledFor.itemOf {item : Item} {verdicts : List Verdict} {placement : Placement}
    {row : Request} {title : String} (h : FiledFor item verdicts placement row)
    (htitle : item.title = .text title) :
    Desk.itemOf row = { title := item.title, guids := item.guids } := by
  have hrow := h.title
  rw [htitle] at hrow
  have ht : row.title = .text title := (Except.ok.inj hrow).symm
  unfold Desk.itemOf
  rw [ht, htitle, h.guids, List.map_map]
  congr 1
  exact List.map_id _

theorem deskAttempts_append (id : Int) (front : List Step) (st : Step) (back : List Step)
    (hd : st.event.decided? = some id) : deskAttempts id (front ++ st :: back)
      = deskAttempts id front ++ (st.attempts ++ deskAttempts id back) := by
  simp [deskAttempts, hd]

/-- Consider any course of operations in which nothing in the store is out of order, a step in it in
which a submission makes a request, and what happens before another request is made under its id. If
the request is approved, its placement is tried once, in the step that approves it, for the title and
the identifiers of the submission; it is the placement of the first verdict that could be acted on.
If it is rejected, expires or is deleted, nothing is ever tried. It is found approved only after a
step that approved it, and decisions on it are idle when it does not wait. -/
theorem deferred_carried_out_once {s : Session} (hs : Reachable s) (ts : List Turn)
    (ho : ∀ st ∈ Course.steps ts s, st.before.outages = []) {front later back : List Step}
    {made : Step} (hsplit : Course.steps ts s = front ++ made :: (later ++ back))
    {item : Item} {context : Context} {verdicts : List Verdict}
    (hevent : made.event = .process item context verdicts) {title : String}
    (htitle : item.title = .text title) {row : Request} (hmade : made.Makes row)
    (hu : Unmade row.id later) :
    ∃ primary placement rest,
      verdicts.filterMap Gate.actionable? = (primary, placement) :: rest ∧
      (∀ st ∈ later, st.Approves row.id → ∃ accepted,
        st.attempts = [⟨{ title := item.title, guids := item.guids }, placement, accepted⟩] ∧
        deskAttempts row.id later
          = [⟨{ title := item.title, guids := item.guids }, placement, accepted⟩]) ∧
      (∀ st ∈ later, (∃ r ∈ st.after.store.requests, r.id = row.id ∧ r.status = .approved) →
        ∃ st ∈ later, st.Approves row.id) ∧
      ((∃ st ∈ later, st.Declines row.id) → deskAttempts row.id later = []) ∧
      ∀ st ∈ later, st.event.decided? = some row.id →
        Settled row.id st.before.store.requests →
          st.after.store = st.before.store ∧ st.attempts = [] := by
  have hlinked := Course.linked ts s
  rw [hsplit] at hlinked ho
  have hmadeSound := (hlinked.sound hs.wellKept).2 made (by simp)
  obtain ⟨m, hlater, -⟩ := hlinked.at_step.2.split
  have hk := hmadeSound.wellKeptAfter
  have holater : ∀ st ∈ later, st.before.outages = [] := fun st hst => ho st (by simp [hst])
  have hsound := (hlater.sound hk).2
  obtain ⟨item', context', verdicts', placement, he, hfiled⟩ := hmadeSound.makes hmade
  obtain ⟨rfl, rfl, rfl⟩ := Event.process.inj (hevent.symm.trans he)
  obtain ⟨primary, rest, hfirst⟩ := hfiled.first
  -- right after it was made, `row` is the only request with its id
  have honly : ∀ r ∈ made.after.store.requests, r.id = row.id → r = row := fun r hr hid =>
    hk.eq_of_id hr hmade.2.1 hid
  have hfor : IsFor row.id { title := item.title, guids := item.guids } placement
      made.after.store.requests := by
    intro r hr hid
    rw [honly r hr hid]
    exact ⟨hfiled.proposed, hfiled.itemOf htitle⟩
  refine ⟨primary, placement, rest, hfirst, fun st hst ha => ?_, fun st hst hr => ?_,
    fun hd => ?_, fun st hst hd hsettled => ?_⟩
  · have hdecided := (hsound st hst).decided ha
    obtain ⟨before, after, rfl⟩ := List.append_of_mem hst
    obtain ⟨⟨accepted, hattempts⟩, hb, haft⟩ :=
      hlater.attempts_of_approves hk hu holater hfor ha
    refine ⟨accepted, hattempts, ?_⟩
    rw [deskAttempts_append row.id before st after hdecided, hb, haft, hattempts]
    rfl
  · obtain ⟨r, hr, hid, happroved⟩ := hr
    refine hlater.exists_approves_after hk hu (fun r hr hid hap => ?_) hst hr hid happroved
    rw [honly r hr hid, hmade.1] at hap
    cases hap
  · obtain ⟨st, hst, hd⟩ := hd
    exact hlater.attempts_of_declines hk hu holater hfor hst hd
  · exact (hsound st hst).idle_of_not_pending hd hsettled

/-- For instance, a deferred submission is approved twice, after an instance was added. -/
theorem deferred_carried_out_once_twice_approved :
    let s := ((Operation.single (.putUser 1 (.text "Ann") (.bool true))).perform {}
      { now := .ofDate ⟨738959⟩ }).2
    let item : Item := { title := .text "Dune", guids := ["tmdb:438631"] }
    let placement : Placement := { instanceId := 1, tags := [.text "films"] }
    let submission : Event :=
      .process item { contentType := .text "movie", userId := .one 1 } [.route placement]
    let steps := Course.steps [⟨{}, .single submission⟩,
      ⟨{}, .single (.putInstance { id := 1, type := .text "radarr" })⟩,
      ⟨{}, .approveAll [1, 1] (.int 7) .null⟩] s
    ∃ accepted, deskAttempts 1 steps.tail = [⟨item, placement, accepted⟩] := by
  intro s item placement submission steps
  have hs : Reachable s := .next (.start rfl) {} _
  have hsplit : steps = [] ++ submission.step {} s :: (steps.tail ++ []) := by
    rw [List.append_nil, List.nil_append]
    exact (List.cons_head?_tail rfl).symm
  have houtages : steps.all (·.before.outages.isEmpty) = true := by decide +kernel
  have ho : ∀ st ∈ steps, st.before.outages = [] := fun st hst =>
    List.isEmpty_iff.1 (List.all_eq_true.1 houtages st hst)
  obtain ⟨row, hrow, hpending, hid⟩ :
      ∃ r ∈ (submission.step {} s).after.store.requests, r.status = .pending ∧ r.id = 1 := by
    decide +kernel
  have hmade : (submission.step {} s).Makes row := ⟨hpending, hrow, List.not_mem_nil⟩
  have hplain : steps.tail.all (·.event.submitted?.isNone) = true := by decide +kernel
  have hu : Unmade row.id steps.tail := by
    intro st hst r hr
    have hsound := ((Course.linked _ s).sound hs.wellKept).2 st (List.mem_of_mem_tail hst)
    obtain ⟨item', context, verdicts, -, he, -⟩ := hsound.makes hr
    have hnone := List.all_eq_true.1 hplain st hst
    rw [he] at hnone
    cases hnone
  obtain ⟨primary, placement', rest, hfirst, hreplay, -⟩ :=
    deferred_carried_out_once hs _ ho hsplit rfl rfl hmade hu
  have hplacement : placement' = placement :=
    (Prod.mk.inj (List.cons.inj hfirst).1).2.symm
  have happroved : ∃ st ∈ steps.tail, st.Approves 1 := by
    unfold Step.Approves
    decide +kernel
  obtain ⟨approval, happroval, happroves⟩ := happroved
  rw [hid, hplacement] at hreplay
  obtain ⟨accepted, -, hall⟩ := hreplay approval happroval happroves
  exact ⟨accepted, hall⟩

end Watchgate
