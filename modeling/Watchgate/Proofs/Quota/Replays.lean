import Watchgate.Proofs.Approval.Outcomes
import Watchgate.Proofs.Approval.Replay
import Watchgate.Proofs.Approval.Waiting
import Watchgate.Proofs.Quota.Accounting
import Mathlib.Data.List.Flatten

/-!
# Counting requests that are replayed

A request that waits is counted when it is approved, if the instance took the content then. It may
also be taken later, when its user submits the same content again; but answering a submission by a
request that is there never counts. So over any run exactly one row is written because of a request
whose approval was taken at once, and none because of a request whose approval was not, however often
it was taken afterwards.
-/

namespace Watchgate

open Act Calendar Store

/-! ## What an approval counts -/

namespace Desk

/-- Looking at a request that could not be moved adds no content and counts nobody. -/
theorem expireIfStale_keeps (id : Int) (now : Moment) (s : Session) :
    let s' := ((expireIfStale id now >>= fun request =>
      pure { request, changed := false : Decision }) s).2
    s'.attempts = s.attempts ∧ s'.store.usage = s.store.usage := by
  intro s'
  have heffect := expireIfStale_effect (Partners.real true none) id false now s
  rcases hx : (expireIfStale id now >>= fun request =>
    pure { request, changed := false : Decision }) s with ⟨result, s₁⟩
  have hs' : s' = s₁ := congrArg Prod.snd hx
  rw [hx] at heffect
  rw [hs']
  cases heffect with
  | kept same => exact ⟨same.attempts, congrArg Store.usage same.store⟩
  | declined _ moved same =>
    exact ⟨same.attempts, (congrArg Store.usage same.store).trans (transition_usage moved)⟩
  | unplaced approves => cases approves
  | tried approves => cases approves
  | counted approves => cases approves

/-- A decision that does not move the request adds no content and counts nobody; otherwise it goes on
after the move. -/
theorem decideBy_cases (id : Int) (t : Moment → Transition) (rest : Act Decision) (s : Session) :
    ((decideBy id t rest s).2.attempts = s.attempts ∧
      (decideBy id t rest s).2.store.usage = s.store.usage) ∨
    ∃ store, s.store.transition id (t s.now) s.now = .ok (true, store) ∧
      decideBy id t rest s = rest { s with store } := by
  unfold decideBy
  rcases bind_cases (get id) _ s with ⟨request, s₁, hget, hb⟩ | ⟨e, s₁, hget, hb⟩
  · obtain ⟨-, rfl⟩ := get_returns hget
    rw [hb]
    split
    · exact .inl ⟨rfl, rfl⟩
    · have hnow : Act.now s₁ = (.ok s₁.now, s₁) := rfl
      rw [bind_of_ok hnow]
      rcases write_cases .transition (some (.int id)) (Store.transition id (t s₁.now) s₁.now) s₁ with
        ⟨moved, store, ht, hw⟩ | ⟨e, s₂, hw, hs⟩
      · rw [bind_of_ok (x := Act.transition id (t s₁.now)) hw]
        cases moved with
        | true => exact .inr ⟨store, ht, rfl⟩
        | false =>
          obtain rfl := transition_none ht
          exact .inl (expireIfStale_keeps id s₁.now s₁)
      · rw [bind_of_error (x := Act.transition id (t s₁.now)) hw]
        exact .inl ⟨hs.attempts, congrArg Store.usage hs.store⟩
  · have hs : s.SameRecords s₁ := (quiet_get id).of_eq hget
    rw [hb]
    exact .inl ⟨hs.attempts, congrArg Store.usage hs.store⟩

variable {p : Partners} {s : Session} {id : Int} {r : Request} {placement : Placement}
  {contentType : String}

/-- The rows that an attempt leads to, according to its answer. -/
def countedIf (accepted : Option Bool) (u : Usage) : List Usage :=
  if accepted = some true then [u] else []

/-- Carrying out a request of a stored user counts it exactly if the instance took the content. -/
theorem execute_counts (hp : p.Quiet) (ho : s.outages = []) (hknown : s.store.Knows r.userId)
    (htext : r.contentType = .text contentType) (hplaced : r.verdict.proposed = some placement) :
    ∃ accepted, (execute p r s).2.attempts = s.attempts ++ [⟨itemOf r, placement, accepted⟩] ∧
      (execute p r s).2.store.usage
        = s.store.usage ++ countedIf accepted ⟨r.userId, contentType, s.now.date⟩ := by
  have hattempt := Partners.attempted hp (itemOf r) placement s
  unfold execute carryOut
  simp only [hplaced]
  rcases hx : p.attempt (itemOf r) placement s with ⟨e | accepted, s₁⟩
  · rw [hx] at hattempt
    rw [bind_of_error hx]
    exact ⟨none, hattempt.attempts, by rw [hattempt.store]; exact (List.append_nil _).symm⟩
  · rw [hx] at hattempt
    rw [bind_of_ok hx]
    refine ⟨some accepted, ?_⟩
    cases accepted with
    | false =>
      exact ⟨hattempt.attempts, by
        change s₁.store.usage = _
        rw [hattempt.store]
        exact (List.append_nil _).symm⟩
    | true =>
      have hknown₁ : s₁.store.Knows r.userId := hattempt.store ▸ hknown
      have hrecord := countUse_of_knows (hattempt.outages.trans ho) hknown₁ htext
      rw [if_pos rfl, bind_of_ok hrecord]
      refine ⟨hattempt.attempts, ?_⟩
      change s₁.store.usage ++ _ = _
      rw [hattempt.store, hattempt.now]
      rfl

/-- What an approval does to the attempts and the counted requests: nothing, or it tries the placement
of the request once and counts it exactly if the instance took the content. -/
theorem approve_counts (hp : p.Quiet) (ho : s.outages = []) (hk : WellKept s.store.requests)
    (horderly : s.store.Orderly) (id : Int) (decidedBy notes : Value) :
    let s' := (approve p id decidedBy notes s).2
    (s'.attempts = s.attempts ∧ s'.store.usage = s.store.usage) ∨
    ∃ r ∈ s.store.requests, r.id = id ∧ ∃ placement accepted contentType,
      r.verdict.proposed = some placement ∧ r.contentType = .text contentType ∧
      s'.attempts = s.attempts ++ [⟨itemOf r, placement, accepted⟩] ∧
      s'.store.usage
        = s.store.usage ++ countedIf accepted ⟨r.userId, contentType, s.now.date⟩ := by
  rw [approve_eq]
  rcases decideBy_cases id _ _ s with hidle | ⟨store, hmoved, hb⟩
  · exact .inl hidle
  rw [hb]
  obtain ⟨moved, hfound⟩ := getRequest_of_transition hmoved
  have hget : get id { s with store } = (.ok moved, { s with store }) :=
    get_of_ok (s := { s with store }) ho hfound
  rw [bind_of_ok hget]
  -- what comes after the attempt and the counting leaves no record
  have htail : ∀ executed, (announce p ("Approval request " ++ Number.integerText id
      ++ " approved by " ++ decidedBy.display)
      { request := moved, changed := true, executed }).Quiet := fun executed =>
    quiet_announce hp _ _
  have hlast := sameRecords_bind (x := execute p moved) htail { s with store }
  obtain ⟨row, hrow, hid, rfl⟩ := getRequest_ok hfound
  have husage : store.usage = s.store.usage := transition_usage hmoved
  have hsettled : Status.approved ∈ Status.settled := by decide
  obtain ⟨r, hr, he⟩ := (transition_evolve hsettled hmoved).exists_before hrow
  have hitem : itemOf (named store row) = itemOf r := by
    unfold itemOf
    rw [← he.matter.title, ← he.matter.guids]
    rfl
  obtain ⟨contentType, htext⟩ := hk.contentType r hr
  have hknown : store.Knows row.userId := by
    rw [he.matter.userId]
    exact (horderly.user r hr).of_users (transition_users hmoved)
  cases hplaced : row.verdict.proposed with
  | none =>
    rcases execute_cases hp (named store row) { s with store } with
      ⟨-, s₁, hx, hs⟩ | ⟨placement, -, hsome, -⟩
    · rw [hx] at hlast
      have hboth := hs.trans hlast
      exact .inl ⟨hboth.attempts, (congrArg Store.usage hboth.store).trans husage⟩
    · cases hplaced.symm.trans hsome
  | some placement =>
    obtain ⟨accepted, hattempts, hcounted⟩ := execute_counts (s := { s with store })
      (r := named store row) hp ho hknown (he.matter.contentType.trans htext) hplaced
    have hproposed : r.verdict.proposed = some placement := by
      rw [← he.matter.verdict]
      exact hplaced
    refine .inr ⟨r, hr, he.matter.id.symm.trans hid, placement, accepted, contentType, hproposed,
      htext, ?_, ?_⟩
    · rw [← hitem]
      exact hlast.attempts.trans hattempts
    · rw [← husage, ← he.matter.userId]
      exact (congrArg Store.usage hlast.store).trans hcounted

end Desk

/-! ## What answering by a request counts -/

namespace Gate

variable {g : Gate} {item : Item} {context : Context} {s : Session} {r : Request}

/-- A submission that is answered by a request changes no table. -/
theorem sameTables_of_answered (hp : g.partners.Quiet) (hsyncing : context.syncing = false)
    (hlive : liveRequest context.primaryUserId (contentKey item context) s = (.ok (some r), s))
    (verdicts : List Verdict) : s.SameTables (g.process item context verdicts s).2 := by
  have hway := g.process_handles item context verdicts
  generalize g.process item context verdicts = x at hway ⊢
  cases hway with
  | nothing => exact .refl s
  | rejected => exact (s.sameRecords_journal _).toSameTables
  | synchronised _ syncing =>
    rw [hsyncing] at syncing
    cases syncing
  | asked =>
    rw [bind_of_ok hlive]
    exact keepsTables_honour hp item context.contentType r s

end Gate

namespace Step

/-- The rows of counted requests that were written in the step. -/
def counted (st : Step) : List Usage := st.after.store.usage.drop st.before.store.usage.length

/-- Whether the step is a submission that is answered by the request with an id: the request that is
stored for its user and its content, if it is not expired. -/
def isAnsweredBy (id : Int) (st : Step) : Bool :=
  match st.event with
  | .process item context _ => !context.syncing && context.primaryUserId.any fun userId =>
      (st.before.store.getRequestFor userId (contentKey item context)).toOption.join.any fun r =>
        r.status ≠ .expired && r.id = id
  | _ => false

/-- Whether in the step the request with an id is decided, or answers a submission. -/
def concerns (id : Int) (st : Step) : Bool :=
  st.event.decided? = some id || st.isAnsweredBy id

variable {st : Step} {id : Int}

theorem counted_eq_nil (h : st.after.store.usage = st.before.store.usage) : st.counted = [] := by
  rw [counted, h, List.drop_length]

theorem counted_eq {rows : List Usage}
    (h : st.after.store.usage = st.before.store.usage ++ rows) : st.counted = rows := by
  rw [counted, h, List.drop_left]

/-- Answering a submission by a request counts nobody. -/
theorem counted_of_answered (h : st.Happens st.before) (ho : st.before.outages = [])
    (hanswered : st.isAnsweredBy id = true) : st.counted = [] := by
  obtain ⟨service, hperform⟩ := h.perform_eq
  unfold isAnsweredBy at hanswered
  split at hanswered
  · rename_i item context verdicts hevent
    rw [Bool.and_eq_true, Bool.not_eq_true', Option.any_eq_true] at hanswered
    obtain ⟨hsyncing, userId, huser, hfound⟩ := hanswered
    obtain ⟨r, hr, hlive⟩ := (Option.any_eq_true _ _).1 hfound
    rw [Bool.and_eq_true, decide_eq_true_eq] at hlive
    have hfound := ok_of_toOption (Option.join_eq_some_iff.1 hr)
    have hlive := Gate.liveRequest_of_found ho hfound hlive.1
    rw [← huser] at hlive
    have hsame := Gate.sameTables_of_answered (g := service.gate) service.quiet_partners
      hsyncing hlive verdicts
    have hafter : (service.gate.process item context verdicts st.before).2 = st.after := by
      rw [hevent] at hperform
      exact (congrArg Prod.snd (map_of_eq Event.Answer.outcome rfl)).symm.trans
        (congrArg Prod.snd hperform)
    rw [hafter] at hsame
    exact counted_eq_nil (congrArg Store.usage hsame.store)
  · cases hanswered

/-- What a decision tries and counts. -/
theorem counted_of_decided (h : st.Happens st.before) (hs : Reachable st.before)
    (ho : st.before.outages = []) (hd : st.event.decided? = some id) :
    (st.attempts = [] ∧ st.counted = []) ∨
    ∃ r ∈ st.before.store.requests, r.id = id ∧ ∃ placement accepted contentType,
      r.verdict.proposed = some placement ∧ r.contentType = .text contentType ∧
      st.attempts = [⟨Desk.itemOf r, placement, accepted⟩] ∧
      st.counted = Desk.countedIf accepted ⟨r.userId, contentType, st.before.now.date⟩ := by
  obtain ⟨service, hperform⟩ := h.perform_eq
  cases hevent : st.event with
  | approve id' decidedBy notes =>
    rw [hevent] at hd hperform
    obtain rfl : id' = id := Option.some.inj hd
    have hafter : (Desk.approve service.partners id' decidedBy notes st.before).2 = st.after :=
      (congrArg Prod.snd (map_of_eq Event.Answer.decision rfl)).symm.trans
        (congrArg Prod.snd hperform)
    have hcounts := Desk.approve_counts service.quiet_partners ho hs.wellKept hs.orderly id'
      decidedBy notes
    rw [hafter] at hcounts
    rcases hcounts with ⟨hattempts, husage⟩ |
      ⟨r, hr, hid, placement, accepted, contentType, hplaced, htext, hattempts, husage⟩
    · exact .inl ⟨attempts_eq_nil hattempts, counted_eq_nil husage⟩
    · exact .inr ⟨r, hr, hid, placement, accepted, contentType, hplaced, htext,
        attempts_eq_singleton hattempts, counted_eq husage⟩
  | reject id' decidedBy reason =>
    rw [hevent] at hd hperform
    have hafter : (Desk.reject service.partners id' decidedBy reason st.before).2 = st.after :=
      (congrArg Prod.snd (map_of_eq Event.Answer.decision rfl)).symm.trans
        (congrArg Prod.snd hperform)
    have heffect := Desk.reject_effect service.quiet_partners id' decidedBy reason st.before
    rcases hx : Desk.reject service.partners id' decidedBy reason st.before with ⟨result, s₁⟩
    rw [hx] at heffect hafter
    obtain rfl : s₁ = st.after := hafter
    refine .inl ?_
    cases heffect with
    | kept same =>
      exact ⟨attempts_eq_nil same.attempts, counted_eq_nil (congrArg Store.usage same.store)⟩
    | declined _ moved same =>
      exact ⟨attempts_eq_nil same.attempts,
        counted_eq_nil ((congrArg Store.usage same.store).trans (transition_usage moved))⟩
    | unplaced approves => cases approves
    | tried approves => cases approves
    | counted approves => cases approves
  | _ =>
    rw [hevent] at hd
    cases hd

/-- A step that drops no counted request adds those that it writes. -/
theorem Sound.usage_eq (h : st.Sound) (hkeep : ∀ days, st.event ≠ .cleanUsage days) :
    st.after.store.usage = st.before.store.usage ++ st.counted := by
  cases h.counting with
  | kept same => rw [counted_eq_nil same, same, List.append_nil]
  | routed _ _ _ _ added => rw [counted_eq added, added]
  | executed _ added => rw [counted_eq added, added]
  | discarded event => exact absurd event (hkeep _)

/-- Nothing but deleting it takes an approved request away. -/
theorem Sound.approved_stays (h : st.Sound) (hdelete : ∀ id, st.event ≠ .delete id) {r : Request}
    (hr : r ∈ st.before.store.requests) (happroved : r.status = .approved) :
    r ∈ st.after.store.requests := by
  have hwaits : r.status ≠ .pending := by
    rw [happroved]
    exact nofun
  have hlive : r.status ≠ .expired := by
    rw [happroved]
    exact nofun
  obtain ⟨service, hchange⟩ := h.change
  rcases hchange.lawful h.wellKept with hcarried | ⟨_, _, -, -, hfiled⟩
  · refine hcarried.mem_of_kept hr (fun hdropped => ?_) hwaits
    cases hevent : st.event with
    | delete id => exact absurd hevent (hdelete id)
    | cleanup days =>
      rw [hevent] at hdropped
      exact absurd hdropped hlive
    | _ =>
      rw [hevent] at hdropped
      cases hdropped
  · exact hfiled.mem_of_live hr hlive

end Step

/-! ## Over a run -/

/-- The rows of counted requests that were written because of the request with an id. -/
def usageFor (id : Int) (sts : List Step) : List Usage :=
  (sts.filter (Step.concerns id)).flatMap Step.counted

theorem usageFor_nil {id : Int} {sts : List Step}
    (h : ∀ st ∈ sts, st.concerns id = true → st.counted = []) : usageFor id sts = [] := by
  refine List.flatMap_eq_nil_iff.2 fun st hst => ?_
  obtain ⟨hmem, hconcerns⟩ := List.mem_filter.1 hst
  exact h st hmem hconcerns

theorem usageFor_append (id : Int) (front : List Step) (st : Step) (back : List Step)
    (h : st.concerns id = true) :
    usageFor id (front ++ st :: back) = usageFor id front ++ (st.counted ++ usageFor id back) := by
  simp [usageFor, h]

namespace Linked

variable {s s' : Session} {sts : List Step} {id : Int}

/-- As long as nothing is dropped, the table of counted requests grows by what the steps write. -/
theorem usage_eq (h : Linked s sts s') (hk : WellKept s.store.requests)
    (hkeep : ∀ st ∈ sts, ∀ days, st.event ≠ .cleanUsage days) :
    s'.store.usage = s.store.usage ++ sts.flatMap Step.counted := by
  have hsound := (h.sound hk).2
  induction h with
  | nil => exact (List.append_nil _).symm
  | @cons s _ st sts happens _ ih =>
    have hst := hsound st List.mem_cons_self
    have hfirst := hst.usage_eq (hkeep st List.mem_cons_self)
    rw [happens.before_eq] at hfirst
    rw [ih hst.wellKeptAfter (fun x hx => hkeep x (List.mem_cons_of_mem _ hx))
      (fun x hx => hsound x (List.mem_cons_of_mem _ hx)), hfirst, List.flatMap_cons,
      List.append_assoc]

/-- An approved request stays as long as no request is deleted. -/
theorem approved_stays (h : Linked s sts s') (hk : WellKept s.store.requests)
    (hdelete : ∀ st ∈ sts, ∀ id, st.event ≠ .delete id) {r : Request}
    (hr : r ∈ s.store.requests) (happroved : r.status = .approved) : r ∈ s'.store.requests := by
  have hsound := (h.sound hk).2
  induction h with
  | nil => exact hr
  | @cons s _ st sts happens _ ih =>
    have hst := hsound st List.mem_cons_self
    rw [← happens.before_eq] at hr
    exact ih hst.wellKeptAfter (fun x hx => hdelete x (List.mem_cons_of_mem _ hx))
      (hst.approved_stays (hdelete st List.mem_cons_self) hr happroved)
      fun x hx => hsound x (List.mem_cons_of_mem _ hx)

/-- Of two steps at most one approves a request, as long as no request is deleted. -/
theorem approves_once {front middle back : List Step} {st st' : Step}
    (h : Linked s (front ++ st :: (middle ++ st' :: back)) s') (hk : WellKept s.store.requests)
    (hdelete : ∀ x ∈ front ++ st :: (middle ++ st' :: back), ∀ id, x.event ≠ .delete id)
    (ha : st.Approves id) : ¬ st'.Approves id := by
  intro ha'
  have hst := (h.sound hk).2 st (by simp)
  have hst' := (h.sound hk).2 st' (by simp)
  obtain ⟨-, r, hr, hid, happroved⟩ := ha
  obtain ⟨⟨r', hr', hid', hpending⟩, -⟩ := ha'
  have hstays := h.at_step.2.at_step.1.approved_stays hst.wellKeptAfter
    (fun x hx => hdelete x (by simp [hx])) hr happroved
  obtain rfl := hst'.wellKept.eq_of_id hr' hstays (hid'.trans hid.symm)
  rw [hpending] at happroved
  cases happroved

end Linked

theorem isFor_of_mem {rows : List Request} (hk : WellKept rows) {r : Request} (hr : r ∈ rows)
    {placement : Placement} (hplaced : r.verdict.proposed = some placement) :
    IsFor r.id (Desk.itemOf r) placement rows := by
  intro r' hr' hid
  obtain rfl := hk.eq_of_id hr' hr hid
  exact ⟨hplaced, rfl⟩

/-- A step that does not approve a request writes no row because of it. -/
theorem Step.counted_of_not_approves {st : Step} {id : Int} (h : st.Happens st.before)
    (hsound : st.Sound) (hs : Reachable st.before) (ho : st.before.outages = [])
    (hconcerns : st.concerns id = true) (hn : ¬ st.Approves id) : st.counted = [] := by
  rcases (Bool.or_eq_true _ _).mp hconcerns with hd | hanswered
  · have hd := of_decide_eq_true hd
    rcases counted_of_decided h hs ho hd with
      ⟨-, hcounted⟩ | ⟨r, hr, rfl, placement, accepted, _, hplaced, -, hattempts, -⟩
    · exact hcounted
    · rcases hsound.decision hd ho (isFor_of_mem hsound.wellKept hr hplaced) with
        ⟨hnone, -⟩ | ⟨ha, -⟩
      · rw [hnone] at hattempts
        cases hattempts
      · exact absurd ha hn
  · exact counted_of_answered h ho hanswered

/-- Consider any course of operations in which nothing in the store is out of order, no request is
deleted and no counted request dropped, and a step in it that approves a request with a placement.
The placement is tried in this step, and because of the request exactly one row is written in the
whole course if the instance took the content then, and none if it did not, however often it took it
when the same content was submitted again. The row stays in the table. -/
theorem counted_iff_taken_at_approval {s : Session} (hs : Reachable s) (ts : List Turn)
    (ho : ∀ st ∈ Course.steps ts s, st.before.outages = [])
    (hdelete : ∀ st ∈ Course.steps ts s, ∀ id, st.event ≠ .delete id)
    (hkeep : ∀ st ∈ Course.steps ts s, ∀ days, st.event ≠ .cleanUsage days)
    {st : Step} (hst : st ∈ Course.steps ts s) {r : Request} (ha : st.Approves r.id)
    (hr : r ∈ st.before.store.requests) {placement : Placement}
    (hplaced : r.verdict.proposed = some placement) :
    ∃ accepted contentType, r.contentType = .text contentType ∧
      st.attempts = [⟨Desk.itemOf r, placement, accepted⟩] ∧
      usageFor r.id (Course.steps ts s)
        = (if accepted = some true then [⟨r.userId, contentType, st.before.now.date⟩] else []) ∧
      (usageFor r.id (Course.steps ts s)).Sublist (Course.run ts s).store.usage := by
  have hlinked := Course.linked ts s
  have hsound := (hlinked.sound hs.wellKept).2
  have hreachable := (hlinked.reachable hs).2
  have hd := (hsound st hst).decided ha
  have hfor := isFor_of_mem (hsound st hst).wellKept hr hplaced
  rcases (hsound st hst).decision hd (ho st hst) hfor with ⟨-, hn⟩ | ⟨-, accepted, hattempts⟩
  · exact absurd ha hn
  rcases Step.counted_of_decided (hlinked.happens hst) (hreachable st hst).1 (ho st hst) hd with
    ⟨hnone, -⟩ | ⟨r', hr', hid, placement', accepted', contentType, hplaced', htext, hattempts',
      hcounted⟩
  · rw [hnone] at hattempts
    cases hattempts
  obtain rfl := (hsound st hst).wellKept.eq_of_id hr' hr hid
  have hanswer : accepted' = accepted := by
    have hsame := hattempts'.symm.trans hattempts
    exact (Attempt.mk.inj (List.cons.inj hsame).1).2.2
  rw [hanswer] at hcounted
  have hothers : ∀ x ∈ Course.steps ts s, x.concerns r'.id = true → ¬ x.Approves r'.id →
      x.counted = [] := fun x hx hconcerns hn =>
    Step.counted_of_not_approves (hlinked.happens hx) (hsound x hx) (hreachable x hx).1 (ho x hx)
      hconcerns hn
  have hconcerns : st.concerns r'.id = true := by
    simp [Step.concerns, hd]
  refine ⟨accepted, contentType, htext, hattempts, ?_, ?_⟩
  · obtain ⟨front, back, hsplit⟩ := List.append_of_mem hst
    rw [hsplit] at hlinked hdelete hothers ⊢
    -- the steps before and after this one approve nothing under the id
    have hfront : usageFor r'.id front = [] := usageFor_nil fun x hx hc => by
      refine hothers x (List.mem_append_left _ hx) hc fun hax => ?_
      obtain ⟨front₁, front₂, rfl⟩ := List.append_of_mem hx
      rw [List.append_assoc, List.cons_append] at hlinked hdelete
      exact hlinked.approves_once hs.wellKept hdelete hax ha
    have hback : usageFor r'.id back = [] := usageFor_nil fun x hx hc => by
      refine hothers x (List.mem_append_right _ (List.mem_cons_of_mem _ hx)) hc fun hax => ?_
      obtain ⟨back₁, back₂, rfl⟩ := List.append_of_mem hx
      exact hlinked.approves_once hs.wellKept hdelete ha hax
    rw [usageFor_append _ _ _ _ hconcerns, hfront, hback, List.append_nil, List.nil_append, hcounted]
    rfl
  · rw [hlinked.usage_eq hs.wellKept hkeep]
    exact (List.Sublist.flatMap List.filter_sublist _).trans (List.sublist_append_right _ _)

/-- For instance, a film is taken when it is approved, and taken again when it is submitted again. -/
theorem counted_iff_taken_at_approval_taken_twice :
    let service : Service := {}
    let ts : List Turn := [
      ⟨service, .single (.putUser 1 (.text "Ann") (.bool true))⟩,
      ⟨service, .single (.putInstance { id := 1, type := .text "radarr" })⟩,
      ⟨service, .single (.film 1 "Dune" ["tmdb:438631"])⟩,
      ⟨service, .approveAll [1, 1] (.int 7) .null⟩,
      ⟨service, .single (.film 1 "Dune" ["tmdb:438631"])⟩]
    let s : Session := { now := .ofDate ⟨738959⟩ }
    (Course.run ts s).attempts.map Attempt.accepted = [some true, some true] ∧
      ∃ u, usageFor 1 (Course.steps ts s) = [u] ∧ u ∈ (Course.run ts s).store.usage := by
  intro service ts s
  have hevents : (Course.steps ts s).all (fun st => st.before.outages.isEmpty &&
      match st.event with
      | .delete _ => false
      | .cleanUsage _ => false
      | _ => true) = true := by decide +kernel
  have hevent : ∀ st ∈ Course.steps ts s, st.before.outages = [] ∧
      (∀ id, st.event ≠ .delete id) ∧ ∀ days, st.event ≠ .cleanUsage days := by
    intro st hst
    obtain ⟨ho, he⟩ := (Bool.and_eq_true _ _).mp (List.all_eq_true.1 hevents st hst)
    exact ⟨List.isEmpty_iff.1 ho, fun id h => (by rw [h] at he; cases he),
      fun days h => (by rw [h] at he; cases he)⟩
  have happroved : ∃ st ∈ Course.steps ts s, st.Approves 1 ∧
      ∀ r ∈ st.before.store.requests, r.verdict.proposed.isSome = true := by
    unfold Step.Approves
    decide +kernel
  obtain ⟨st, hst, ha, hplaced⟩ := happroved
  obtain ⟨r, hr, hid, -⟩ := ha.1
  obtain ⟨placement, hplaced⟩ := Option.isSome_iff_exists.1 (hplaced r hr)
  obtain ⟨accepted, contentType, -, -, husage, hstays⟩ := counted_iff_taken_at_approval (.start rfl)
    ts (fun st hst => (hevent st hst).1) (fun st hst => (hevent st hst).2.1)
    (fun st hst => (hevent st hst).2.2) hst (hid ▸ ha) hr hplaced
  have hone : (usageFor 1 (Course.steps ts s)).length = 1 := by decide +kernel
  obtain ⟨u, hu⟩ := List.length_eq_one_iff.1 hone
  rw [hid, hu] at hstays
  exact ⟨by decide +kernel, u, hu, hstays.subset List.mem_cons_self⟩

/-- A film that no instance took when it was approved, and that one took when it was submitted again,
is not counted. -/
theorem taken_by_replay_uncounted :
    let service : Service := {}
    let ts : List Turn := [
      ⟨service, .single (.putUser 1 (.text "Ann") (.bool true))⟩,
      ⟨service, .single (.film 1 "Dune" ["tmdb:438631"])⟩,
      ⟨service, .single (.approve 1 (.int 7) .null)⟩,
      ⟨service, .single (.putInstance { id := 1, type := .text "radarr" })⟩,
      ⟨service, .single (.film 1 "Dune" ["tmdb:438631"])⟩]
    let s : Session := { now := .ofDate ⟨738959⟩ }
    (∃ st ∈ Course.steps ts s, st.Approves 1) ∧
      (∀ st ∈ Course.steps ts s, st.before.outages.isEmpty = true) ∧
      (Course.run ts s).attempts.map Attempt.accepted = [some false, some true] ∧
      usageFor 1 (Course.steps ts s) = [] ∧ (Course.run ts s).store.usage = [] := by
  unfold Step.Approves
  decide +kernel

end Watchgate
