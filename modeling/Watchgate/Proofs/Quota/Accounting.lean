import Watchgate.Proofs.Approval.Lifecycle

/-!
# Keeping account of requests

A row of the table of counted requests stands for something that was carried out: a submission that
was routed for a user, or an approval whose placement an instance took. The first part inverts what a
step does to the table; the second adds the steps of a run up.
-/

namespace Watchgate

open Act Calendar Store

namespace Store

theorem addRequest_usage {n : NewRequest} {now : Moment} {s s' : Store} {request : Request}
    (h : s.addRequest n now = .ok (request, s')) : s'.usage = s.usage := by
  obtain ⟨_, _, -, -, rfl, -⟩ := addRequest_ok h
  rfl

theorem transition_usage {id : Int} {t : Transition} {now : Moment} {s s' : Store} {moved : Bool}
    (h : s.transition id t now = .ok (moved, s')) : s'.usage = s.usage := by
  obtain ⟨-, _, _, rfl⟩ := transition_ok h
  rfl

end Store

namespace Step

/-- Whether the step is a submission that was routed and counts for a user and a type of content:
neither content that is synchronised nor a request that was approved before counts. -/
def routes (userId : Int) (contentType : String) (st : Step) : Bool :=
  match st.event, st.result with
  | .process _ context _, .ok (.outcome o) =>
    Gate.countedFor context o = some userId && Column.keepsAs context.contentType contentType
  | _, _ => false

/-- Whether the step is an approval that was carried out for a user and a type of content. -/
def executes (userId : Int) (contentType : String) (st : Step) : Bool :=
  match st.event, st.result with
  | .approve .., .ok (.decision d) =>
    d.executed && d.request.userId = userId && Column.keepsAs d.request.contentType contentType
  | _, _ => false

/-- What a step does to the table of counted requests. -/
inductive Counting (st : Step) : Prop where
  /-- The table stays, and nothing is said to be carried out. -/
  | kept (same : st.after.store.usage = st.before.store.usage)
      (unrouted : ∀ userId contentType, st.routes userId contentType = false)
      (idle : ∀ userId contentType, st.executes userId contentType = false)
  /-- A submission is counted for its primary user, against whom nothing was found. -/
  | routed {item : Item} {context : Context} {verdicts : List Verdict} {o : Outcome}
      {primary : Verdict} {p : Placement} {rest : List (Verdict × Placement)} {s : Session}
      {userId : Int} {stored : String} (event : st.event = .process item context verdicts)
      (result : st.result = .ok (.outcome o)) (user : Gate.countedFor context o = some userId)
      (contentType : Column.text context.contentType = .ok (.text stored))
      (added : st.after.store.usage
        = st.before.store.usage ++ [⟨userId, stored, st.before.now.date⟩])
      (first : verdicts.filterMap Gate.actionable? = (primary, p) :: rest)
      (asked : st.before.SameTables s)
      (free : (Gate.userReason context.contentType userId p s).1 = .ok none)
  /-- An approval is counted for the user of the request. -/
  | executed {id : Int} {decidedBy notes : Value} {userId : Int} {stored : String}
      (event : st.event = .approve id decidedBy notes)
      (added : st.after.store.usage
        = st.before.store.usage ++ [⟨userId, stored, st.before.now.date⟩])
      (told : st.before.network.Delivers → ∃ d, st.result = .ok (.decision d) ∧
        d.executed = true ∧ d.request.userId = userId ∧ d.request.contentType = .text stored)
  /-- Requests counted before some day are dropped. -/
  | discarded {days : Int} {day : Date} (event : st.event = .cleanUsage days)
      (left : st.after.store.usage
        = st.before.store.usage.filter fun u => day.ordinal ≤ u.date.ordinal)

theorem routes_of_not_process {st : Step} (h : ∀ i c vs, st.event ≠ .process i c vs) (userId : Int)
    (contentType : String) : st.routes userId contentType = false := by
  unfold routes
  split
  · exact absurd ‹_› (h _ _ _)
  · rfl

theorem executes_of_not_approve {st : Step} (h : ∀ i b n, st.event ≠ .approve i b n) (userId : Int)
    (contentType : String) : st.executes userId contentType = false := by
  unfold executes
  split
  · exact absurd ‹_› (h _ _ _)
  · rfl

theorem routes_of_uncounted {s s' : Session} {item : Item} {context : Context}
    {verdicts : List Verdict} {result : Except Failure Outcome}
    (h : ∀ o, result = .ok o → Gate.countedFor context o = none) (userId : Int)
    (contentType : String) :
    routes userId contentType ⟨s, .process item context verdicts, result.map .outcome, s'⟩
      = false := by
  cases result with
  | error e => rfl
  | ok o =>
    change (decide (Gate.countedFor context o = some userId) && _) = false
    rw [h o rfl]
    rfl

theorem executes_of_idle {s s' : Session} {id : Int} {decidedBy notes : Value}
    {result : Except Failure Decision} (h : Desk.Idle result) (userId : Int)
    (contentType : String) :
    executes userId contentType ⟨s, .approve id decidedBy notes, result.map .decision, s'⟩
      = false := by
  cases result with
  | error e => rfl
  | ok d =>
    change (d.executed && _ && _) = false
    rw [h d rfl]
    rfl

theorem routes_of_process {st : Step} {item : Item} {context : Context} {verdicts : List Verdict}
    {o : Outcome} (event : st.event = .process item context verdicts)
    (result : st.result = .ok (.outcome o)) (userId : Int) (contentType : String) :
    st.routes userId contentType = (decide (Gate.countedFor context o = some userId)
      && Column.keepsAs context.contentType contentType) := by
  unfold routes
  rw [event, result]

theorem executes_of_approve {st : Step} {id : Int} {decidedBy notes : Value} {d : Decision}
    (event : st.event = .approve id decidedBy notes) (result : st.result = .ok (.decision d))
    (userId : Int) (contentType : String) :
    st.executes userId contentType = (d.executed && d.request.userId = userId
      && Column.keepsAs d.request.contentType contentType) := by
  unfold executes
  rw [event, result]

theorem Counting.of_not_dealing {st : Step} (h : st.event.isDealing = false)
    (same : st.after.store.usage = st.before.store.usage) : st.Counting := by
  refine .kept same (routes_of_not_process ?_) (executes_of_not_approve ?_)
  · intro item context verdicts he
    rw [he] at h
    cases h
  · intro id decidedBy notes he
    rw [he] at h
    cases h

/-- A submission keeps the table of counted requests or counts its primary user. -/
theorem counting_of_process {item : Item} {context : Context} {verdicts : List Verdict}
    {s s' : Session} {result : Except Failure Outcome}
    (h : Gate.Effect item context verdicts s (result, s')) :
    Counting ⟨s, .process item context verdicts, result.map .outcome, s'⟩ := by
  have hidle : ∀ userId contentType, executes userId contentType
      ⟨s, .process item context verdicts, result.map .outcome, s'⟩ = false :=
    executes_of_not_approve nofun
  cases h with
  | kept same uncounted =>
    exact .kept (congrArg Store.usage same.store) (routes_of_uncounted uncounted) hidle
  | made _ _ _ added same waits =>
    refine .kept ?_ (routes_of_uncounted fun o ho => ?_) hidle
    · exact (congrArg Store.usage same.store).trans (addRequest_usage added)
    · exact Gate.countedFor_of_kind (by rw [waits o ho]; decide)
  | counted first asked free written same counts =>
    obtain ⟨stored, hstored, rfl⟩ := putUsage_ok written
    exact .routed rfl rfl counts hstored (congrArg Store.usage same.store) first asked free

/-- A decision keeps the table of counted requests, unless it is an approval that was carried out. -/
theorem usage_of_decision {p : Partners} {id : Int} {isApproval : Bool} {s s' : Session}
    {result : Except Failure Decision} (h : Desk.Effect p id isApproval s (result, s')) :
    (s'.store.usage = s.store.usage ∧ Desk.Idle result) ∨
    (isApproval = true ∧ ∃ r, ∃ row ∈ s'.store.requests, r = named s'.store row ∧
      (∃ stored, Column.text r.contentType = .ok (.text stored) ∧
        s'.store.usage = s.store.usage ++ [⟨r.userId, stored, s.now.date⟩]) ∧
      (result = .ok { request := r, changed := true, executed := true } ∨
        ∃ s₁ e, s.SameTables { s₁ with store := s.store } ∧
          (p.tellResolved r s₁).1 = .error e)) := by
  cases h with
  | kept same idle => exact .inl ⟨congrArg Store.usage same.store, idle⟩
  | declined _ moved same idle =>
    exact .inl ⟨(congrArg Store.usage same.store).trans (transition_usage moved), idle⟩
  | unplaced _ _ moved same idle =>
    exact .inl ⟨(congrArg Store.usage same.store).trans (transition_usage moved), idle⟩
  | tried _ _ moved _ _ same _ idle =>
    exact .inl ⟨(congrArg Store.usage same.store).trans (transition_usage moved), idle⟩
  | counted approves _ moved found _ written same _ told =>
    obtain ⟨stored, hstored, rfl⟩ := putUsage_ok written
    obtain ⟨row, hrow, -, rfl⟩ := getRequest_ok found
    refine .inr ⟨approves, _, row, ?_, ?_, ⟨stored, hstored, ?_⟩, told⟩
    · rw [same.store]
      exact hrow
    · rw [same.store]
      rfl
    · rw [← transition_usage moved]
      exact congrArg Store.usage same.store

/-- An approval keeps the table of counted requests or counts the user of the request, and says so if
the notice about it is delivered. -/
theorem counting_of_approval {service : Service} {id : Int} {decidedBy notes : Value}
    {s s' : Session} {result : Except Failure Decision}
    (h : Desk.Effect service.partners id true s (result, s')) (hk : WellKept s'.store.requests) :
    Counting ⟨s, .approve id decidedBy notes, result.map .decision, s'⟩ := by
  rcases usage_of_decision h with ⟨same, idle⟩ | ⟨-, r, row, hrow, hr, ⟨stored, hs, added⟩, told⟩
  · exact .kept same (routes_of_not_process nofun) (executes_of_idle idle)
  obtain ⟨contentType, hct⟩ : ∃ t, r.contentType = .text t := by
    rw [hr]
    exact hk.contentType row hrow
  obtain ⟨trigger, htrigger⟩ : ∃ t, r.triggeredBy = .text t := by
    rw [hr]
    exact hk.triggeredBy row hrow
  rw [hct, Column.text_text] at hs
  obtain rfl := Value.text.inj (Except.ok.inj hs)
  refine .executed rfl added fun hn => ?_
  rcases told with rfl | ⟨s₁, e, same, herror⟩
  · exact ⟨_, rfl, rfl, rfl, hct⟩
  · have hdelivers : s₁.network.Delivers := same.network.delivers hn
    have htold := Partners.real_tellResolved_ok service.isDryRun service.notifier htrigger hdelivers
    cases htold.symm.trans herror

/-- Every step does one of the four things to the table of counted requests. -/
theorem Sound.counting {st : Step} (h : st.Sound) : st.Counting := by
  obtain ⟨service, hchange⟩ := h.change
  have hk := h.wellKeptAfter
  obtain ⟨before, event, result, after⟩ := st
  dsimp only at hchange hk
  cases hchange with
  | idle same other => exact .of_not_dealing other same.usage
  | clock => exact .of_not_dealing rfl rfl
  | processed effect => exact counting_of_process effect
  | approved effect => exact counting_of_approval effect hk
  | rejected effect =>
    rcases usage_of_decision effect with ⟨same, -⟩ | ⟨h, -⟩
    · exact .kept same (routes_of_not_process nofun) (executes_of_not_approve nofun)
    · cases h
  | deleted dropped same =>
    rw [dropRequest_ok dropped] at same
    exact .of_not_dealing rfl ((congrArg Store.usage same.store).trans rfl)
  | swept same => exact .of_not_dealing rfl ((congrArg Store.usage same.store).trans rfl)
  | cleaned same => exact .of_not_dealing rfl ((congrArg Store.usage same.store).trans rfl)
  | discarded same => exact .discarded rfl (congrArg Store.usage same.store)

/-! ## Adding up -/

theorem keepsAs_eq {v : Value} {stored : String} (h : Column.text v = .ok (.text stored))
    (userId userId' : Int) (contentType : String) (date : Date) :
    (decide (userId' = userId) && Column.keepsAs v contentType)
      = counts userId contentType ⟨userId', stored, date⟩ := by
  rw [Column.keepsAs_of_text h]
  rfl

/-- A step adds one row at most, and rows for a user and a type of content as it says that it carried
something out for them. -/
theorem Counting.rows {st : Step} (h : st.Counting)
    (hn : ∀ id decidedBy notes, st.event = .approve id decidedBy notes → st.before.network.Delivers)
    (hkeep : ∀ days, st.event ≠ .cleanUsage days) :
    ∃ rows, st.after.store.usage = st.before.store.usage ++ rows ∧ rows.length ≤ 1 ∧
      ∀ userId contentType, rows.countP (counts userId contentType)
        = (if st.routes userId contentType then 1 else 0)
          + if st.executes userId contentType then 1 else 0 := by
  cases h with
  | kept same unrouted idle =>
    refine ⟨[], by rw [same, List.append_nil], Nat.zero_le 1, fun userId contentType => ?_⟩
    rw [unrouted, idle]
    rfl
  | @routed _ _ _ _ _ _ _ _ userId' stored event result user hstored added =>
    refine ⟨_, added, Nat.le_refl 1, fun userId contentType => ?_⟩
    have hroutes : st.routes userId contentType
        = counts userId contentType ⟨userId', stored, st.before.now.date⟩ := by
      rw [routes_of_process event result, ← keepsAs_eq hstored userId userId', user]
      simp only [Option.some.injEq]
    have hexecutes : st.executes userId contentType = false :=
      executes_of_not_approve (by rw [event]; nofun) userId contentType
    rw [List.countP_singleton, hroutes, hexecutes, if_neg Bool.false_ne_true, Nat.add_zero]
  | @executed _ _ _ userId' stored event added told =>
    refine ⟨_, added, Nat.le_refl 1, fun userId contentType => ?_⟩
    obtain ⟨d, hd, hexecuted, huser, hcontentType⟩ := told (hn _ _ _ event)
    have hstored : Column.text d.request.contentType = .ok (.text stored) := by
      rw [hcontentType, Column.text_text]
    have hexecutes : st.executes userId contentType
        = counts userId contentType ⟨userId', stored, st.before.now.date⟩ := by
      rw [executes_of_approve event hd, ← keepsAs_eq hstored userId userId', hexecuted, huser,
        Bool.true_and]
    have hroutes : st.routes userId contentType = false :=
      routes_of_not_process (by rw [event]; nofun) userId contentType
    rw [List.countP_singleton, hroutes, hexecutes, if_neg Bool.false_ne_true, Nat.zero_add]
  | discarded event => exact absurd event (hkeep _)

end Step

/-- Over a run the rows of a user and a type of content grow by what was carried out for them. -/
theorem Linked.countP_usage {s s' : Session} {sts : List Step} (h : Linked s sts s')
    (hk : WellKept s.store.requests) (hkeep : ∀ st ∈ sts, ∀ days, st.event ≠ .cleanUsage days)
    (hn : ∀ st ∈ sts, ∀ id decidedBy notes, st.event = .approve id decidedBy notes →
      st.before.network.Delivers) (userId : Int) (contentType : String) :
    s'.store.usage.countP (counts userId contentType)
      = s.store.usage.countP (counts userId contentType)
        + (sts.countP (Step.routes userId contentType)
          + sts.countP (Step.executes userId contentType)) := by
  have hsound := (h.sound hk).2
  induction h with
  | nil => rfl
  | @cons s _ st sts happens _ ih =>
    have hst := hsound st List.mem_cons_self
    obtain ⟨rows, hrows, -, hcount⟩ :=
      hst.counting.rows (hn st List.mem_cons_self) (hkeep st List.mem_cons_self)
    have hrest := ih hst.wellKeptAfter (fun x hx => hkeep x (List.mem_cons_of_mem _ hx))
      (fun x hx => hn x (List.mem_cons_of_mem _ hx))
      fun x hx => hsound x (List.mem_cons_of_mem _ hx)
    rw [happens.before_eq] at hrows
    rw [hrest, hrows, List.countP_append, hcount, List.countP_cons, List.countP_cons]
    omega

/-- Consider any course of operations that starts where nothing is counted, never drops what was
counted, and in which the notice about each approval is answered or its exchange breaks off. For each
user and type of content as many requests are counted as submissions were routed, apart from what is
synchronised or was requested before, and approvals were carried out. No step counts more than one,
and a step that neither routes nor carries out counts none. -/
theorem counted_eq_routed_add_executed {s : Session} (hs : Reachable s)
    (hempty : s.store.usage = []) (ts : List Turn)
    (hkeep : ∀ st ∈ Course.steps ts s, ∀ days, st.event ≠ .cleanUsage days)
    (hn : ∀ st ∈ Course.steps ts s, ∀ id decidedBy notes,
      st.event = .approve id decidedBy notes → st.before.network.Delivers) :
    (∀ userId contentType, (Course.run ts s).store.usage.countP (counts userId contentType)
      = (Course.steps ts s).countP (Step.routes userId contentType)
        + (Course.steps ts s).countP (Step.executes userId contentType)) ∧
    ∀ st ∈ Course.steps ts s, ∃ rows, st.after.store.usage = st.before.store.usage ++ rows ∧
      rows.length ≤ 1 ∧ ((∀ userId contentType, st.routes userId contentType = false ∧
        st.executes userId contentType = false) → rows = []) := by
  have hlinked := Course.linked ts s
  refine ⟨fun userId contentType => ?_, fun st hst => ?_⟩
  · have hcount := hlinked.countP_usage hs.wellKept hkeep hn userId contentType
    rw [hempty, List.countP_nil, Nat.zero_add] at hcount
    exact hcount
  · have hcounting := ((hlinked.sound hs.wellKept).2 st hst).counting
    obtain ⟨rows, hrows, hone, hcount⟩ := hcounting.rows (hn st hst) (hkeep st hst)
    refine ⟨rows, hrows, hone, fun hidle => ?_⟩
    cases rows with
    | nil => rfl
    | cons u rest =>
      have hu := hcount u.userId u.contentType
      rw [(hidle _ _).1, (hidle _ _).2, List.countP_cons_of_pos (counts_iff.2 ⟨rfl, rfl⟩)] at hu
      cases hu

/-- For instance, Ann's film waits and is approved, and Bob's is added twice at once. -/
theorem counted_eq_routed_add_executed_two_users :
    let service : Service := {}
    let film : Item := { title := .text "Dune", guids := ["tmdb:438631"] }
    let movieOf (userId : Int) : Context := { contentType := .text "movie", userId := .one userId }
    let ts : List Turn := [
      ⟨service, .single (.putUser 1 (.text "Ann") (.bool true))⟩,
      ⟨service, .single (.putUser 2 (.text "Bob") (.bool false))⟩,
      ⟨service, .single (.putInstance { id := 1, type := .text "radarr" })⟩,
      ⟨service, .single (.process film (movieOf 1) [.route { instanceId := 1 }])⟩,
      ⟨service, .single (.process film (movieOf 2)
        [.route { instanceId := 1 }, .route { instanceId := 1, tags := [.text "4k"] }])⟩,
      ⟨service, .approveAll [1, 1] (.int 7) .null⟩]
    let s : Session := { now := .ofDate ⟨738959⟩ }
    (Course.run ts s).store.usage.countP (counts 1 "movie") = 1 ∧
      (Course.run ts s).store.usage.countP (counts 2 "movie") = 1 := by
  intro service film movieOf ts s
  have hs : Reachable s := .start rfl
  have hevents : (Course.steps ts s).all (fun st =>
      match st.event with
      | .cleanUsage _ => false
      | _ => true) = true := by decide +kernel
  have hnetworks : (Course.steps ts s).all (·.before.network.isEmpty) = true := by decide +kernel
  obtain ⟨htotal, -⟩ := counted_eq_routed_add_executed hs rfl ts
    (fun st hst days he => by
      have hst := List.all_eq_true.1 hevents st hst
      rw [he] at hst
      cases hst)
    (fun st hst _ _ _ _ => by
      rw [List.isEmpty_iff.1 (List.all_eq_true.1 hnetworks st hst)]
      exact Network.delivers_nil)
  have hann : (Course.steps ts s).countP (Step.routes 1 "movie")
      + (Course.steps ts s).countP (Step.executes 1 "movie") = 1 := by decide +kernel
  have hbob : (Course.steps ts s).countP (Step.routes 2 "movie")
      + (Course.steps ts s).countP (Step.executes 2 "movie") = 1 := by decide +kernel
  exact ⟨(htotal 1 "movie").trans hann, (htotal 2 "movie").trans hbob⟩

/-- A request that is approved and added is counted before anybody is told. If the notice then goes wrong,
the approval ends without an answer, and what was counted stands for nothing that is said to be done. -/
theorem counted_without_answer :
    let service : Service := { notifier := some { apiKey := .text "key" } }
    let unreachable : Network := [
      ("POST https://notifiarr.com/api/v1/notification/passthrough/key",
        [.failed (.unforeseen "no time to connect")])]
    let ts : List Turn := [
      ⟨service, .single (.putUser 1 (.text "Ann") (.bool true))⟩,
      ⟨service, .single (.putInstance { id := 1, type := .text "radarr" })⟩,
      ⟨service, .single (.film 1 "Dune" ["tmdb:438631"])⟩,
      ⟨service, .single (.setNetwork unreachable)⟩,
      ⟨service, .single (.approve 1 (.int 7) .null)⟩]
    let s : Session := { now := .ofDate ⟨738959⟩ }
    (Reachable s ∧ s.store.usage = [] ∧
      ∀ st ∈ Course.steps ts s, ∀ days, st.event ≠ .cleanUsage days) ∧
    (Course.run ts s).store.usage.countP (counts 1 "movie") = 1 ∧
      (Course.steps ts s).countP (Step.routes 1 "movie") = 0 ∧
      (Course.steps ts s).countP (Step.executes 1 "movie") = 0 := by
  intro service unreachable ts s
  have hevents : (Course.steps ts s).all (fun st =>
      match st.event with
      | .cleanUsage _ => false
      | _ => true) = true := by decide +kernel
  refine ⟨⟨.start rfl, rfl, fun st hst days he => ?_⟩, by decide +kernel⟩
  have hst := List.all_eq_true.1 hevents st hst
  rw [he] at hst
  cases hst

end Watchgate
