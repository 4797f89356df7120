import Watchgate.Proofs.Approval.Outcomes
import Watchgate.Proofs.Routing.Recoding

/-!
# Which submissions become requests

A submission that nothing in the store answers already becomes a request for one of three reasons,
asked for in this order: the first verdict that can be acted on requires approval, the user is
flagged, the quota of the user is used up. The reasons are stated on the tables; that the gate finds
the first of them, and no other, is shown act by act. Verdicts after the first one play no part.

A request cannot be made if it would wait until after the last day of the calendar, and a quota
cannot stop anything if its reset lies there.
-/

namespace Watchgate

open Act Calendar Store

/-! ## Quotas that are used up -/

namespace Quota

/-- The quota `q` of a user binds, and on the days of its window it is used up. -/
structure Reached (userId : Int) (contentType : Value) (s : Session) (q : Quota) (period : Period) :
    Prop where
  stored : s.store.getQuota userId contentType = .ok (some q)
  binds : q.bypass = false
  known : periodOf q.period = .ok period
  full : ∃ w n, period.window s.now.date = .ok w ∧
    s.store.countUsage userId contentType w = .ok n ∧ reaches n q.limit = .ok true

variable {userId : Int} {contentType : Value} {s s' : Session} {q : Quota} {period : Period}

/-- A status that tells that a quota is used up was read from such a quota. -/
theorem reached_of_status {answer : QuotaStatus}
    (h : status userId contentType s = (.ok (some answer), s')) (he : answer.exceeded = true) :
    ∃ q period, Reached userId contentType s q period ∧
      ∃ t, (q.resetOf period s.now.date s).1 = .ok t := by
  obtain ⟨q, period, w, hread⟩ := status_some h
  have hbinds : q.bypass = false := by
    by_contra hb
    have hnot := hread.bypassed (by simpa using hb)
    rw [he] at hnot
    cases hnot
  have hfull : reaches answer.usage q.limit = .ok true := he ▸ hread.exceeded hbinds
  exact ⟨q, period, ⟨hread.quota, hbinds, hread.period, w, _, hread.window, hread.usage, hfull⟩,
    _, hread.reset⟩

/-- The status of a quota that is used up tells so, if its reset can be told. -/
theorem status_of_reached (h : Reached userId contentType s q period)
    {t : Option Moment} (hreset : (q.resetOf period s.now.date s).1 = .ok t)
    (hquota : ∃ found, Act.getQuota userId contentType s = (.ok found, s))
    (husage : ∀ w, ∃ n, Act.countUsage userId contentType w s = (.ok n, s)) :
    ∃ answer s', status userId contentType s = (.ok (some answer), s') ∧
      answer.exceeded = true := by
  obtain ⟨found, hfound⟩ := hquota
  obtain rfl : found = some q := by
    have hstored := (read_returns hfound).1
    rw [h.stored] at hstored
    exact (Except.ok.inj hstored).symm
  obtain ⟨w, n, hw, hn, hfull⟩ := h.full
  obtain ⟨m, hm⟩ := husage w
  obtain rfl : m = n := by
    have hcount := (read_returns hm).1
    rw [hn] at hcount
    exact (Except.ok.inj hcount).symm
  rcases hr : q.resetOf period s.now.date s with ⟨r, s₁⟩
  rw [hr] at hreset
  obtain rfl : r = .ok t := hreset
  have htoday : Act.today s = (.ok s.now.date, s) := rfl
  have hperiod : Act.ofResult (periodOf q.period) s = (.ok period, s) := by
    rw [Act.ofResult, h.known]
  have hwindow : Act.ofResult (period.window s.now.date) s = (.ok w, s) := by
    rw [Act.ofResult, hw]
  have hreaches : Act.ofResult (reaches m q.limit) s = (.ok true, s) := by
    rw [Act.ofResult, hfull]
  have hanswer : status userId contentType s = (.ok (some {
      period := q.period, limit := q.limit, usage := m, exceeded := true, reset := t,
      bypass := q.bypass }), s₁) := by
    unfold status
    rw [bind_of_ok hfound]
    dsimp only
    rw [bind_of_ok htoday, bind_of_ok hperiod, bind_of_ok hwindow, bind_of_ok hm]
    simp only [h.binds, Bool.false_eq_true, if_false]
    rw [bind_of_ok hreaches, bind_of_ok hr]
    rfl
  exact ⟨_, s₁, hanswer, rfl⟩

end Quota

namespace Gate

/-! ## Reasons, by the tables -/

/-- All requests of the user need approval. -/
def Flagged (userId : Int) (s : Session) : Prop :=
  ∃ u, s.store.getUser userId = .ok (some u) ∧ u.requiresApproval = true

/-- The quota of the user, which the placement does not bypass, is used up; when it will be reset can
be told. -/
def QuotaStops (contentType : Value) (p : Placement) (userId : Int) (s : Session) : Prop :=
  p.bypassQuota = false ∧ ∃ q period, Quota.Reached userId contentType s q period ∧
    ∃ t, (q.resetOf period s.now.date s).1 = .ok t

/-- The first reason that applies, by its name. -/
inductive Reason (contentType : Value) (primary : Verdict) (p : Placement) (userId : Int)
    (s : Session) : Value → Prop where
  /-- The verdict requires approval, for a reason of its own. -/
  | verdict {d : Deferral} (asks : primary.action = .requireApproval)
      (deferral : primary.deferral = some d) :
      Reason contentType primary p userId s d.triggeredBy
  /-- The user is flagged. -/
  | flag (silent : primary.action ≠ .requireApproval) (flagged : Flagged userId s) :
      Reason contentType primary p userId s (.text "manual_flag")
  /-- The quota is used up. -/
  | quota (silent : primary.action ≠ .requireApproval) (unflagged : ¬ Flagged userId s)
      (stops : QuotaStops contentType p userId s) :
      Reason contentType primary p userId s (.text "quota_exceeded")

/-- The moment until which a request would wait lies in the calendar. -/
def Timely (g : Gate) (s : Session) : Prop :=
  ∀ hours, g.waitHours = some hours → hours ≠ 0 → (s.now.addHours? hours).isSome = true

/-- None of the calls to the store fails that the gate makes for a submission of a user. -/
structure Serves (g : Gate) (item : Item) (context : Context) (primary : Verdict) (p : Placement)
    (userId : Int) (s : Session) : Prop where
  request : ∃ found, Act.getRequestFor userId (contentKey item context) s = (.ok found, s)
  user : primary.action ≠ .requireApproval → ∃ found, Act.getUser userId s = (.ok found, s)
  quota : primary.action ≠ .requireApproval → ¬ Flagged userId s → p.bypassQuota = false →
    ∃ found, Act.getQuota userId context.contentType s = (.ok found, s)
  usage : primary.action ≠ .requireApproval → ¬ Flagged userId s → p.bypassQuota = false →
    ∀ w, ∃ n, Act.countUsage userId context.contentType w s = (.ok n, s)
  added : ∀ wait expiresAt,
    (reasonToWait primary p context.contentType (some userId) s).1 = .ok (some wait) →
    (g.expiry s).1 = .ok expiresAt →
      ∃ r, (Act.addRequest (newRequest item context userId wait expiresAt) s).1 = .ok r

variable {g : Gate} {item : Item} {context : Context} {contentType : Value}
  {verdicts : List Verdict} {primary : Verdict} {p : Placement} {userId : Int} {s s' : Session}

theorem deferral_of_proposed (hasks : primary.action = .requireApproval)
    (hproposed : primary.proposed = some p) : ∃ d, primary.deferral = some d := by
  have hbind : primary.deferral.bind Deferral.proposed = some p := by
    unfold Verdict.proposed at hproposed
    rwa [hasks] at hproposed
  obtain ⟨d, hd, -⟩ := Option.bind_eq_some_iff.1 hbind
  exact ⟨d, hd⟩

/-- There is a reason exactly if the verdict requires approval, the user is flagged, or the quota is
used up. -/
theorem exists_reason_iff (hproposed : primary.proposed = some p) :
    (∃ trigger, Reason contentType primary p userId s trigger) ↔
      primary.action = .requireApproval ∨ Flagged userId s ∨ QuotaStops contentType p userId s := by
  constructor
  · rintro ⟨trigger, h⟩
    cases h with
    | verdict asks => exact .inl asks
    | flag _ flagged => exact .inr (.inl flagged)
    | quota _ _ stops => exact .inr (.inr stops)
  · intro h
    by_cases hasks : primary.action = .requireApproval
    · obtain ⟨d, hd⟩ := deferral_of_proposed hasks hproposed
      exact ⟨_, .verdict hasks hd⟩
    by_cases hflagged : Flagged userId s
    · exact ⟨_, .flag hasks hflagged⟩
    · have hstops : QuotaStops contentType p userId s := by
        rcases h with h | h | h
        · exact absurd h hasks
        · exact absurd h hflagged
        · exact h
      exact ⟨_, .quota hasks hflagged hstops⟩

/-! ## The gate finds the first reason -/

/-- What the quota gives as a reason holds of the tables. -/
theorem stops_of_quotaReason {d : Deferral}
    (h : userReason.quotaReason contentType userId p s = (.ok (some d), s')) :
    QuotaStops contentType p userId s ∧ d.triggeredBy = .text "quota_exceeded" := by
  unfold userReason.quotaReason at h
  split at h
  · cases (pure_returns h).1
  · rename_i hcounts
    obtain ⟨answer, s₁, hstatus, h⟩ := bind_returns h
    cases answer with
    | none => cases (pure_returns h).1
    | some answer =>
      have hv := (pure_returns h).1
      cases he : answer.exceeded with
      | false =>
        rw [he] at hv
        cases hv
      | true =>
        rw [he, if_pos rfl] at hv
        obtain rfl := Option.some.inj hv
        exact ⟨⟨by simpa using hcounts, Quota.reached_of_status hstatus he⟩, rfl⟩

theorem quotaReason_of_stops (h : QuotaStops contentType p userId s)
    (hquota : ∃ found, Act.getQuota userId contentType s = (.ok found, s))
    (husage : ∀ w, ∃ n, Act.countUsage userId contentType w s = (.ok n, s)) :
    ∃ d s', userReason.quotaReason contentType userId p s = (.ok (some d), s') ∧
      d.triggeredBy = .text "quota_exceeded" := by
  obtain ⟨hcounts, q, period, hreached, t, hreset⟩ := h
  obtain ⟨answer, s₁, hstatus, he⟩ := Quota.status_of_reached hreached hreset hquota husage
  refine ⟨quotaDeferral answer p, s₁, ?_, rfl⟩
  unfold userReason.quotaReason
  simp only [hcounts, Bool.false_eq_true, if_false]
  rw [bind_of_ok hstatus]
  simp only [he, if_true]
  rfl

theorem userReason_of_flagged {u : User} (hread : Act.getUser userId s = (.ok (some u), s))
    (hflag : u.requiresApproval = true) :
    userReason contentType userId p s = (.ok (some (userDeferral u p)), s) := by
  unfold userReason
  rw [bind_of_ok hread]
  simp only [hflag, if_true]
  rfl

theorem userReason_of_unflagged {found : Option User}
    (hread : Act.getUser userId s = (.ok found, s)) (h : ¬ Flagged userId s) :
    userReason contentType userId p s = userReason.quotaReason contentType userId p s := by
  have hstored := (read_returns hread).1
  unfold userReason
  rw [bind_of_ok hread]
  cases found with
  | none => rfl
  | some u =>
    have hflag : u.requiresApproval = false := by
      by_contra hne
      exact h ⟨u, hstored, by simpa using hne⟩
    simp only [hflag, Bool.false_eq_true, if_false]

/-- Asking about the user gives the reason that applies. -/
theorem userReason_of_reason {trigger : Value} (hsilent : primary.action ≠ .requireApproval)
    (hserves : g.Serves item context primary p userId s)
    (h : Reason context.contentType primary p userId s trigger) :
    ∃ d s', userReason context.contentType userId p s = (.ok (some d), s') ∧
      d.triggeredBy = trigger := by
  obtain ⟨found, hread⟩ := hserves.user hsilent
  have hstored := (read_returns hread).1
  cases h with
  | verdict asks => exact absurd asks hsilent
  | flag _ flagged =>
    obtain ⟨u, hu, hflag⟩ := flagged
    obtain rfl : found = some u := Except.ok.inj (hstored.symm.trans hu)
    exact ⟨_, s, userReason_of_flagged hread hflag, rfl⟩
  | quota _ unflagged stops =>
    rw [userReason_of_unflagged hread unflagged]
    exact quotaReason_of_stops stops (hserves.quota hsilent unflagged stops.1)
      (hserves.usage hsilent unflagged stops.1)

/-- The reason that is found about a user applies. -/
theorem reason_of_userReason {d : Deferral} (hsilent : primary.action ≠ .requireApproval)
    (h : userReason contentType userId p s = (.ok (some d), s')) :
    Reason contentType primary p userId s d.triggeredBy := by
  obtain ⟨found, s₁, hread, hrest⟩ := bind_returns h
  obtain ⟨hstored, hs⟩ := read_returns hread
  subst s₁
  by_cases hflagged : Flagged userId s
  · obtain ⟨u, hu, hflag⟩ := hflagged
    obtain rfl : found = some u := Except.ok.inj (hstored.symm.trans hu)
    rw [userReason_of_flagged hread hflag] at h
    obtain rfl := Option.some.inj (Except.ok.inj (Prod.mk.inj h).1)
    exact .flag hsilent ⟨u, hu, hflag⟩
  · rw [userReason_of_unflagged hread hflagged] at h
    obtain ⟨hstops, htrigger⟩ := stops_of_quotaReason h
    rw [htrigger]
    exact .quota hsilent hflagged hstops

theorem reasonToWait_of_asks {d : Deferral} (hasks : primary.action = .requireApproval)
    (hd : primary.deferral = some d) (userId? : Option Int) :
    reasonToWait primary p contentType userId? = pure (some ⟨primary, d⟩) := by
  unfold reasonToWait
  rw [hasks, hd]

theorem reasonToWait_of_silent (hsilent : primary.action ≠ .requireApproval) :
    reasonToWait primary p contentType (some userId)
      = (do return (← userReason contentType userId p).map Wait.ofDeferral) := by
  unfold reasonToWait
  cases hact : primary.action with
  | requireApproval => exact absurd hact hsilent
  | _ => rfl

/-- If there is a reason to wait, the gate finds the first one. -/
theorem reasonToWait_of_reason {trigger : Value}
    (hserves : g.Serves item context primary p userId s)
    (h : Reason context.contentType primary p userId s trigger) :
    ∃ wait s', reasonToWait primary p context.contentType (some userId) s
        = (.ok (some wait), s') ∧ wait.deferral.triggeredBy = trigger := by
  by_cases hasks : primary.action = .requireApproval
  · cases h with
    | @verdict d _ deferral =>
      refine ⟨⟨primary, d⟩, s, ?_, rfl⟩
      rw [reasonToWait_of_asks hasks deferral]
      rfl
    | flag silent => exact absurd hasks silent
    | quota silent => exact absurd hasks silent
  · obtain ⟨d, s₁, hd, htrigger⟩ := userReason_of_reason hasks hserves h
    refine ⟨.ofDeferral d, s₁, ?_, htrigger⟩
    rw [reasonToWait_of_silent hasks, bind_of_ok hd]
    rfl

/-- What the gate finds as a reason to wait is the first reason that applies. -/
theorem reason_of_reasonToWait {wait : Wait} (hproposed : primary.proposed = some p)
    (h : reasonToWait primary p contentType (some userId) s = (.ok (some wait), s')) :
    Reason contentType primary p userId s wait.deferral.triggeredBy := by
  by_cases hasks : primary.action = .requireApproval
  · obtain ⟨d, hd⟩ := deferral_of_proposed hasks hproposed
    rw [reasonToWait_of_asks hasks hd] at h
    obtain rfl := Option.some.inj (pure_returns h).1
    exact .verdict hasks hd
  · rw [reasonToWait_of_silent hasks] at h
    obtain ⟨reason, s₁, hreason, h⟩ := bind_returns h
    obtain ⟨d, rfl, hw⟩ := Option.map_eq_some_iff.1 (pure_returns h).1
    rw [← hw]
    exact reason_of_userReason hasks hreason

/-! ## Making the request -/

/-- Until when a request would wait depends on the clock alone. -/
theorem expiry_congr {s₁ : Session} (hnow : s₁.now = s.now) :
    (g.expiry s₁).1 = (g.expiry s).1 := by
  have hask : ∀ s : Session, Act.now s = (.ok s.now, s) := fun _ => rfl
  unfold expiry
  cases g.waitHours with
  | none => rfl
  | some hours =>
    by_cases hz : hours = 0
    · simp only [hz, if_true]
      rfl
    · simp only [hz, if_false]
      rw [bind_of_ok (hask s₁), bind_of_ok (hask s), hnow]
      cases s.now.addHours? hours <;> rfl

/-- The moment until which a request would wait can be told exactly if it lies in the calendar. -/
theorem expiry_ok_iff : (∃ t, (g.expiry s).1 = .ok t) ↔ g.Timely s := by
  unfold expiry Timely
  cases hw : g.waitHours with
  | none => exact ⟨fun _ _ h => (by cases h), fun _ => ⟨none, rfl⟩⟩
  | some hours =>
    by_cases hz : hours = 0
    · simp only [hz, if_true]
      exact ⟨fun _ n h hn => absurd (Option.some.inj h).symm hn, fun _ => ⟨none, rfl⟩⟩
    · simp only [hz, if_false]
      have hask : Act.now s = (.ok s.now, s) := rfl
      rw [bind_of_ok hask]
      cases ht : s.now.addHours? hours with
      | some t =>
        refine ⟨fun _ n h _ => ?_, fun _ => ⟨some t, rfl⟩⟩
        rw [← Option.some.inj h, ht]
        rfl
      | none =>
        refine ⟨fun ⟨_, h⟩ => (by cases h), fun h => ?_⟩
        have hsome := h hours rfl hz
        rw [ht] at hsome
        cases hsome

/-- A row that a submission made: for its user and its content, with the reason and the placement
that go with it. -/
structure MadeFor (item : Item) (context : Context) (p : Placement) (userId : Int) (trigger : Value)
    (row : Request) : Prop where
  user : row.userId = userId
  key : Column.requiredText (contentKey item context) = .ok row.key
  trigger : Column.requiredText trigger = .ok row.triggeredBy
  proposed : row.verdict.proposed = some p

theorem madeFor_of_rowOf {wait : Wait} {expiresAt : Option Moment} {id : Int} {userName : Value}
    {now : Moment} {row : Request} (hproposed : wait.verdict.proposed = some p)
    (h : RowOf ((newRequest item context userId wait expiresAt).toRequest id userName now) row) :
    MadeFor item context p userId wait.deferral.triggeredBy row := by
  refine ⟨h.userId, h.key, h.triggeredBy, ?_⟩
  rw [h.verdict]
  exact (recoded_proposed _).trans hproposed

/-- Making the request of a wait adds a row for it, whatever quiet act comes after. -/
theorem addRequest_gains {wait : Wait} {t : Option Moment} {announce : Request → Act Outcome}
    (hquiet : ∀ r, (announce r).Quiet) (hproposed : wait.verdict.proposed = some p)
    {s₁ : Session} (hs : s.SameRecords s₁)
    (hadd : ∃ r, (Act.addRequest (newRequest item context userId wait t) s).1 = .ok r) :
    ∃ row, Gains s.store.requests ((Act.addRequest (newRequest item context userId wait t)
        >>= announce) s₁).2.store.requests row ∧
      MadeFor item context p userId wait.deferral.triggeredBy row := by
  let n := newRequest item context userId wait t
  obtain ⟨request, hadd⟩ := hadd
  obtain ⟨store, hstore, hwrite⟩ := write_of_same hadd hs.toSameTables
  have hnow : Act.addRequest n s₁ = write .addRequest none (Store.addRequest n s.now) s₁ :=
    congrArg (fun now => write .addRequest none (Store.addRequest n now) s₁) hs.now
  have hadded : Act.addRequest n s₁ = (.ok request, { s₁ with store }) := hnow.trans hwrite
  obtain ⟨row, hgains, hrow, ⟨id, hrequest⟩, -⟩ := gains_of_addRequest hstore
  refine ⟨row, ?_, madeFor_of_rowOf hproposed (hrequest ▸ hrow)⟩
  have hrest := hquiet request { s₁ with store }
  rw [bind_of_ok hadded, hrest.store, ← hs.store]
  exact hgains

/-- A deferral whose calls to the store do not fail makes the request, whether or not somebody can
be told about it. -/
theorem defer_gains (hp : g.partners.Quiet) {wait : Wait} {s₁ : Session} (hs : s.SameRecords s₁)
    (hproposed : wait.verdict.proposed = some p) {t : Option Moment}
    (hexpiry : (g.expiry s).1 = .ok t)
    (hadd : ∃ r, (Act.addRequest (newRequest item context userId wait t) s).1 = .ok r) :
    ∃ row, Gains s.store.requests (g.defer item context userId wait s₁).2.store.requests row ∧
      MadeFor item context p userId wait.deferral.triggeredBy row := by
  rw [← expiry_congr hs.now] at hexpiry
  rcases hx : g.expiry s₁ with ⟨r, s₂⟩
  rw [hx] at hexpiry
  obtain rfl : r = .ok t := hexpiry
  have hs₂ := hs.trans (g.quiet_expiry.of_eq hx)
  unfold defer
  rw [bind_of_ok hx]
  refine addRequest_gains (fun request => ?_) hproposed hs₂ hadd
  exact quiet_announce hp _ request

/-- A deferral makes no request that would wait beyond the calendar. -/
theorem defer_requests_of_not_timely {wait : Wait} (h : ¬ g.Timely s) :
    (g.defer item context userId wait s).2.store.requests = s.store.requests := by
  unfold defer
  rcases bind_cases g.expiry _ s with ⟨t, s₁, hx, -⟩ | ⟨e, s₁, hx, hb⟩
  · exact absurd (expiry_ok_iff.1 ⟨t, by rw [hx]⟩) h
  · rw [hb, (g.quiet_expiry.of_eq hx).store]

/-- Routing makes no request. -/
theorem route_requests (hp : g.partners.Quiet) (placements : List Placement)
    (counted : Option Int) :
    (g.route item contentType placements counted s).2.store.requests = s.store.requests := by
  have hall := Partners.keepsTables_attemptAll hp item placements
  unfold route
  rcases bind_cases (g.partners.attemptAll item placements) _ s with
    ⟨taken, s₁, hx, hb⟩ | ⟨e, s₁, hx, hb⟩
  · have hstore := (hall.of_eq hx).store
    rw [hb]
    split
    · exact congrArg Store.requests hstore
    · cases counted with
      | none => exact congrArg Store.requests hstore
      | some userId =>
        have hone : (some userId).forM (fun u => Quota.recordUsage u contentType)
            = Quota.recordUsage userId contentType := rfl
        rw [hone]
        rcases Quota.recordUsage_cases userId contentType s₁ with
          ⟨store, hput, hr⟩ | ⟨e, s₂, hr, hs⟩
        · obtain ⟨stored, -, hadded⟩ := putUsage_ok hput
          rw [bind_of_ok hr]
          change store.requests = _
          rw [hadded, ← hstore]
        · rw [bind_of_error hr]
          change s₂.store.requests = _
          rw [hs.store, hstore]
  · rw [hb, (hall.of_eq hx).store]

/-! ## A submission for which there is no request -/

theorem receive_eq_defer {placements : List Placement} {wait : Wait}
    (huser : context.primaryUserId = some userId)
    (h : reasonToWait primary p context.contentType (some userId) s = (.ok (some wait), s')) :
    g.receive item context primary p placements s = g.defer item context userId wait s' := by
  unfold receive
  rw [huser, bind_of_ok h]

/-- If there is a reason to wait, the request is made, for the first reason. -/
theorem receive_gains (hp : g.partners.Quiet) (hproposed : primary.proposed = some p)
    (huser : context.primaryUserId = some userId)
    (hserves : g.Serves item context primary p userId s) (htimely : g.Timely s) {trigger : Value}
    (h : Reason context.contentType primary p userId s trigger) (placements : List Placement) :
    ∃ row, Gains s.store.requests
        (g.receive item context primary p placements s).2.store.requests row ∧
      MadeFor item context p userId trigger row := by
  obtain ⟨wait, s₁, hwait, htrigger⟩ := reasonToWait_of_reason hserves h
  have hs : s.SameRecords s₁ := (quiet_reasonToWait _ _ _ _).of_eq hwait
  obtain ⟨t, ht⟩ := expiry_ok_iff.2 htimely
  rw [receive_eq_defer huser hwait, ← htrigger]
  exact defer_gains hp hs (reasonToWait_proposed hproposed hwait) ht
    (hserves.added wait t (by rw [hwait]) ht)

/-- Without a user, without a reason, or beyond the calendar no request is made. -/
theorem receive_requests (hp : g.partners.Quiet) (hproposed : primary.proposed = some p)
    (h : ¬ ∃ userId, context.primaryUserId = some userId ∧ g.Timely s ∧
      ∃ trigger, Reason context.contentType primary p userId s trigger)
    (placements : List Placement) :
    (g.receive item context primary p placements s).2.store.requests = s.store.requests := by
  have hquiet := quiet_reasonToWait primary p context.contentType context.primaryUserId
  rcases hx : reasonToWait primary p context.contentType context.primaryUserId s with ⟨r, s₁⟩
  have hs : s.SameRecords s₁ := hquiet.of_eq hx
  cases r with
  | error e =>
    unfold receive
    rw [bind_of_error hx, hs.store]
  | ok reason =>
    cases huser : context.primaryUserId with
    | none =>
      unfold receive
      rw [bind_of_ok hx, huser]
      cases reason with
      | none => exact (route_requests hp _ _).trans (congrArg Store.requests hs.store)
      | some wait => exact congrArg Store.requests hs.store
    | some userId =>
      rw [huser] at hx
      cases reason with
      | none =>
        unfold receive
        rw [huser, bind_of_ok hx]
        exact (route_requests hp _ _).trans (congrArg Store.requests hs.store)
      | some wait =>
        have hlate : ¬ g.Timely s₁ := by
          intro htimely
          have htimely : g.Timely s := by
            rw [← expiry_ok_iff] at htimely ⊢
            rwa [expiry_congr hs.now] at htimely
          exact h ⟨userId, huser, htimely, _, reason_of_reasonToWait hproposed hx⟩
        rw [receive_eq_defer huser hx, defer_requests_of_not_timely hlate, hs.store]

/-! ## Submissions -/

/-- No request of the user is stored for the content, except expired ones. -/
def Unanswered (item : Item) (context : Context) (userId : Int) (s : Session) : Prop :=
  ∀ r ∈ s.store.requests, r.userId = userId →
    Column.text (contentKey item context) = .ok r.key → r.status = .expired

theorem liveRequest_of_unanswered
    (hread : ∃ found, Act.getRequestFor userId (contentKey item context) s = (.ok found, s))
    (h : Unanswered item context userId s) :
    liveRequest (some userId) (contentKey item context) s = (.ok none, s) := by
  obtain ⟨found, hread⟩ := hread
  have hnone : found.filter (fun r => r.status ≠ .expired) = none := by
    cases found with
    | none => rfl
    | some r =>
      obtain ⟨key, row, hkey, hrow, rfl⟩ := getRequestFor_ok (read_returns hread).1
      have hfor := List.find?_some hrow
      simp only [isRequestFor, Bool.and_eq_true, decide_eq_true_eq] at hfor
      have hstatus : row.status = .expired := by
        refine h row (List.mem_of_find?_eq_some hrow) hfor.1 ?_
        rw [Column.eq_of_same hfor.2]
        exact hkey
      have hnamed : (named s.store row).status = .expired := hstatus
      simp [Option.filter, hnamed]
  exact (bind_of_ok hread).trans (congrArg (fun found => (Except.ok found, s)) hnone)

/-- A submission that is not synchronised, rejected or answered by a request that is there; the first
verdict that can be acted on is `primary`, with the placement `p`, and no call to the store fails. -/
structure Undecided (g : Gate) (item : Item) (context : Context) (verdicts : List Verdict)
    (primary : Verdict) (p : Placement) (s : Session) : Prop where
  asked : context.syncing = false
  unrejected : ∀ v ∈ verdicts, v.action ≠ .reject
  first : ∃ rest, verdicts.filterMap actionable? = (primary, p) :: rest
  unanswered : ∀ userId, context.primaryUserId = some userId → Unanswered item context userId s
  serves : ∀ userId, context.primaryUserId = some userId →
    g.Serves item context primary p userId s

namespace Undecided

theorem proposed (h : g.Undecided item context verdicts primary p s) :
    primary.proposed = some p := by
  obtain ⟨rest, hfirst⟩ := h.first
  exact proposed_of_first hfirst

/-- Such a submission is received with its first verdict. -/
theorem process_eq (h : g.Undecided item context verdicts primary p s) :
    ∃ placements, g.process item context verdicts s
      = g.receive item context primary p placements s := by
  obtain ⟨rest, hfirst⟩ := h.first
  have hconsults : Consults context verdicts := by
    obtain ⟨hv, hp⟩ := mem_actionable.1 (hfirst ▸ List.mem_cons_self)
    exact ⟨h.asked, h.unrejected, primary, hv, by rw [hp]; rfl⟩
  have hlive : liveRequest context.primaryUserId (contentKey item context) s = (.ok none, s) := by
    cases huser : context.primaryUserId with
    | none => rfl
    | some userId =>
      exact liveRequest_of_unanswered (h.serves userId huser).request (h.unanswered userId huser)
  obtain ⟨primary', p', rest', hfirst', hprocess⟩ := process_of_consults g item hconsults
  obtain ⟨hpair, -⟩ := List.cons.inj (hfirst.symm.trans hfirst')
  obtain ⟨rfl, rfl⟩ := Prod.mk.inj hpair
  exact ⟨_, by rw [hprocess, bind_of_ok hlive, answer_none]⟩

/-- A request is made exactly if there is a user, a reason, and time to wait. -/
theorem gains_iff (hp : g.partners.Quiet) (h : g.Undecided item context verdicts primary p s) :
    (∃ row, Gains s.store.requests (g.process item context verdicts s).2.store.requests row) ↔
      ∃ userId, context.primaryUserId = some userId ∧ g.Timely s ∧
        ∃ trigger, Reason context.contentType primary p userId s trigger := by
  obtain ⟨placements, hprocess⟩ := h.process_eq
  rw [hprocess]
  constructor
  · rintro ⟨row, hgains⟩
    by_contra hnone
    exact hgains.ne (receive_requests hp h.proposed hnone placements)
  · rintro ⟨userId, huser, htimely, trigger, hreason⟩
    obtain ⟨row, hgains, -⟩ :=
      receive_gains hp h.proposed huser (h.serves userId huser) htimely hreason placements
    exact ⟨row, hgains⟩

/-- The request that is made states the first reason and the first placement. -/
theorem madeFor (hp : g.partners.Quiet) (h : g.Undecided item context verdicts primary p s)
    {row : Request}
    (hgains : Gains s.store.requests (g.process item context verdicts s).2.store.requests row) :
    ∃ userId trigger, context.primaryUserId = some userId ∧
      Reason context.contentType primary p userId s trigger ∧
      MadeFor item context p userId trigger row := by
  obtain ⟨userId, huser, htimely, trigger, hreason⟩ := (h.gains_iff hp).1 ⟨row, hgains⟩
  obtain ⟨placements, hprocess⟩ := h.process_eq
  obtain ⟨row', hgains', hmade⟩ :=
    receive_gains hp h.proposed huser (h.serves userId huser) htimely hreason placements
  rw [hprocess] at hgains
  rw [hgains.unique hgains']
  exact ⟨userId, trigger, huser, hreason, hmade⟩

/-- Where a request is made, verdicts after the first one play no part. -/
theorem process_congr (hp : g.partners.Quiet) {verdicts' : List Verdict}
    (h : g.Undecided item context verdicts primary p s)
    (h' : g.Undecided item context verdicts' primary p s)
    (hgains : ∃ row,
      Gains s.store.requests (g.process item context verdicts s).2.store.requests row) :
    g.process item context verdicts' s = g.process item context verdicts s := by
  obtain ⟨userId, huser, -, trigger, hreason⟩ := (h.gains_iff hp).1 hgains
  obtain ⟨wait, s₁, hwait, -⟩ := reasonToWait_of_reason (h.serves userId huser) hreason
  obtain ⟨placements, hprocess⟩ := h.process_eq
  obtain ⟨placements', hprocess'⟩ := h'.process_eq
  rw [hprocess, hprocess', receive_eq_defer huser hwait, receive_eq_defer huser hwait]

end Undecided

end Gate

/-- A submission that nothing else decides becomes a request exactly if there is a user to attribute it
to, the request would not wait beyond the calendar, and the first verdict requires approval, the user
is flagged, or the quota of the user is used up. The request states the first of these reasons and
the placement of the first verdict; the verdicts after it play no part. -/
theorem deferred_iff_reason (service : Service) {item : Item} {context : Context}
    {verdicts : List Verdict} {primary : Verdict} {p : Placement} {s : Session}
    (h : service.gate.Undecided item context verdicts primary p s) :
    ((∃ row, Gains s.store.requests
        (service.gate.process item context verdicts s).2.store.requests row) ↔
      ∃ userId, context.primaryUserId = some userId ∧ service.gate.Timely s ∧
        (primary.action = .requireApproval ∨ Gate.Flagged userId s ∨
          Gate.QuotaStops context.contentType p userId s)) ∧
    (∀ row, Gains s.store.requests
        (service.gate.process item context verdicts s).2.store.requests row →
      ∃ userId trigger, context.primaryUserId = some userId ∧
        Gate.Reason context.contentType primary p userId s trigger ∧
        Gate.MadeFor item context p userId trigger row) ∧
    ∀ verdicts', service.gate.Undecided item context verdicts' primary p s →
      (∃ row, Gains s.store.requests
        (service.gate.process item context verdicts s).2.store.requests row) →
      service.gate.process item context verdicts' s
        = service.gate.process item context verdicts s := by
  have hp : service.gate.partners.Quiet := service.quiet_partners
  refine ⟨?_, fun row hgains => h.madeFor hp hgains, fun verdicts' h' hgains =>
    h.process_congr hp h' hgains⟩
  rw [h.gains_iff hp]
  simp only [Gate.exists_reason_iff h.proposed]

/-- For instance, the quota of a user is used up; the verdict that comes second would require approval
for a reason of its own. -/
theorem deferred_iff_reason_second_verdict :
    let s : Session := {
      store := {
        users := [{ id := 1, name := .text "Ann" }]
        quotas := [{
          userId := 1, contentType := .text "movie", period := .text "daily", limit := .int 1 }]
        usage := [⟨1, "movie", ⟨738959⟩⟩] }
      now := .ofDate ⟨738959⟩ }
    let item : Item := { title := .text "Dune", guids := ["tmdb:438631"] }
    let context : Context := { contentType := .text "movie", userId := .one 1 }
    let verdicts : List Verdict := [.route { instanceId := 1 }, .requireApproval {
      reason := .text "4K", triggeredBy := .text "router_rule"
      proposed := some { instanceId := 2 } }]
    ∃ row, Gains [] (({} : Service).gate.process item context verdicts s).2.store.requests row ∧
      row.triggeredBy = .text "quota_exceeded" ∧
      row.verdict.proposed = some { instanceId := 1 } := by
  intro s item context verdicts
  let p : Placement := { instanceId := 1 }
  have hadded : ((Gate.reasonToWait (.route p) p context.contentType (some 1) s).1.toOption.join.all
      fun wait => (Act.addRequest (Gate.newRequest item context 1 wait none) s).1.toOption.isSome)
      = true := by decide +kernel
  have hserves : ({} : Service).gate.Serves item context (.route p) p 1 s := by
    refine ⟨⟨none, rfl⟩, fun _ => ⟨_, rfl⟩, fun _ _ _ => ⟨_, rfl⟩, fun _ _ _ w => ⟨_, rfl⟩, ?_⟩
    intro wait expiresAt hwait hexpiry
    rw [hwait] at hadded
    obtain rfl : none = expiresAt := Except.ok.inj hexpiry
    obtain ⟨r, hr⟩ := Option.isSome_iff_exists.1 hadded
    exact ⟨r, ok_of_toOption hr⟩
  have h : ({} : Service).gate.Undecided item context verdicts (.route p) p s := by
    refine ⟨rfl, by decide, ⟨_, rfl⟩, fun _ _ r hr => (by cases hr), fun userId hu => ?_⟩
    obtain rfl := Option.some.inj hu
    exact hserves
  obtain ⟨hiff, hmade, -⟩ := deferred_iff_reason {} h
  have hcount : (s.store.countUsage 1 context.contentType ⟨s.now.date, s.now.date⟩).toOption
      = some 1 := by decide +kernel
  have hreset : (Period.daily.reset s.now.date none).toOption.isSome = true := by decide +kernel
  obtain ⟨t, ht⟩ := Option.isSome_iff_exists.1 hreset
  have hstops : Gate.QuotaStops context.contentType p 1 s :=
    ⟨rfl, _, .daily, ⟨rfl, rfl, rfl, _, 1, rfl, ok_of_toOption hcount, rfl⟩, t, ok_of_toOption ht⟩
  obtain ⟨row, hrow⟩ := hiff.2 ⟨1, rfl, fun _ hours => (by cases hours), .inr (.inr hstops)⟩
  obtain ⟨userId, trigger, hu, hreason, hfor⟩ := hmade row hrow
  obtain rfl := Option.some.inj hu
  refine ⟨row, hrow, ?_, hfor.proposed⟩
  cases hreason with
  | verdict asks => cases asks
  | flag _ flagged =>
    obtain ⟨u, hu, hflag⟩ := flagged
    obtain rfl := Option.some.inj (Except.ok.inj hu)
    cases hflag
  | quota => exact (Except.ok.inj hfor.trigger).symm

/-- A reason alone does not make a request: not where it would wait beyond the calendar, and not where
the quota that is used up would be reset beyond it. -/
theorem reason_without_request :
    let item : Item := { title := .text "Dune", guids := ["tmdb:438631"] }
    let context : Context := { contentType := .text "movie", userId := .one 1 }
    let p : Placement := { instanceId := 1 }
    (let service : Service := { waitHours := some 100000000 }
      let s : Session := {
        store := { users := [{ id := 1, name := .text "Ann" }] }
        now := .ofDate ⟨738959⟩ }
      let primary : Verdict := .requireApproval {
        reason := .text "4K", triggeredBy := .text "router_rule", proposed := some p }
      service.gate.Undecided item context [primary] primary p s ∧
        context.primaryUserId = some 1 ∧ primary.action = .requireApproval ∧
        ¬ ∃ row, Gains s.store.requests
          (service.gate.process item context [primary] s).2.store.requests row) ∧
    (let service : Service := {}
      let s : Session := {
        store := {
          users := [{ id := 1, name := .text "Ann" }]
          quotas := [{
            userId := 1, contentType := .text "movie", period := .text "daily", limit := .int 0 }] }
        now := .ofDate ⟨3652059⟩ }
      service.gate.Undecided item context [.route p] (.route p) p s ∧
        context.primaryUserId = some 1 ∧ p.bypassQuota = false ∧
        (∃ q period, Quota.Reached 1 context.contentType s q period) ∧
        ¬ ∃ row, Gains s.store.requests
          (service.gate.process item context [.route p] s).2.store.requests row) := by
  intro item context p
  constructor
  · intro service s primary
    have hexpiry : (service.gate.expiry s).1.toOption.isNone = true := by decide +kernel
    have hserves : service.gate.Serves item context primary p 1 s := by
      refine ⟨⟨none, rfl⟩, fun _ => ⟨_, rfl⟩, fun _ _ _ => ⟨_, rfl⟩, fun _ _ _ w => ⟨_, rfl⟩, ?_⟩
      intro wait expiresAt _ ht
      rw [ht] at hexpiry
      cases hexpiry
    have hempty : (service.gate.process item context [primary] s).2.store.requests.isEmpty
        = true := by decide +kernel
    refine ⟨⟨rfl, by decide, ⟨_, rfl⟩, fun _ _ r hr => (by cases hr), fun userId hu => ?_⟩, rfl, rfl,
      fun ⟨row, hrow⟩ => hrow.ne (List.isEmpty_iff.1 hempty)⟩
    obtain rfl := Option.some.inj hu
    exact hserves
  · intro service s
    have hwait : (Gate.reasonToWait (.route p) p context.contentType (some 1) s).1.toOption.isNone
        = true := by decide +kernel
    have hserves : service.gate.Serves item context (.route p) p 1 s := by
      refine ⟨⟨none, rfl⟩, fun _ => ⟨_, rfl⟩, fun _ _ _ => ⟨_, rfl⟩, fun _ _ _ w => ⟨_, rfl⟩, ?_⟩
      intro wait expiresAt hw _
      rw [hw] at hwait
      cases hwait
    have hcount : (s.store.countUsage 1 context.contentType ⟨s.now.date, s.now.date⟩).toOption
        = some 0 := by decide +kernel
    have hempty : (service.gate.process item context [.route p] s).2.store.requests.isEmpty
        = true := by decide +kernel
    refine ⟨⟨rfl, by decide, ⟨_, rfl⟩, fun _ _ r hr => (by cases hr), fun userId hu => ?_⟩, rfl, rfl,
      ⟨_, .daily, rfl, rfl, rfl, _, 0, rfl, ok_of_toOption hcount, rfl⟩,
      fun ⟨row, hrow⟩ => hrow.ne (List.isEmpty_iff.1 hempty)⟩
    obtain rfl := Option.some.inj hu
    exact hserves

end Watchgate
