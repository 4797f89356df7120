import Watchgate.Proofs.Approval.Partners
import Watchgate.Proofs.Quota.Status
import Watchgate.Approval.Gate

/-!
# What a submission does to the tables

A submission changes the tables in one of two ways at most: it makes one request, with the placement
of the first verdict that can be acted on, or it counts one request of today for its primary user,
after nothing was found that makes the user wait. `process_effect` says so for every submission and
all partners that are quiet. Which instances take the content is not looked at.
-/

namespace Watchgate.Gate

open Act Calendar

/-- The user for whom a submission with this outcome is counted, if it is counted. -/
def countedFor (context : Context) (o : Outcome) : Option Int :=
  if o.kind = .routed && o.request.isNone && !context.syncing then context.primaryUserId else none

theorem countedFor_of_kind {context : Context} {o : Outcome} (h : o.kind ≠ .routed) :
    countedFor context o = none := by
  simp [countedFor, h]

theorem countedFor_of_request {context : Context} {o : Outcome} {r : Request}
    (h : o.request = some r) : countedFor context o = none := by
  simp [countedFor, h]

theorem countedFor_of_syncing {context : Context} (o : Outcome) (h : context.syncing = true) :
    countedFor context o = none := by
  simp [countedFor, h]

theorem countedFor_of_nobody {context : Context} (o : Outcome) (h : context.primaryUserId = none) :
    countedFor context o = none := by
  simp [countedFor, h]

theorem countedFor_routed {context : Context} {o : Outcome} (hk : o.kind = .routed)
    (hr : o.request = none) (hs : context.syncing = false) :
    countedFor context o = context.primaryUserId := by
  simp [countedFor, hk, hr, hs]

theorem mem_actionable {verdicts : List Verdict} {v : Verdict} {p : Placement} :
    (v, p) ∈ verdicts.filterMap actionable? ↔ v ∈ verdicts ∧ v.proposed = some p := by
  constructor
  · intro h
    obtain ⟨w, hw, he⟩ := List.mem_filterMap.1 h
    obtain ⟨q, hq, he⟩ := Option.map_eq_some_iff.1 he
    obtain ⟨rfl, rfl⟩ := Prod.mk.inj he
    exact ⟨hw, hq⟩
  · rintro ⟨hv, hp⟩
    exact List.mem_filterMap.2 ⟨v, hv, by simp [actionable?, hp]⟩

/-- The first verdict that can be acted on proposes its placement. -/
theorem proposed_of_first {verdicts : List Verdict} {primary : Verdict} {p : Placement}
    {rest : List (Verdict × Placement)}
    (hfirst : verdicts.filterMap actionable? = (primary, p) :: rest) :
    primary.proposed = some p :=
  (mem_actionable.1 (hfirst ▸ List.mem_cons_self)).2

/-! ## Reasons to wait -/

theorem quiet_userReason (contentType : Value) (userId : Int) (p : Placement) :
    (userReason contentType userId p).Quiet := by
  have hquota : (userReason.quotaReason contentType userId p).Quiet := by
    refine quiet_ite (quiet_pure _) (quiet_bind (Quota.quiet_status _ _) fun status => ?_)
    cases status <;> exact quiet_pure _
  refine quiet_bind (quiet_read _ _ _) fun user => ?_
  cases user with
  | none => exact hquota
  | some u => exact quiet_ite (quiet_pure _) hquota

/-- A user is made to wait because of being flagged or because of a quota. -/
theorem userReason_some {contentType : Value} {userId : Int} {p : Placement} {s s' : Session}
    {d : Deferral} (h : userReason contentType userId p s = (.ok (some d), s')) :
    (∃ u, d = userDeferral u p) ∨ ∃ status, d = quotaDeferral status p := by
  have hquota : ∀ {s : Session},
      userReason.quotaReason contentType userId p s = (.ok (some d), s') →
        ∃ status, d = quotaDeferral status p := by
    intro s h
    unfold userReason.quotaReason at h
    split at h
    · cases (pure_returns h).1
    · obtain ⟨status, s₁, -, h⟩ := bind_returns h
      cases status with
      | none => cases (pure_returns h).1
      | some status =>
        have hv := (pure_returns h).1
        split at hv
        · exact ⟨status, (Option.some.inj hv).symm⟩
        · cases hv
  obtain ⟨user, s₁, -, h⟩ := bind_returns h
  cases user with
  | none => exact .inr (hquota h)
  | some u =>
    dsimp only at h
    split at h
    · exact .inl ⟨u, (Option.some.inj (pure_returns h).1).symm⟩
    · exact .inr (hquota h)

/-- Whatever makes a user wait, what is proposed is the placement at hand. -/
theorem userReason_proposed {contentType : Value} {userId : Int} {p : Placement} {s s' : Session}
    {d : Deferral} (h : userReason contentType userId p s = (.ok (some d), s')) :
    d.proposed = some p := by
  rcases userReason_some h with ⟨u, rfl⟩ | ⟨status, rfl⟩
  · rfl
  · rfl

/-- If nothing is found against a user whose quota is not bypassed, the quota is not used up. -/
theorem userReason_none {contentType : Value} {userId : Int} {p : Placement} {s : Session}
    (hbypass : p.bypassQuota = false)
    (h : (userReason contentType userId p s).1 = .ok none) :
    ∃ answer s₁ s₂, s.SameTables s₁ ∧ Quota.status userId contentType s₁ = (.ok answer, s₂) ∧
      ∀ a, answer = some a → a.exceeded = false := by
  rcases hx : userReason contentType userId p s with ⟨r, s'⟩
  rw [hx] at h
  obtain rfl : r = .ok none := h
  obtain ⟨user, s₁, huser, hrest⟩ := bind_returns hx
  have hs : s.SameTables s₁ := ((quiet_read _ _ _).of_eq huser).toSameTables
  have hquota : userReason.quotaReason contentType userId p s₁ = (.ok none, s') := by
    cases user with
    | none => exact hrest
    | some u =>
      dsimp only at hrest
      split at hrest
      · cases (pure_returns hrest).1
      · exact hrest
  unfold userReason.quotaReason at hquota
  rw [hbypass, if_neg Bool.false_ne_true] at hquota
  obtain ⟨answer, s₂, hanswer, hlast⟩ := bind_returns hquota
  refine ⟨answer, s₁, s₂, hs, hanswer, fun a ha => ?_⟩
  subst ha
  have hv := (pure_returns hlast).1
  cases hexceeded : a.exceeded with
  | false => rfl
  | true =>
    rw [hexceeded] at hv
    cases hv

/-- The three ways of looking for a reason: the verdict has one, there is nobody to ask about, or the
user is asked about. -/
theorem reasonToWait_cases (primary : Verdict) (p : Placement) (contentType : Value)
    (userId : Option Int) :
    (∃ d, primary.action = .requireApproval ∧
      reasonToWait primary p contentType userId = pure (some ⟨primary, d⟩)) ∨
    (userId = none ∧ reasonToWait primary p contentType userId = pure none) ∨
    ∃ u, userId = some u ∧ reasonToWait primary p contentType userId
      = (do return (← userReason contentType u p).map Wait.ofDeferral) := by
  unfold reasonToWait
  split
  · exact .inl ⟨_, ‹_›, rfl⟩
  · exact .inr (.inl ⟨rfl, rfl⟩)
  · exact .inr (.inr ⟨_, rfl, rfl⟩)

theorem quiet_reasonToWait (primary : Verdict) (p : Placement) (contentType : Value)
    (userId : Option Int) : (reasonToWait primary p contentType userId).Quiet := by
  rcases reasonToWait_cases primary p contentType userId with ⟨d, -, h⟩ | ⟨-, h⟩ | ⟨u, -, h⟩
  · exact h ▸ quiet_pure _
  · exact h ▸ quiet_pure _
  · exact h ▸ quiet_bind (quiet_userReason _ _ _) fun _ => quiet_pure _

/-- A wait proposes the placement of the verdict that it holds up. -/
theorem reasonToWait_proposed {primary : Verdict} {p : Placement} {contentType : Value}
    {userId : Option Int} {s s' : Session} {wait : Wait} (hp : primary.proposed = some p)
    (h : reasonToWait primary p contentType userId s = (.ok (some wait), s')) :
    wait.verdict.proposed = some p := by
  rcases reasonToWait_cases primary p contentType userId with ⟨d, -, hr⟩ | ⟨-, hr⟩ | ⟨u, -, hr⟩
  · rw [hr] at h
    rw [← Option.some.inj (pure_returns h).1]
    exact hp
  · rw [hr] at h
    cases (pure_returns h).1
  · rw [hr] at h
    obtain ⟨reason, s₁, hreason, h⟩ := bind_returns h
    obtain ⟨d, rfl, hw⟩ := Option.map_eq_some_iff.1 (pure_returns h).1
    rw [← hw]
    exact userReason_proposed hreason

/-- If a verdict need not wait, nothing was found against its user. -/
theorem reasonToWait_none {primary : Verdict} {p : Placement} {contentType : Value} {userId : Int}
    {s s' : Session}
    (h : reasonToWait primary p contentType (some userId) s = (.ok none, s')) :
    (userReason contentType userId p s).1 = .ok none := by
  rcases reasonToWait_cases primary p contentType (some userId) with
    ⟨d, -, hr⟩ | ⟨hu, -⟩ | ⟨u, hu, hr⟩
  · rw [hr] at h
    cases (pure_returns h).1
  · cases hu
  · obtain rfl := Option.some.inj hu
    rw [hr] at h
    obtain ⟨reason, s₁, hreason, h⟩ := bind_returns h
    cases Option.map_eq_none_iff.1 (pure_returns h).1
    rw [hreason]

theorem quiet_expiry (g : Gate) : g.expiry.Quiet := by
  unfold expiry
  split
  · exact quiet_pure _
  · refine quiet_ite (quiet_pure _) (quiet_bind (quiet_ask _) fun now => ?_)
    split
    · exact quiet_pure _
    · exact quiet_throw _

/-! ## The effect of a submission -/

/-- What a submission leads to: the result, and the session after it. -/
inductive Effect (item : Item) (context : Context) (verdicts : List Verdict) (s : Session) :
    Except Failure Outcome × Session → Prop where
  /-- The tables stay, and nobody is counted. -/
  | kept {result : Except Failure Outcome} {s' : Session} (same : s.SameTables s')
      (uncounted : ∀ o, result = .ok o → countedFor context o = none) :
      Effect item context verdicts s (result, s')
  /-- A request is made for the placement of the first verdict that can be acted on. -/
  | made {result : Except Failure Outcome} {s' : Session} {primary : Verdict} {p : Placement}
      {rest : List (Verdict × Placement)} {userId : Int} {wait : Wait} {expiresAt : Option Moment}
      {request : Request} {store : Store}
      (first : verdicts.filterMap actionable? = (primary, p) :: rest)
      (user : context.primaryUserId = some userId) (proposed : wait.verdict.proposed = some p)
      (added : s.store.addRequest (newRequest item context userId wait expiresAt) s.now
        = .ok (request, store))
      (same : ({ s with store } : Session).SameTables s')
      (waits : ∀ o, result = .ok o → o.kind = .pending) :
      Effect item context verdicts s (result, s')
  /-- The primary user, who need not wait, is counted. -/
  | counted {o : Outcome} {s₁ s' : Session} {primary : Verdict} {p : Placement}
      {rest : List (Verdict × Placement)} {userId : Int} {store : Store}
      (first : verdicts.filterMap actionable? = (primary, p) :: rest)
      (asked : s.SameTables s₁)
      (free : (userReason context.contentType userId p s₁).1 = .ok none)
      (written : s.store.putUsage userId context.contentType s.now.date = .ok ((), store))
      (same : ({ s with store } : Session).SameTables s')
      (counts : countedFor context o = some userId) :
      Effect item context verdicts s (.ok o, s')

namespace Effect

variable {item : Item} {context : Context} {verdicts : List Verdict}

theorem of_same {s s₁ : Session} {x : Except Failure Outcome × Session} (h : s.SameTables s₁)
    (hx : Effect item context verdicts s₁ x) : Effect item context verdicts s x := by
  have hset : ∀ {store : Store} {s' : Session}, ({ s₁ with store } : Session).SameTables s' →
      ({ s with store } : Session).SameTables s' := fun hs =>
    ⟨hs.store, hs.now.trans h.now, hs.outages.trans h.outages, h.network.trans hs.network⟩
  cases hx with
  | kept same uncounted => exact .kept (h.trans same) uncounted
  | made first user proposed added same waits =>
    rw [h.store, h.now] at added
    exact .made first user proposed added (hset same) waits
  | counted first asked free written same counts =>
    rw [h.store, h.now] at written
    exact .counted first (h.trans asked) free written (hset same) counts

theorem of_keepsTables {x : Act Outcome} {s : Session} (hx : x.KeepsTables)
    (huncounted : ∀ o s', x s = (.ok o, s') → countedFor context o = none) :
    Effect item context verdicts s (x s) := by
  rcases h : x s with ⟨result, s'⟩
  refine .kept (hx.of_eq h) fun o ho => huncounted o s' ?_
  rw [h, ho]

/-- A quiet act that does not fail may come first. -/
theorem of_bind {α : Type} {x : Act α} {f : α → Act Outcome} {s : Session} (hx : x.Quiet)
    (hf : ∀ a s', x s = (.ok a, s') → Effect item context verdicts s' (f a s')) :
    Effect item context verdicts s ((x >>= f) s) := by
  rcases bind_cases x f s with ⟨a, s', h, hb⟩ | ⟨e, s', h, hb⟩
  · rw [hb]
    exact of_same (hx.of_eq h).toSameTables (hf a s' h)
  · rw [hb]
    exact .kept (hx.of_eq h).toSameTables fun o ho => by cases ho

end Effect

theorem keepsTables_route_none {g : Gate} (hp : g.partners.Quiet) (item : Item)
    (contentType : Value) (placements : List Placement) :
    (g.route item contentType placements none).KeepsTables := by
  refine keepsTables_bind (Partners.keepsTables_attemptAll hp item placements) fun taken => ?_
  exact (quiet_ite (quiet_pure _) (quiet_bind (quiet_pure _) fun _ => quiet_pure _)).keepsTables

theorem replay_request {g : Gate} {item : Item} {contentType : Value} {r : Request}
    {s s' : Session} {o : Outcome} (h : g.replay item contentType r s = (.ok o, s')) :
    o.request = some r := by
  unfold replay at h
  cases hp : r.verdict.proposed with
  | none =>
    simp only [hp] at h
    rw [← (pure_returns h).1]
  | some p =>
    simp only [hp] at h
    obtain ⟨_, s₁, -, h⟩ := bind_returns h
    obtain ⟨outcome, s₂, -, h⟩ := bind_returns h
    rw [← (pure_returns h).1]

theorem keepsTables_replay {g : Gate} (hp : g.partners.Quiet) (item : Item) (contentType : Value)
    (r : Request) : (g.replay item contentType r).KeepsTables := by
  unfold replay
  split
  · exact (quiet_pure _).keepsTables
  · exact keepsTables_bind (quiet_note _ _).keepsTables fun _ =>
      keepsTables_bind (keepsTables_route_none hp item contentType _) fun _ =>
        (quiet_pure _).keepsTables

/-- Honouring a request notes it and answers, or it carries the request out again. -/
theorem honour_cases (g : Gate) (item : Item) (contentType : Value) (r : Request) :
    (∃ text o, o.request = some r ∧
      g.honour item contentType r = (info text >>= fun _ => pure o)) ∨
    g.honour item contentType r = g.replay item contentType r := by
  unfold honour
  cases r.status with
  | pending => exact .inl ⟨_, _, rfl, rfl⟩
  | rejected => exact .inl ⟨_, _, rfl, rfl⟩
  | _ => exact .inr rfl

/-- Honouring a request changes no table. -/
theorem keepsTables_honour {g : Gate} (hp : g.partners.Quiet) (item : Item) (contentType : Value)
    (r : Request) : (g.honour item contentType r).KeepsTables := by
  rcases g.honour_cases item contentType r with ⟨text, o, -, hb⟩ | hb
  · exact hb ▸ (quiet_bind (quiet_note _ _) fun _ => quiet_pure _).keepsTables
  · exact hb ▸ keepsTables_replay hp item contentType r

theorem honour_request {g : Gate} {item : Item} {contentType : Value} {r : Request}
    {s s' : Session} {o : Outcome} (h : g.honour item contentType r s = (.ok o, s')) :
    o.request = some r := by
  rcases g.honour_cases item contentType r with ⟨text, answer, hanswer, hb⟩ | hb
  · rw [hb] at h
    obtain ⟨_, s₁, -, h⟩ := bind_returns h
    rw [← (pure_returns h).1, hanswer]
  · rw [hb] at h
    exact replay_request h

theorem quiet_liveRequest (userId : Option Int) (key : Value) :
    (liveRequest userId key).Quiet := by
  cases userId with
  | none => exact quiet_pure _
  | some userId => exact quiet_bind (quiet_read _ _ _) fun _ => quiet_pure _

/-- Where nothing is out of order, a stored request is found unless it is expired. -/
theorem liveRequest_of_found {userId : Int} {key : Value} {s : Session} {r : Request}
    (ho : s.outages = [])
    (hfound : s.store.getRequestFor userId key = .ok (some r)) (hlive : r.status ≠ .expired) :
    liveRequest (some userId) key s = (.ok (some r), s) := by
  have hread : Act.getRequestFor userId key s = (.ok (some r), s) := read_of_ok ho hfound
  have hkept : (some r).filter (fun r => r.status ≠ .expired) = some r := by
    simp [Option.filter, hlive]
  exact (bind_of_ok hread).trans (congrArg (fun found => (Except.ok found, s)) hkept)

/-- Asking for the live request of a user is one read of the store. -/
theorem liveRequest_eq_read (userId : Int) (key : Value) :
    liveRequest (some userId) key = Act.read .getRequestFor (some (.int userId)) fun s =>
      (s.getRequestFor userId key).map (·.filter (·.status ≠ .expired)) :=
  read_bind_pure _ _ _ _

/-! ## The ways of a submission -/

/-- The gate goes by the requests for approval: nothing is synchronised, no verdict rejects, and one
can be acted on. -/
structure Consults (context : Context) (verdicts : List Verdict) : Prop where
  asked : context.syncing = false
  unrejected : ∀ v ∈ verdicts, v.action ≠ .reject
  placed : ∃ v ∈ verdicts, v.proposed.isSome = true

/-- Answers a submission by the live request, if there is one. -/
def answer (g : Gate) (item : Item) (context : Context) (primary : Verdict) (p : Placement)
    (placements : List Placement) : Option Request → Act Outcome
  | some r => g.honour item context.contentType r
  | none => g.receive item context primary p placements

section Answer

variable (g : Gate) (item : Item) (context : Context) (primary : Verdict) (p : Placement)
  (placements : List Placement)

@[simp] theorem answer_some (r : Request) : g.answer item context primary p placements (some r)
    = g.honour item context.contentType r := rfl

@[simp] theorem answer_none : g.answer item context primary p placements none
    = g.receive item context primary p placements := rfl

end Answer

/-- What the gate does with a submission. -/
inductive Handles (g : Gate) (item : Item) (context : Context) (verdicts : List Verdict) :
    Act Outcome → Prop where
  | nothing {o : Outcome} (kind : o.kind = .skipped) (request : o.request = none)
      (unasked : ¬ Consults context verdicts) : Handles g item context verdicts (pure o)
  /-- It notes that the submission is rejected. -/
  | rejected {text : String} {o : Outcome} (kind : o.kind = .rejected) (request : o.request = none)
      (unasked : ¬ Consults context verdicts) :
      Handles g item context verdicts (info text >>= fun _ => pure o)
  /-- It routes what is synchronised. -/
  | synchronised {primary : Verdict} {p : Placement} {rest : List (Verdict × Placement)}
      (first : verdicts.filterMap actionable? = (primary, p) :: rest)
      (syncing : context.syncing = true) :
      Handles g item context verdicts
        (g.route item context.contentType (p :: rest.map Prod.snd) none)
  /-- It goes by the requests. -/
  | asked {primary : Verdict} {p : Placement} {rest : List (Verdict × Placement)}
      (first : verdicts.filterMap actionable? = (primary, p) :: rest)
      (consults : Consults context verdicts) :
      Handles g item context verdicts
        (liveRequest context.primaryUserId (contentKey item context) >>=
          g.answer item context primary p (p :: rest.map Prod.snd))

/-- The gate deals with every submission in one of four ways. -/
theorem process_handles (g : Gate) (item : Item) (context : Context) (verdicts : List Verdict) :
    Handles g item context verdicts (g.process item context verdicts) := by
  unfold process
  split
  · rename_i hempty
    refine .nothing rfl rfl fun h => ?_
    obtain ⟨v, hv, -⟩ := h.placed
    rw [List.isEmpty_iff.1 hempty] at hv
    cases hv
  split
  · rename_i hreject
    refine .rejected rfl rfl fun h => ?_
    obtain ⟨v, hv, hrejects⟩ := List.any_eq_true.1 hreject
    exact h.unrejected v hv (of_decide_eq_true hrejects)
  rename_i hreject
  cases hfirst : verdicts.filterMap actionable? with
  | nil =>
    refine .nothing rfl rfl fun h => ?_
    obtain ⟨v, hv, hplaced⟩ := h.placed
    obtain ⟨p, hp⟩ := Option.isSome_iff_exists.1 hplaced
    have hmem := mem_actionable.2 ⟨hv, hp⟩
    rw [hfirst] at hmem
    cases hmem
  | cons first rest =>
    obtain ⟨primary, p⟩ := first
    dsimp only
    split
    · exact .synchronised hfirst ‹_›
    · rename_i hsyncing
      obtain ⟨hv, hp⟩ := mem_actionable.1 (hfirst ▸ List.mem_cons_self)
      refine .asked hfirst ⟨by simpa using hsyncing, by simpa using hreject, primary, hv, ?_⟩
      rw [hp]
      rfl

/-- Where it goes by the requests, it answers by the live one. -/
theorem process_of_consults (g : Gate) (item : Item) {context : Context} {verdicts : List Verdict}
    (h : Consults context verdicts) :
    ∃ primary p rest, verdicts.filterMap actionable? = (primary, p) :: rest ∧
      g.process item context verdicts
        = (liveRequest context.primaryUserId (contentKey item context) >>=
            g.answer item context primary p (p :: rest.map Prod.snd)) := by
  have hway := g.process_handles item context verdicts
  generalize g.process item context verdicts = x at hway ⊢
  cases hway with
  | nothing _ _ unasked => exact absurd h unasked
  | rejected _ _ unasked => exact absurd h unasked
  | synchronised _ syncing =>
    rw [h.asked] at syncing
    cases syncing
  | asked first => exact ⟨_, _, _, first, rfl⟩

/-- What comes after a request was made. -/
def announce (g : Gate) (text : String) (r : Request) : Act Outcome := do
  Act.info text
  g.partners.tellRequired r
  return { kind := .pending, request := some r, message := r.reason.orElse (.text "") }

section Submission

variable {g : Gate} {item : Item} {context : Context} {verdicts : List Verdict} {primary : Verdict}
  {p : Placement} {rest : List (Verdict × Placement)} {userId : Int}

theorem quiet_announce (hp : g.partners.Quiet) (text : String) (r : Request) :
    (g.announce text r).Quiet :=
  quiet_bind (quiet_note _ _) fun _ => quiet_bind (hp.tellRequired r) fun _ => quiet_pure _

/-- Making the request of a wait, and then anything quiet that ends with a pending outcome. -/
theorem addRequest_effect (hfirst : verdicts.filterMap actionable? = (primary, p) :: rest)
    (huser : context.primaryUserId = some userId) {wait : Wait}
    (hwait : wait.verdict.proposed = some p) (expiresAt : Option Moment)
    {announce : Request → Act Outcome} (hquiet : ∀ r, (announce r).Quiet)
    (hwaits : ∀ {r s o s'}, announce r s = (.ok o, s') → o.kind = .pending) (s : Session) :
    Effect item context verdicts s
      ((Act.addRequest (newRequest item context userId wait expiresAt) >>= announce) s) := by
  let n := newRequest item context userId wait expiresAt
  rcases write_cases .addRequest none (Store.addRequest n s.now) s with
    ⟨request, store, hadd, hw⟩ | ⟨e, s', hw, hs⟩
  · rw [bind_of_ok (x := Act.addRequest n) hw]
    rcases h : announce request { s with store } with ⟨result, s'⟩
    refine .made hfirst huser hwait hadd ((hquiet request).of_eq h).toSameTables fun o ho => ?_
    rw [ho] at h
    exact hwaits h
  · rw [bind_of_error (x := Act.addRequest n) hw]
    exact .kept hs.toSameTables fun o ho => by cases ho

/-- Deferring makes one request, or fails and changes no table. -/
theorem defer_effect (hp : g.partners.Quiet)
    (hfirst : verdicts.filterMap actionable? = (primary, p) :: rest)
    (huser : context.primaryUserId = some userId) {wait : Wait}
    (hwait : wait.verdict.proposed = some p) (s : Session) :
    Effect item context verdicts s (g.defer item context userId wait s) := by
  refine Effect.of_bind g.quiet_expiry fun expiresAt s₁ _ => ?_
  refine addRequest_effect hfirst huser hwait expiresAt (fun request => ?_) (fun h => ?_) s₁
  · exact quiet_announce hp _ request
  · obtain ⟨_, _, -, h⟩ := bind_returns h
    obtain ⟨_, _, -, h⟩ := bind_returns h
    rw [← (pure_returns h).1]

/-- Routing for a user who need not wait counts the user if an instance took the content. -/
theorem route_effect (hp : g.partners.Quiet)
    (hfirst : verdicts.filterMap actionable? = (primary, p) :: rest)
    (hsyncing : context.syncing = false) (huser : context.primaryUserId = some userId)
    {s s₁ : Session} (hs : s.SameTables s₁)
    (hfree : (userReason context.contentType userId p s).1 = .ok none)
    (placements : List Placement) :
    Effect item context verdicts s
      (g.route item context.contentType placements (some userId) s₁) := by
  have hattempts := Partners.keepsTables_attemptAll hp item placements
  unfold route
  rcases bind_cases (g.partners.attemptAll item placements) _ s₁ with
    ⟨taken, s₂, h, hb⟩ | ⟨e, s₂, h, hb⟩
  · have hs₂ := hs.trans (hattempts.of_eq h)
    rw [hb]
    -- no user is counted unless an instance took the content
    by_cases ht : taken.isEmpty = true
    · simp only [ht, if_true]
      exact .kept hs₂ fun o ho => countedFor_of_kind (by rw [← Except.ok.inj ho]; simp)
    · have hone : (some userId).forM (fun u => Quota.recordUsage u context.contentType)
          = Quota.recordUsage userId context.contentType := rfl
      simp only [ht, Bool.false_eq_true, if_false, hone]
      rcases Quota.recordUsage_cases userId context.contentType s₂ with
        ⟨store, hput, hr⟩ | ⟨e, s₃, hr, hs₃⟩
      · rw [bind_of_ok hr]
        rw [hs₂.store, hs₂.now] at hput
        refine .counted hfirst (.refl s) hfree hput ⟨rfl, hs₂.now, hs₂.outages, hs₂.network⟩ ?_
        exact (countedFor_routed rfl rfl hsyncing).trans huser
      · rw [bind_of_error hr]
        exact .kept (hs₂.trans hs₃.toSameTables) fun o ho => by cases ho
  · rw [hb]
    exact .kept (hs.trans (hattempts.of_eq h)) fun o ho => by cases ho

theorem receive_effect (hp : g.partners.Quiet)
    (hfirst : verdicts.filterMap actionable? = (primary, p) :: rest)
    (hprimary : primary.proposed = some p) (hsyncing : context.syncing = false)
    (placements : List Placement) (s : Session) :
    Effect item context verdicts s (g.receive item context primary p placements s) := by
  have hquiet := quiet_reasonToWait primary p context.contentType context.primaryUserId
  rcases bind_cases (reasonToWait primary p context.contentType context.primaryUserId) _ s with
    ⟨reason, s₁, h, hb⟩ | ⟨e, s₁, h, hb⟩
  · have hs := (hquiet.of_eq h).toSameTables
    unfold receive
    rw [hb]
    cases huser : context.primaryUserId with
    | none =>
      refine Effect.of_same hs ?_
      cases reason with
      | some wait =>
        exact Effect.of_keepsTables (quiet_bind (quiet_note _ _) fun _ => quiet_pure _).keepsTables
          fun o s' _ => countedFor_of_nobody o huser
      | none =>
        exact Effect.of_keepsTables (keepsTables_route_none hp item _ _) fun o s' _ =>
          countedFor_of_nobody o huser
    | some userId =>
      rw [huser] at h
      cases reason with
      | some wait =>
        exact Effect.of_same hs (defer_effect hp hfirst huser (reasonToWait_proposed hprimary h) s₁)
      | none => exact route_effect hp hfirst hsyncing huser hs (reasonToWait_none h) placements
  · unfold receive
    rw [hb]
    exact .kept (hquiet.of_eq h).toSameTables fun o ho => by cases ho

/-- Every submission has one of the three effects. -/
theorem process_effect (hp : g.partners.Quiet) (item : Item) (context : Context)
    (verdicts : List Verdict) (s : Session) :
    Effect item context verdicts s (g.process item context verdicts s) := by
  have hway := g.process_handles item context verdicts
  generalize g.process item context verdicts = x at hway ⊢
  cases hway with
  | nothing kind =>
    exact .kept (.refl s) fun o ho => countedFor_of_kind (by rw [← Except.ok.inj ho, kind]; decide)
  | rejected kind =>
    refine Effect.of_bind (quiet_note _ _) fun _ s₁ _ => ?_
    exact .kept (.refl s₁) fun o ho => countedFor_of_kind (by rw [← Except.ok.inj ho, kind]; decide)
  | synchronised _ syncing =>
    exact Effect.of_keepsTables (keepsTables_route_none hp item _ _) fun o s' _ =>
      countedFor_of_syncing o syncing
  | asked first consults =>
    refine Effect.of_bind (quiet_liveRequest _ _) fun found s₁ _ => ?_
    cases found with
    | some r =>
      exact Effect.of_keepsTables (keepsTables_honour hp item _ r) fun o s' h =>
        countedFor_of_request (honour_request h)
    | none => exact receive_effect hp first (proposed_of_first first) consults.asked _ s₁

end Submission

end Watchgate.Gate
