import Watchgate.Proofs.Approval.Lifecycle

/-!
# What the outcome of a submission tells

The kind of an outcome says everything about what the submission did: which placements were tried
and which of them took the content, and which of the tables changed. The starting point is a
submission that did return; each act of it is inverted, so that what the helpers did is read off the
end result. Whether the exchanges with the instances were of use is not asked.
-/

namespace Watchgate

open Act Calendar Store

/-! ## Attempts that all ended -/

/-- The records of attempts that ended, each placement with its answer. -/
def Attempt.ended (item : Item) (tries : List (Placement × Bool)) : List Attempt :=
  tries.map fun t => ⟨item, t.1, some t.2⟩

/-- The placements that took the content. -/
def acceptedOf (tries : List (Placement × Bool)) : List Placement :=
  (tries.filter Prod.snd).map Prod.fst

theorem acceptedOf_cons (placement : Placement) (accepted : Bool)
    (tries : List (Placement × Bool)) : acceptedOf ((placement, accepted) :: tries)
      = if accepted then placement :: acceptedOf tries else acceptedOf tries := by
  cases accepted <;> rfl

namespace Partners

/-- An attempt that ended leaves its answer. -/
theorem attempt_returns {p : Partners} (hp : p.Quiet) {item : Item} {placement : Placement}
    {accepted : Bool} {s s' : Session} (h : p.attempt item placement s = (.ok accepted, s')) :
    s.SameTables s' ∧ s'.attempts = s.attempts ++ [⟨item, placement, some accepted⟩] := by
  have hattempt := attempted hp item placement s
  rw [h] at hattempt
  exact ⟨hattempt.toSameTables, hattempt.attempts⟩

/-- If attempts at several placements end, each was tried once, in order, and those that took the
content are returned. -/
theorem attemptAll_returns {p : Partners} (hp : p.Quiet) {item : Item}
    {placements taken : List Placement} {s s' : Session}
    (h : p.attemptAll item placements s = (.ok taken, s')) :
    ∃ tries, tries.map Prod.fst = placements ∧ taken = acceptedOf tries ∧
      s'.attempts = s.attempts ++ Attempt.ended item tries ∧ s.SameTables s' := by
  induction placements generalizing s taken with
  | nil =>
    obtain ⟨htaken, hs⟩ := pure_returns h
    subst taken s'
    exact ⟨[], rfl, rfl, (List.append_nil _).symm, .refl s⟩
  | cons placement rest ih =>
    obtain ⟨accepted, s₁, hfirst, h⟩ := bind_returns h
    obtain ⟨others, s₂, hrest, h⟩ := bind_returns h
    obtain ⟨htaken, hs⟩ := pure_returns h
    subst taken s'
    obtain ⟨hsame, hattempt⟩ := attempt_returns hp hfirst
    obtain ⟨tries, htries, rfl, hattempts, hsame'⟩ := ih hrest
    refine ⟨(placement, accepted) :: tries, ?_, (acceptedOf_cons _ _ _).symm, ?_,
      hsame.trans hsame'⟩
    · rw [List.map_cons, htries]
    · rw [hattempts, hattempt, List.append_assoc]
      rfl

end Partners

/-! ## Changes of the tables -/

/-- The table of requests with one more, which waits, and which may replace an expired one of its
user for its key. -/
def Gains (rows rows' : List Request) (row : Request) : Prop :=
  ∃ kept, Replaces row.userId row.key rows kept ∧ NewRow row.userId kept row ∧
    rows' = kept ++ [row]

theorem gains_of_addRequest {n : NewRequest} {now : Moment} {s s' : Store} {request : Request}
    (h : s.addRequest n now = .ok (request, s')) :
    ∃ row, Gains s.requests s'.requests row ∧ RowOf request row ∧
      (∃ id, request = n.toRequest id request.userName now) ∧
      s' = { s with requests := s'.requests } := by
  obtain ⟨kept, row, hkept, hnew, hrow, rfl, hrequest⟩ := newRow_of_addRequest h
  have huser := hnew.user
  exact ⟨row, ⟨kept, huser ▸ hkept, huser ▸ hnew, rfl⟩, hrow, ⟨_, hrequest⟩, rfl⟩

/-- The request that a table gained was not there before. -/
theorem Gains.ne {rows rows' : List Request} {row : Request} (h : Gains rows rows' row) :
    rows' ≠ rows := by
  obtain ⟨kept, hkept, hnew, rfl⟩ := h
  intro he
  have hrow : row ∈ rows := he ▸ List.mem_append_right kept (List.mem_singleton_self row)
  have hlt : ∀ r ∈ kept, r.id < row.id := hnew.newId
  cases hkept with
  | none =>
    have := hlt row hrow
    omega
  | @expired old mem _ _ status =>
    -- the row that gave way was expired, the new one waits
    have hne : row.id = old.id := by
      by_contra hid
      have := hlt row (List.mem_filter.2 ⟨hrow, by simpa using hid⟩)
      omega
    have hold : old ∈ rows.filter (·.id ≠ old.id) ++ [row] := by
      rw [he]
      exact mem
    rcases List.mem_append.1 hold with hold | hold
    · have := (List.mem_filter.1 hold).2
      simp at this
    · rw [List.mem_singleton.1 hold, hnew.status] at status
      cases status

/-- A table gains one request at a time. -/
theorem Gains.unique {rows rows' : List Request} {row row' : Request} (h : Gains rows rows' row)
    (h' : Gains rows rows' row') : row = row' := by
  obtain ⟨kept, -, -, hrows⟩ := h
  obtain ⟨kept', -, -, hrows'⟩ := h'
  have hlast : [row] = [row'] := List.append_inj_right' (hrows.symm.trans hrows') rfl
  exact (List.cons.inj hlast).1

/-- Nothing but one more counted request, if that. -/
def Store.CountsAtMostOne (s s' : Store) : Prop :=
  s' = s ∨ ∃ u, s' = { s with usage := s.usage ++ [u] }

namespace Gate

/-! ## What the outcome means -/

/-- The placements at which a submission was to be tried: those of its verdicts, or the one of the
request for it that is there and neither waits nor was rejected nor ran out. -/
inductive Target (item : Item) (context : Context) (verdicts : List Verdict) (s : Session)
    (o : Outcome) : List Placement → Prop where
  /-- All that the verdicts propose, in their order. -/
  | proposed (fresh : o.request = none) :
      Target item context verdicts s o (verdicts.filterMap Verdict.proposed)
  /-- The one that was approved before. -/
  | approved {userId : Int} {r : Request} {p : Placement}
      (user : context.primaryUserId = some userId)
      (found : s.store.getRequestFor userId (contentKey item context) = .ok (some r))
      (cleared : r.status ∉ [.pending, .rejected, .expired])
      (stored : r.verdict.proposed = some p) (told : o.request = some r) :
      Target item context verdicts s o [p]

/-- What an outcome of a kind means for the attempts and the tables. -/
def Means (item : Item) (context : Context) (verdicts : List Verdict) (s s' : Session)
    (o : Outcome) : OutcomeKind → Prop
  | .routed =>
    (∃ tries, Target item context verdicts s o (tries.map Prod.fst) ∧
      s'.attempts = s.attempts ++ Attempt.ended item tries ∧ o.routed = acceptedOf tries) ∧
    o.routed ≠ [] ∧ s.store.CountsAtMostOne s'.store
  | .failed =>
    (∃ tries, Target item context verdicts s o (tries.map Prod.fst) ∧
      s'.attempts = s.attempts ++ Attempt.ended item tries ∧ ∀ t ∈ tries, t.2 = false) ∧
    s'.store = s.store
  | .pending =>
    s'.attempts = s.attempts ∧
    ((∃ row, Gains s.store.requests s'.store.requests row ∧
        o.request.map Request.id = some row.id ∧
        s'.store = { s.store with requests := s'.store.requests }) ∨
      ∃ userId r, context.primaryUserId = some userId ∧
        s.store.getRequestFor userId (contentKey item context) = .ok (some r) ∧
        r.status = .pending ∧ o.request = some r ∧ s'.store = s.store)
  | .rejected => s'.attempts = s.attempts ∧ s'.store = s.store
  | .skipped => s'.attempts = s.attempts ∧ s'.store = s.store

variable {g : Gate} {item : Item} {context : Context} {verdicts : List Verdict}
  {s s₁ s' : Session} {o : Outcome}

/-- What came before a submission's last act does not matter if it changed no record. -/
theorem Means.of_same (hs : s.SameRecords s₁)
    (h : Means item context verdicts s₁ s' o o.kind) :
    Means item context verdicts s s' o o.kind := by
  have htarget : ∀ {placements}, Target item context verdicts s₁ o placements →
      Target item context verdicts s o placements := by
    intro placements ht
    cases ht with
    | proposed fresh => exact .proposed fresh
    | approved user found cleared stored told =>
      exact .approved user (hs.store ▸ found) cleared stored told
  cases hk : o.kind with
  | routed =>
    rw [hk] at h
    obtain ⟨⟨tries, ht, ha, hr⟩, hne, hstore⟩ := h
    exact ⟨⟨tries, htarget ht, hs.attempts ▸ ha, hr⟩, hne, hs.store ▸ hstore⟩
  | failed =>
    rw [hk] at h
    obtain ⟨⟨tries, ht, ha, hr⟩, hstore⟩ := h
    exact ⟨⟨tries, htarget ht, hs.attempts ▸ ha, hr⟩, hs.store ▸ hstore⟩
  | pending =>
    rw [hk] at h
    obtain ⟨ha, h⟩ := h
    refine ⟨hs.attempts ▸ ha, ?_⟩
    rw [hs.store] at h
    exact h
  | rejected =>
    rw [hk] at h
    exact ⟨hs.attempts ▸ h.1, hs.store ▸ h.2⟩
  | skipped =>
    rw [hk] at h
    exact ⟨hs.attempts ▸ h.1, hs.store ▸ h.2⟩

/-- Ending without having changed a record. -/
theorem Means.of_kept (hs : s.SameRecords s') (hk : o.kind = .rejected ∨ o.kind = .skipped) :
    Means item context verdicts s s' o o.kind := by
  rcases hk with hk | hk
  · rw [hk]
    exact ⟨hs.attempts, hs.store⟩
  · rw [hk]
    exact ⟨hs.attempts, hs.store⟩

/-! ## Inversion -/

/-- What routing leaves behind when it ends. -/
structure RouteResult (item : Item) (s s' : Session) (o : Outcome)
    (tries : List (Placement × Bool)) : Prop where
  attempts : s'.attempts = s.attempts ++ Attempt.ended item tries
  request : o.request = none
  result : (o.kind = .failed ∧ acceptedOf tries = [] ∧ s'.store = s.store) ∨
    (o.kind = .routed ∧ o.routed = acceptedOf tries ∧ acceptedOf tries ≠ [] ∧
      s.store.CountsAtMostOne s'.store)

theorem countedIfAny_returns {contentType : Value} {counted : Option Int} {s s' : Session}
    (h : counted.forM (fun userId => Quota.recordUsage userId contentType) s = (.ok (), s')) :
    s'.attempts = s.attempts ∧ s.store.CountsAtMostOne s'.store := by
  cases counted with
  | none =>
    obtain ⟨-, rfl⟩ := pure_returns h
    exact ⟨rfl, .inl rfl⟩
  | some userId =>
    have h : Quota.recordUsage userId contentType s = (.ok (), s') := h
    rcases Quota.recordUsage_cases userId contentType s with
      ⟨store, hput, hr⟩ | ⟨e, s₁, hr, -⟩
    · obtain ⟨-, rfl⟩ := Prod.mk.inj (hr.symm.trans h)
      obtain ⟨stored, -, hstore⟩ := putUsage_ok hput
      exact ⟨rfl, .inr ⟨_, hstore⟩⟩
    · cases hr.symm.trans h

theorem route_returns (hp : g.partners.Quiet) {contentType : Value} {placements : List Placement}
    {counted : Option Int} (h : g.route item contentType placements counted s = (.ok o, s')) :
    ∃ tries, tries.map Prod.fst = placements ∧ RouteResult item s s' o tries := by
  obtain ⟨taken, s₁, hall, h⟩ := bind_returns h
  obtain ⟨tries, htries, rfl, hattempts, hsame⟩ := Partners.attemptAll_returns hp hall
  refine ⟨tries, htries, ?_⟩
  by_cases hnone : (acceptedOf tries).isEmpty = true
  · rw [if_pos hnone] at h
    obtain ⟨rfl, rfl⟩ := pure_returns h
    exact ⟨hattempts, rfl, .inl ⟨rfl, List.isEmpty_iff.1 hnone, hsame.store⟩⟩
  · rw [if_neg hnone] at h
    obtain ⟨⟨⟩, s₂, hcount, h⟩ := bind_returns h
    obtain ⟨rfl, rfl⟩ := pure_returns h
    obtain ⟨hkept, hstore⟩ := countedIfAny_returns hcount
    rw [hsame.store] at hstore
    have hne : acceptedOf tries ≠ [] := fun he => hnone (by rw [he]; rfl)
    exact ⟨hkept.trans hattempts, rfl, .inr ⟨rfl, rfl, hne, hstore⟩⟩

theorem eq_false_of_acceptedOf_nil {tries : List (Placement × Bool)} (h : acceptedOf tries = []) :
    ∀ t ∈ tries, t.2 = false := by
  intro t ht
  by_contra hne
  have hmem : t ∈ tries.filter Prod.snd := List.mem_filter.2 ⟨ht, by simpa using hne⟩
  rw [List.map_eq_nil_iff.1 h] at hmem
  cases hmem

/-- An outcome that routing ended with, with the request that it was made for, if any. -/
theorem RouteResult.means {tries : List (Placement × Bool)} (h : RouteResult item s s' o tries)
    (request : Option Request)
    (ht : Target item context verdicts s { o with request } (tries.map Prod.fst)) :
    Means item context verdicts s s' { o with request } o.kind := by
  rcases h.result with ⟨hk, hnone, hstore⟩ | ⟨hk, hrouted, hne, hstore⟩
  · have hfailed : Means item context verdicts s s' { o with request } .failed :=
      ⟨⟨tries, ht, h.attempts, eq_false_of_acceptedOf_nil hnone⟩, hstore⟩
    rwa [← hk] at hfailed
  · have hne' : o.routed ≠ [] := by
      rw [hrouted]
      exact hne
    have hrouted : Means item context verdicts s s' { o with request } .routed :=
      ⟨⟨tries, ht, h.attempts, hrouted⟩, hne', hstore⟩
    rwa [← hk] at hrouted

/-- Routing by the verdicts. -/
theorem means_of_route (hp : g.partners.Quiet) {contentType : Value} {counted : Option Int}
    (h : g.route item contentType (verdicts.filterMap Verdict.proposed) counted s = (.ok o, s')) :
    Means item context verdicts s s' o o.kind := by
  obtain ⟨tries, htries, hresult⟩ := route_returns hp h
  have htarget : Target item context verdicts s o (tries.map Prod.fst) :=
    htries ▸ .proposed hresult.request
  exact hresult.means o.request htarget

/-- Honouring the request that is there. -/
theorem means_of_honour (hp : g.partners.Quiet) {contentType : Value} {userId : Int} {r : Request}
    (huser : context.primaryUserId = some userId)
    (hfound : s.store.getRequestFor userId (contentKey item context) = .ok (some r))
    (hlive : r.status ≠ .expired) (h : g.honour item contentType r s = (.ok o, s')) :
    Means item context verdicts s s' o o.kind := by
  have hreplay : r.status ∉ [.pending, .rejected, .expired] →
      g.replay item contentType r s = (.ok o, s') →
        Means item context verdicts s s' o o.kind := by
    intro hcleared h
    unfold replay at h
    cases hp' : r.verdict.proposed with
    | none =>
      simp only [hp'] at h
      obtain ⟨rfl, rfl⟩ := pure_returns h
      exact .of_kept (.refl s') (.inr rfl)
    | some p =>
      simp only [hp'] at h
      obtain ⟨_, s₁, hnote, h⟩ := bind_returns h
      obtain ⟨outcome, s₂, hroute, h⟩ := bind_returns h
      obtain ⟨rfl, rfl⟩ := pure_returns h
      have hs : s.SameRecords s₁ := (quiet_note _ _).of_eq hnote
      obtain ⟨tries, htries, hresult⟩ := route_returns hp hroute
      refine Means.of_same hs (hresult.means (some r) ?_)
      rw [htries]
      exact .approved huser (hs.store ▸ hfound) hcleared hp' rfl
  unfold honour at h
  cases hk : r.status with
  | pending =>
    simp only [hk] at h
    obtain ⟨_, s₁, hnote, h⟩ := bind_returns h
    obtain ⟨rfl, rfl⟩ := pure_returns h
    have hs : s.SameRecords s' := (quiet_note _ _).of_eq hnote
    exact ⟨hs.attempts, .inr ⟨userId, r, huser, hfound, hk, rfl, hs.store⟩⟩
  | rejected =>
    simp only [hk] at h
    obtain ⟨_, s₁, hnote, h⟩ := bind_returns h
    obtain ⟨rfl, rfl⟩ := pure_returns h
    exact .of_kept ((quiet_note _ _).of_eq hnote) (.inl rfl)
  | expired => exact absurd hk hlive
  | approved =>
    simp only [hk] at h
    exact hreplay (by rw [hk]; decide) h
  | other name =>
    simp only [hk] at h
    exact hreplay (by simp [hk]) h

/-- Keeping the submission as a request. -/
theorem means_of_defer (hp : g.partners.Quiet) {userId : Int} {wait : Wait}
    (h : g.defer item context userId wait s = (.ok o, s')) :
    Means item context verdicts s s' o o.kind := by
  obtain ⟨expiresAt, s₁, hexpiry, h⟩ := bind_returns h
  have hs : s.SameRecords s₁ := g.quiet_expiry.of_eq hexpiry
  refine .of_same hs ?_
  obtain ⟨request, s₂, hadd, h⟩ := bind_returns h
  obtain ⟨_, s₃, hnote, h⟩ := bind_returns h
  obtain ⟨_, s₄, htell, h⟩ := bind_returns h
  obtain ⟨rfl, rfl⟩ := pure_returns h
  have hrest : s₂.SameRecords s' :=
    ((quiet_note _ _).of_eq hnote).trans ((hp.tellRequired request).of_eq htell)
  rcases write_cases .addRequest none
    (Store.addRequest (newRequest item context userId wait expiresAt) s₁.now) s₁ with
    ⟨made, store, hstore, hw⟩ | ⟨e, s₅, hw, -⟩
  · obtain ⟨hmade, rfl⟩ := Prod.mk.inj (hw.symm.trans hadd)
    obtain rfl := Except.ok.inj hmade
    obtain ⟨row, hgains, hrow, -, hother⟩ := gains_of_addRequest hstore
    refine ⟨hrest.attempts, .inl ⟨row, ?_, congrArg some hrow.id.symm, ?_⟩⟩
    · rw [hrest.store]
      exact hgains
    · rw [hrest.store]
      exact hother
  · cases hw.symm.trans hadd

/-- Answering a submission for which there is no request. -/
theorem means_of_receive (hp : g.partners.Quiet) {primary : Verdict} {p : Placement}
    {placements : List Placement} (hplacements : placements = verdicts.filterMap Verdict.proposed)
    (h : g.receive item context primary p placements s = (.ok o, s')) :
    Means item context verdicts s s' o o.kind := by
  subst placements
  obtain ⟨reason, s₁, hreason, h⟩ := bind_returns h
  have hs : s.SameRecords s₁ := (quiet_reasonToWait _ _ _ _).of_eq hreason
  refine .of_same hs ?_
  cases reason with
  | none => exact means_of_route hp h
  | some wait =>
    cases huser : context.primaryUserId with
    | none =>
      simp only [huser] at h
      obtain ⟨_, s₂, hnote, h⟩ := bind_returns h
      obtain ⟨rfl, rfl⟩ := pure_returns h
      exact .of_kept ((quiet_note _ _).of_eq hnote) (.inr rfl)
    | some userId =>
      simp only [huser] at h
      exact means_of_defer hp h

theorem liveRequest_returns {key : Value} {userId? : Option Int} {found : Option Request}
    (h : liveRequest userId? key s = (.ok found, s')) : s' = s ∧ ∀ r, found = some r →
      ∃ userId, userId? = some userId ∧ s.store.getRequestFor userId key = .ok (some r) ∧
        r.status ≠ .expired := by
  cases userId? with
  | none =>
    obtain ⟨hfound, hs⟩ := pure_returns h
    refine ⟨hs, fun r hr => ?_⟩
    cases hfound.trans hr
  | some userId =>
    obtain ⟨stored, s₁, hread, h⟩ := bind_returns h
    obtain ⟨hstored, hs₁⟩ := read_returns hread
    subst s₁
    obtain ⟨hfound, hs⟩ := pure_returns h
    refine ⟨hs, fun r hr => ⟨userId, rfl, ?_⟩⟩
    obtain ⟨hstored', hlive⟩ := Option.filter_eq_some_iff.1 (hfound.trans hr)
    exact ⟨hstored' ▸ hstored, by simpa using hlive⟩

theorem filterMap_actionable?_snd (verdicts : List Verdict) :
    (verdicts.filterMap actionable?).map Prod.snd = verdicts.filterMap Verdict.proposed := by
  rw [List.map_filterMap]
  refine List.filterMap_congr fun v _ => ?_
  cases h : v.proposed <;> simp [actionable?, h]

/-- The placements that a submission proposes, the first of them apart. -/
theorem placements_of_first {primary : Verdict} {p : Placement} {rest : List (Verdict × Placement)}
    (hfirst : verdicts.filterMap actionable? = (primary, p) :: rest) :
    p :: rest.map Prod.snd = verdicts.filterMap Verdict.proposed := by
  rw [← filterMap_actionable?_snd, hfirst]
  rfl

/-- Whatever a submission ends with, the outcome means what its kind says. -/
theorem means_of_process (hp : g.partners.Quiet)
    (h : g.process item context verdicts s = (.ok o, s')) :
    Means item context verdicts s s' o o.kind := by
  have hway := g.process_handles item context verdicts
  generalize g.process item context verdicts = x at hway h
  cases hway with
  | nothing kind =>
    obtain ⟨rfl, rfl⟩ := pure_returns h
    exact .of_kept (.refl s') (.inr kind)
  | rejected kind =>
    obtain ⟨_, s₁, hnote, h⟩ := bind_returns h
    obtain ⟨rfl, rfl⟩ := pure_returns h
    exact .of_kept ((quiet_note _ _).of_eq hnote) (.inl kind)
  | synchronised first =>
    rw [placements_of_first first] at h
    exact means_of_route hp h
  | asked first =>
    obtain ⟨found, s₁, hlive, h⟩ := bind_returns h
    obtain ⟨rfl, hlive⟩ := liveRequest_returns hlive
    cases found with
    | none => exact means_of_receive hp (placements_of_first first) h
    | some r =>
      obtain ⟨userId, huser, hfound, hne⟩ := hlive r rfl
      exact means_of_honour hp huser hfound hne h

end Gate

/-- Every submission that is answered has exactly one kind of effect, the one that its outcome
names. -/
theorem outcome_tells_effect (service : Service) {item : Item} {context : Context}
    {verdicts : List Verdict} {s s' : Session} {o : Outcome}
    (h : service.gate.process item context verdicts s = (.ok o, s')) :
    ∃! k, o.kind = k ∧ Gate.Means item context verdicts s s' o k :=
  ⟨o.kind, ⟨rfl, Gate.means_of_process service.quiet_partners h⟩, fun _ hk => hk.1.symm⟩

/-- For instance, a submission that two instances could take, of which only one is there. -/
theorem outcome_tells_effect_two_placements :
    let s : Session := {
      store := {
        users := [{ id := 1, name := .text "Ann" }]
        instances := [{ id := 1, type := .text "radarr" }] }
      now := .ofDate ⟨738959⟩ }
    let item : Item := { title := .text "Dune", guids := ["tmdb:438631"] }
    let context : Context := { contentType := .text "movie", userId := .one 1 }
    let verdicts := [.route { instanceId := 1 }, .route { instanceId := 2 }]
    ∃ o s', ({} : Service).gate.process item context verdicts s = (.ok o, s') ∧
      Gate.Means item context verdicts s s' o .routed := by
  intro s item context verdicts
  have hkind : (({} : Service).gate.process item context verdicts s).1.toOption.map Outcome.kind
      = some .routed := by decide +kernel
  rcases h : ({} : Service).gate.process item context verdicts s with ⟨e | o, s'⟩
  · rw [h] at hkind
    cases hkind
  · rw [h] at hkind
    obtain ⟨k, ⟨hk, hmeans⟩, -⟩ := outcome_tells_effect {} h
    rw [← hk, Option.some.inj hkind] at hmeans
    exact ⟨o, s', rfl, hmeans⟩

end Watchgate
