import Watchgate.Proofs.Approval.Expiry
import Watchgate.Proofs.Approval.Ids

/-!
# Batches of decisions

A batch decides one request after the other, and each decision looks at what the ones before it left. A
decision changes the row of its own id and no other, and it does to that row what any later decision of
the batch leaves alone. So the table after a batch depends on the set of ids alone, while the lists that
are returned tell for each occurrence whether it was the one that counted.

Adding content may fail, and then so does the batch; the statements are about the runs in which every
attempt ends with an answer.
-/

namespace Watchgate

open Act Calendar Store

/-! ## Attempts -/

namespace Session

variable {s s' s'' : Session}

/-- Every attempt made from one session to the next ended with an answer. -/
def Answered (s s' : Session) : Prop :=
  ∀ a ∈ s'.attempts.drop s.attempts.length, a.accepted.isSome

theorem answered_of_eq (h : s'.attempts = s.attempts) : s.Answered s' := by
  simp [Answered, h]

theorem Answered.split (h : s.Answered s'') (hp : s.attempts <+: s'.attempts)
    (hp' : s'.attempts <+: s''.attempts) : s.Answered s' ∧ s'.Answered s'' := by
  obtain ⟨before, hbefore⟩ := hp
  obtain ⟨after, hafter⟩ := hp'
  have hall : ∀ a ∈ before ++ after, a.accepted.isSome := by
    simpa [Answered, ← hafter, ← hbefore] using h
  constructor
  · intro a ha
    rw [← hbefore, List.drop_left] at ha
    exact hall a (List.mem_append_left _ ha)
  · intro a ha
    rw [← hafter, List.drop_left] at ha
    exact hall a (List.mem_append_right _ ha)

end Session

/-! ## Rows -/

instance (id : Int) (rows : List Request) : Decidable (Absent id rows) :=
  inferInstanceAs (Decidable (∀ r ∈ rows, r.id ≠ id))

/-- The request with an id waits, and its time has not run out. -/
def Awaits (t : Moment) (id : Int) (rows : List Request) : Prop :=
  ∃ r ∈ rows, r.id = id ∧ r.status = .pending ∧ r.isStaleAt t = false

theorem awaits_iff_of_mem {t : Moment} {rows : List Request} (hk : WellKept rows) {r : Request}
    (hr : r ∈ rows) : Awaits t r.id rows ↔ r.status = .pending ∧ r.isStaleAt t = false := by
  constructor
  · rintro ⟨r', hr', hid, hwaits⟩
    obtain rfl := hk.eq_of_id hr' hr hid
    exact hwaits
  · exact fun hwaits => ⟨r, hr, rfl, hwaits⟩

/-- What a decision leaves in the table: the new status, who decided, and the note. -/
structure Ruling where
  status : Status
  decidedBy : Value
  notes : Value

namespace Ruling

variable {d : Ruling} {t : Moment} {id : Int} {ids : List Int} {rows : List Request} {r : Request}

/-- A row that a decision at `t` was about. -/
def settle (d : Ruling) (t : Moment) (r : Request) : Request :=
  if r.status = .pending then
    if r.isStaleAt t then { r with status := .expired, updatedAt := some t }
    else { r with
      status := d.status, decidedBy := d.decidedBy, notes := d.notes, updatedAt := some t }
  else r

/-- The rows, where those with some ids were decided. -/
def settleAll (d : Ruling) (t : Moment) (ids : List Int) (rows : List Request) : List Request :=
  rows.map fun r => if r.id ∈ ids then d.settle t r else r

theorem settle_evolves (hd : d.status ∈ Status.settled) (t : Moment) (r : Request) :
    r.Evolves (d.settle t r) := by
  unfold settle
  split
  next hpending =>
    split
    · exact .settles ⟨rfl, rfl, rfl, rfl, rfl, rfl, rfl, rfl, rfl, rfl, rfl, rfl⟩ hpending
        (by simp [Status.settled])
    · exact .settles ⟨rfl, rfl, rfl, rfl, rfl, rfl, rfl, rfl, rfl, rfl, rfl, rfl⟩ hpending hd
  next => exact .stays

theorem settleAll_evolve (hd : d.status ∈ Status.settled) (t : Moment) (ids : List Int)
    (rows : List Request) : Evolve rows (d.settleAll t ids rows) := by
  refine Evolve.map (fun r => ?_) rows
  split
  · exact settle_evolves hd t r
  · exact .stays

theorem settle_id (d : Ruling) (t : Moment) (r : Request) : (d.settle t r).id = r.id := by
  unfold settle
  split
  · split <;> rfl
  · rfl

theorem settle_of_settled (h : r.status ≠ .pending) : d.settle t r = r := by
  simp [settle, h]

theorem settle_not_pending (hd : d.status ∈ Status.settled) (t : Moment) (r : Request) :
    (d.settle t r).status ≠ .pending := by
  have hne : d.status ≠ .pending := fun h => Request.pending_not_settled (h ▸ hd)
  unfold settle
  split
  · split
    · simp
    · exact hne
  · assumption

/-- What was decided stays as it is in the rest of the batch. -/
theorem settleAll_append (hd : d.status ∈ Status.settled) (t : Moment) (ids ids' : List Int)
    (rows : List Request) :
    d.settleAll t ids' (d.settleAll t ids rows) = d.settleAll t (ids ++ ids') rows := by
  unfold settleAll
  rw [List.map_map]
  refine List.map_congr_left fun r _ => ?_
  by_cases hid : r.id ∈ ids
  · simp [hid, settle_id, settle_of_settled (settle_not_pending hd t r)]
  · simp [hid]

theorem settleAll_nil : d.settleAll t [] rows = rows := by
  simp [settleAll]

/-- Only the set of the ids counts. -/
theorem settleAll_congr {ids' : List Int} (h : ∀ id, id ∈ ids' ↔ id ∈ ids) :
    d.settleAll t ids' rows = d.settleAll t ids rows := by
  simp [settleAll, h]

theorem settleAll_of_absent (h : Absent id rows) : d.settleAll t [id] rows = rows := by
  refine (List.map_congr_left fun r hr => ?_).trans (List.map_id _)
  simp [h r hr]

/-- A decision on a row that does not wait leaves the table alone. -/
theorem settleAll_of_settled (hk : WellKept rows) (hr : r ∈ rows) (h : r.status ≠ .pending) :
    d.settleAll t [r.id] rows = rows := by
  refine (List.map_congr_left fun r' hr' => ?_).trans (List.map_id _)
  split
  next hid =>
    obtain rfl := hk.eq_of_id hr' hr (List.mem_singleton.1 hid)
    exact settle_of_settled h
  next => rfl

theorem absent_settleAll : Absent id (d.settleAll t ids rows) ↔ Absent id rows := by
  unfold Absent settleAll
  simp only [List.mem_map, forall_exists_index, and_imp, forall_apply_eq_imp_iff₂]
  refine forall₂_congr fun r _ => ?_
  split <;> simp [settle_id]

theorem awaits_settleAll (hd : d.status ∈ Status.settled) {id' : Int} :
    Awaits t id' (d.settleAll t [id] rows) ↔ Awaits t id' rows ∧ id' ≠ id := by
  unfold Awaits settleAll
  simp only [List.mem_map, List.mem_singleton]
  constructor
  · rintro ⟨_, ⟨r, hr, rfl⟩, hid, hpending, hstale⟩
    by_cases h : r.id = id
    · rw [if_pos h] at hpending
      exact absurd hpending (settle_not_pending hd t r)
    · rw [if_neg h] at hid hpending hstale
      exact ⟨⟨r, hr, hid, hpending, hstale⟩, hid ▸ h⟩
  · rintro ⟨⟨r, hr, rfl, hpending, hstale⟩, h⟩
    exact ⟨r, ⟨r, hr, if_neg h⟩, rfl, hpending, hstale⟩

end Ruling

/-! ## One decision -/

theorem Evolve.wellKept {rows rows' : List Request} (h : Evolve rows rows') (hk : WellKept rows) :
    WellKept rows' :=
  (h.carriedOver fun _ => False).wellKept hk

theorem Evolve.orderly {s s' : Store} (h : Evolve s.requests s'.requests) (hu : s'.users = s.users)
    (ho : s.Orderly) : s'.Orderly where
  user r' hr' := by
    obtain ⟨r, hr, he⟩ := h.exists_before hr'
    rw [he.matter.userId]
    exact (ho.user r hr).of_users hu
  undecided r' hr' hpending := by
    obtain ⟨r, hr, he⟩ := h.exists_before hr'
    obtain rfl := he.eq_of_pending hpending
    exact ho.undecided r hr hpending

theorem Store.getRequest_of_absent {id : Int} {s : Store} (hid : Column.checked id = .ok id)
    (h : Absent id s.requests) : s.getRequest id = .ok none := by
  have hnone : s.requests.find? (·.id = id) = none := by
    simpa [List.find?_eq_none, Absent] using h
  unfold getRequest
  rw [hid]
  exact congrArg (fun found => Except.ok (found.map (named s))) hnone

namespace Desk

/-- What holds of a session between the decisions of a batch. -/
structure Ready (s : Session) : Prop where
  outages : s.outages = []
  network : s.network.Delivers
  wellKept : WellKept s.store.requests
  orderly : s.store.Orderly

/-- What a decision on the requests with some ids leaves behind. -/
structure Ruled (d : Ruling) (ids : List Int) (s s' : Session) : Prop where
  requests : s'.store.requests = d.settleAll s.now ids s.store.requests
  users : s'.store.users = s.store.users
  now : s'.now = s.now
  outages : s'.outages = s.outages
  network : s.network.Leaves s'.network

variable {d : Ruling} {s s' s'' : Session} {id : Int} {ids ids' : List Int}
  {decidedBy notes : Value}

theorem Ready.ruled (h : Ready s) (hd : d.status ∈ Status.settled) (hs : Ruled d ids s s') :
    Ready s' := by
  have hev := Ruling.settleAll_evolve hd s.now ids s.store.requests
  rw [← hs.requests] at hev
  exact ⟨hs.outages.trans h.outages, hs.network.delivers h.network, hev.wellKept h.wellKept,
    hev.orderly hs.users h.orderly⟩

/-- A request that is read has a stored user, and its type of content and its cause are texts. -/
theorem Ready.of_found (h : Ready s) {r : Request} (hfound : s.store.getRequest id = .ok (some r)) :
    s.store.Knows r.userId ∧ (∃ t, r.contentType = .text t) ∧ ∃ t, r.triggeredBy = .text t := by
  obtain ⟨row, hrow, -, rfl⟩ := getRequest_ok hfound
  exact ⟨h.orderly.user row hrow, h.wellKept.contentType row hrow, h.wellKept.triggeredBy row hrow⟩

theorem Ruled.trans (hd : d.status ∈ Status.settled) (h : Ruled d ids s s')
    (h' : Ruled d ids' s' s'') : Ruled d (ids ++ ids') s s'' where
  requests := by
    rw [h'.requests, h.requests, h.now]
    exact Ruling.settleAll_append hd s.now ids ids' s.store.requests
  users := h'.users.trans h.users
  now := h'.now.trans h.now
  outages := h'.outages.trans h.outages
  network := h.network.trans h'.network

/-- Where the table already is as the decisions would leave it. -/
theorem Ruled.of_same (h : d.settleAll s.now ids s.store.requests = s.store.requests)
    (hs : s.SameTables s') : Ruled d ids s s' where
  requests := by rw [hs.store, h]
  users := by rw [hs.store]
  now := hs.now
  outages := hs.outages
  network := hs.network

/-- A session after the rows of one id were decided. -/
def ruled (d : Ruling) (id : Int) (s : Session) : Session :=
  { s with store := { s.store with requests := d.settleAll s.now [id] s.store.requests } }

theorem ruled_ruled (d : Ruling) (id : Int) (s : Session) : Ruled d [id] s (ruled d id s) :=
  ⟨rfl, rfl, rfl, rfl, .refl _⟩

section decideBy

variable (hs : Ready s) (hid : Column.checked id = .ok id)

include hs hid

theorem decideBy_absent (ha : Absent id s.store.requests) (t : Moment → Transition)
    (rest : Act Decision) : decideBy id t rest s = (.error (.requestNotFound id), s) := by
  have hget : get id s = (.error (.requestNotFound id), s) :=
    bind_of_ok (read_of_ok hs.outages (getRequest_of_absent hid ha))
  exact bind_of_error hget

variable {r : Request} (hr : r ∈ s.store.requests) (hrid : r.id = id)
  (hby : Column.integer decidedBy = .ok d.decidedBy) (hnotes : Column.text notes = .ok d.notes)

include hr hrid

/-- The row with the id is what reading gives, but for the name of the user. -/
theorem getRequest_row : s.store.getRequest id = .ok (some (named s.store r)) := by
  obtain ⟨found, hfound⟩ := exists_getRequest hid hr hrid
  obtain ⟨row, hrow, hrowid, rfl⟩ := getRequest_ok hfound
  obtain rfl := hs.wellKept.eq_of_id hrow hr (hrowid.trans hrid.symm)
  exact hfound

/-- A decision on a request that does not wait tells how it stands. -/
theorem decideBy_settled (hsettled : r.status ≠ .pending) (t : Moment → Transition)
    (rest : Act Decision) :
    decideBy id t rest s = (.ok { request := named s.store r, changed := false }, s) := by
  have hne : (named s.store r).status ≠ .pending := hsettled
  unfold decideBy
  rw [bind_of_ok (get_of_ok hs.outages (getRequest_row hs hid hr hrid)), if_pos hne]
  rfl

omit hid in
/-- What a transition that is about this id does to the table. -/
theorem map_settle {t : Transition} {by' notes' : Value}
    (h : t.settle id by' notes' s.now r = d.settle s.now r) :
    s.store.requests.map (t.settle id by' notes' s.now)
      = d.settleAll s.now [id] s.store.requests := by
  unfold Ruling.settleAll
  refine List.map_congr_left fun r' hr' => ?_
  by_cases hid' : r'.id = id
  · obtain rfl := hs.wellKept.eq_of_id hr' hr (hid'.trans hrid.symm)
    rw [if_pos (List.mem_singleton.2 hid'), h]
  · rw [if_neg (fun h => hid' (List.mem_singleton.1 h)), Transition.settle_of_not]
    simp [Transition.appliesTo, hid']

include hby hnotes

/-- In time, a decision moves the request and goes on. -/
theorem decideBy_timely (hpending : r.status = .pending) (hlive : r.isStaleAt s.now = false)
    (rest : Act Decision) :
    decideBy id (fun now => { status := d.status, decidedBy, notes, unexpiredAt := some now }) rest s
      = rest (ruled d id s) := by
  let t : Transition := { status := d.status, decidedBy, notes, unexpiredAt := some s.now }
  have happlies : t.appliesTo id r = true := by
    simp [Transition.appliesTo, t, hrid, hpending, hlive]
  have hany : s.store.requests.any (t.appliesTo id) = true :=
    List.any_eq_true.2 ⟨r, hr, happlies⟩
  have hrow : t.settle id d.decidedBy d.notes s.now r = d.settle s.now r := by
    simp [Transition.settle, Ruling.settle, happlies, hpending, hlive, t]
  have hmove : Act.transition id t s = (.ok true, ruled d id s) := by
    refine write_of_ok hs.outages ?_
    rw [transition_eq hid hby hnotes, hany, map_settle hs hr hrid hrow]
  have hnow : Act.now s = (.ok s.now, s) := rfl
  unfold decideBy
  rw [bind_of_ok (get_of_ok hs.outages (getRequest_row hs hid hr hrid)), named,
    if_neg (fun hne => hne hpending), bind_of_ok hnow, bind_of_ok hmove]
  rfl

/-- Too late, it marks the request as expired. -/
theorem decideBy_late (hpending : r.status = .pending) (hstale : r.isStaleAt s.now = true)
    (rest : Act Decision) :
    ∃ x, x.changed = false ∧ decideBy id
      (fun now => { status := d.status, decidedBy, notes, unexpiredAt := some now }) rest s
        = (.ok x, ruled d id s) := by
  let t : Transition := { status := d.status, decidedBy, notes, unexpiredAt := some s.now }
  let expire : Transition := { status := .expired }
  have hany : s.store.requests.any (t.appliesTo id) = false := by
    refine List.any_eq_false.2 fun r' hr' happlies => ?_
    obtain ⟨hid', -⟩ := Transition.pending_of_applies happlies
    obtain rfl := hs.wellKept.eq_of_id hr' hr (hid'.trans hrid.symm)
    simp [Transition.appliesTo, hstale, t] at happlies
  have hidle : Act.transition id t s = (.ok false, s) := by
    have hmoved := transition_eq (s := s.store) (t := t) hid hby hnotes s.now
    rw [hany] at hmoved
    refine write_of_ok hs.outages ?_
    rw [hmoved, transition_none hmoved]
  have hrow : expire.settle id .null .null s.now r = d.settle s.now r := by
    have hblank := hs.orderly.undecided r hr hpending
    simp [Transition.settle, Transition.appliesTo, Ruling.settle, hpending, hstale, hrid, expire,
      hblank.1, hblank.2]
  have hmark : Act.transition id expire s
      = (.ok (s.store.requests.any (expire.appliesTo id)), ruled d id s) := by
    refine write_of_ok hs.outages ?_
    rw [transition_eq hid rfl rfl s.now, map_settle hs hr hrid hrow]
  have hfound := getRequest_row hs hid hr hrid
  obtain ⟨r', hagain⟩ : ∃ r', (ruled d id s).store.getRequest id = .ok (some r') := by
    refine exists_getRequest hid (List.mem_map_of_mem hr) ?_
    split
    · rw [Ruling.settle_id, hrid]
    · exact hrid
  have hlate : expireIfStale id s.now s = (.ok r', ruled d id s) := by
    have hcheck : ((named s.store r).status = .pending && (named s.store r).isStaleAt s.now) = true := by
      simp [named, hpending, Request.isStaleAt] at hstale ⊢
      exact hstale
    unfold expireIfStale
    rw [bind_of_ok (get_of_ok hs.outages hfound), if_pos hcheck, bind_of_ok hmark]
    exact get_of_ok (s := ruled d id s) hs.outages hagain
  have hnow : Act.now s = (.ok s.now, s) := rfl
  refine ⟨{ request := r', changed := false }, rfl, ?_⟩
  unfold decideBy
  rw [bind_of_ok (get_of_ok hs.outages hfound), named, if_neg (fun hne => hne hpending),
    bind_of_ok hnow, bind_of_ok hidle]
  exact bind_of_ok hlate

end decideBy

/-! ## Carrying out and telling -/

/-- If the attempt ends with an answer, carrying out a request of a stored user returns and leaves the
requests alone. -/
theorem execute_answered {p : Partners} (hp : p.Quiet) {r : Request} (ho : s.outages = [])
    (hknown : s.store.Knows r.userId) (htext : ∃ t, r.contentType = .text t)
    (ha : s.Answered (execute p r s).2) (d : Ruling) :
    ∃ executed s', execute p r s = (.ok executed, s') ∧ Ruled d [] s s' := by
  have hanswers : Answers p r s := by
    intro placement hproposed
    have hattempt := Partners.attempted hp (itemOf r) placement s
    have hresult := p.attempt_result (itemOf r) placement s
    rcases hx : p.attempt (itemOf r) placement s with ⟨e | accepted, s₁⟩
    · have hfails : execute p r s = (.error e, s₁) := by
        unfold execute carryOut
        rw [hproposed]
        exact bind_of_error hx
      rw [hx] at hattempt
      rw [hfails] at ha
      have hattempts : s₁.attempts = s.attempts ++ [⟨itemOf r, placement, none⟩] := hattempt.attempts
      cases ha ⟨itemOf r, placement, none⟩ (by simp [hattempts])
    · rw [hx] at hresult
      exact ⟨accepted, hresult.symm⟩
  obtain ⟨executed, s', hexecute, -⟩ := execute_answers hp ho hknown htext hanswers
  refine ⟨executed, s', hexecute, ?_⟩
  have hsame : d.settleAll s.now [] s.store.requests = s.store.requests := Ruling.settleAll_nil
  rcases execute_cases hp r s with ⟨-, s₁, h, hs⟩ | ⟨placement, accepted, -, h⟩
  · obtain ⟨-, rfl⟩ := Prod.mk.inj (hexecute.symm.trans h)
    exact .of_same hsame hs.toSameTables
  · rcases h with ⟨result, s₁, h, -, hs, -⟩ | ⟨store, s₁, h, hput, hs, -⟩
    · obtain ⟨-, rfl⟩ := Prod.mk.inj (hexecute.symm.trans h)
      exact .of_same hsame hs
    · obtain ⟨-, rfl⟩ := Prod.mk.inj (hexecute.symm.trans h)
      obtain ⟨_, -, rfl⟩ := putUsage_ok hput
      exact {
        requests := by rw [hs.store, hsame]
        users := by rw [hs.store]
        now := hs.now
        outages := hs.outages
        network := hs.network }

/-- Telling about a decision on a request with a cause returns the decision. -/
theorem announce_answered (service : Service) (acquire : Item → Placement → Act Bool) (text : String)
    {x : Decision} (htrigger : ∃ t, x.request.triggeredBy = .text t) (hn : s.network.Delivers) :
    ∃ s', announce { service.partners with acquire } text x s = (.ok x, s') ∧ s.SameRecords s' := by
  obtain ⟨t, htrigger⟩ := htrigger
  have hresult := announce_ok service text htrigger hn
  have hsame := quiet_announce service.quiet_partners text x s
  refine ⟨(announce service.partners text x s).2, ?_, hsame⟩
  exact Prod.ext hresult rfl

/-- What a decision on one id makes of a session, as a batch sees it. -/
structure Turn (d : Ruling) (id : Int) (s : Session) (outcome : Option Decision) (s' : Session) :
    Prop where
  ruled : Ruled d [id] s s'
  absent : outcome = none ↔ Absent id s.store.requests
  changed : ∀ x, outcome = some x → (x.changed = true ↔ Awaits s.now id s.store.requests)

/-- A decision whose attempt, if it makes one, ends with an answer takes its turn in a batch. -/
def TakesTurns (d : Ruling) (decide : Int → Act Decision) : Prop :=
  ∀ s id, Ready s → Column.checked id = .ok id → s.Answered (decide id s).2 →
    ∃ outcome s', tryDecide decide id s = (.ok outcome, s') ∧ Turn d id s outcome s'

/-- A decision takes its turn if what follows its move does no harm. -/
theorem takesTurns_of_rest {d : Ruling} (hd : d.status ∈ Status.settled)
    (hby : Column.integer decidedBy = .ok d.decidedBy) (hnotes : Column.text notes = .ok d.notes)
    {decide : Int → Act Decision} {rest : Int → Act Decision}
    (hdecide : ∀ id, decide id = decideBy id
      (fun now => { status := d.status, decidedBy, notes, unexpiredAt := some now }) (rest id))
    (hrest : ∀ s id r, Ready s → s.store.getRequest id = .ok (some r) → s.Answered (rest id s).2 →
      ∃ x s', rest id s = (.ok x, s') ∧ x.changed = true ∧ Ruled d [] s s') :
    TakesTurns d decide := by
  intro s id hs hid ha
  rw [hdecide] at ha
  unfold tryDecide
  rw [tryCatch_apply, map_apply, hdecide]
  by_cases habsent : Absent id s.store.requests
  · rw [decideBy_absent hs hid habsent]
    refine ⟨none, s, rfl, ?_, by simp [habsent], fun _ h => nomatch h⟩
    exact .of_same (Ruling.settleAll_of_absent habsent) (.refl s)
  obtain ⟨r, hr, hrid⟩ : ∃ r ∈ s.store.requests, r.id = id := by simpa [Absent] using habsent
  have hawaits : Awaits s.now id s.store.requests
      ↔ r.status = .pending ∧ r.isStaleAt s.now = false := hrid ▸ awaits_iff_of_mem hs.wellKept hr
  by_cases hpending : r.status = .pending
  · cases hstale : r.isStaleAt s.now with
    | true =>
      obtain ⟨x, hx, hlate⟩ := decideBy_late hs hid hr hrid hby hnotes hpending hstale (rest id)
      rw [hlate]
      refine ⟨some x, ruled d id s, rfl, ruled_ruled d id s, by simp [habsent], ?_⟩
      rintro _ ⟨⟩
      simp [hawaits, hx, hstale]
    | false =>
      rw [decideBy_timely hs hid hr hrid hby hnotes hpending hstale (rest id)] at ha ⊢
      have hready := hs.ruled hd (ruled_ruled d id s)
      have hmem : d.settle s.now r ∈ (ruled d id s).store.requests :=
        List.mem_map.2 ⟨r, hr, if_pos (List.mem_singleton.2 hrid)⟩
      have hrid' : (d.settle s.now r).id = id := (d.settle_id s.now r).trans hrid
      obtain ⟨x, s', hx, hchanged, hkeeps⟩ := hrest (ruled d id s) id _ hready
        (getRequest_row hready hid hmem hrid') ha
      rw [hx]
      refine ⟨some x, s', rfl, (ruled_ruled d id s).trans hd hkeeps, by simp [habsent], ?_⟩
      rintro _ ⟨⟩
      simp [hawaits, hchanged, hpending, hstale]
  · rw [decideBy_settled hs hid hr hrid hpending]
    refine ⟨some _, s, rfl, ?_, by simp [habsent], ?_⟩
    · exact .of_same (hrid ▸ Ruling.settleAll_of_settled hs.wellKept hr hpending) (.refl s)
    · rintro _ ⟨⟩
      simp [hawaits, hpending]

section Decisions

variable (service : Service) {acquire : Item → Placement → Act Bool}
  (hquiet : ∀ item placement, (acquire item placement).Quiet)

include hquiet

theorem quiet_partners_with : ({ service.partners with acquire } : Partners).Quiet :=
  ⟨hquiet, service.quiet_partners.tellRequired, service.quiet_partners.tellResolved⟩

theorem approve_takesTurns {by' notes' : Value} (hby : Column.integer decidedBy = .ok by')
    (hnotes : Column.text notes = .ok notes') :
    TakesTurns ⟨.approved, by', notes'⟩
      fun id => approve { service.partners with acquire } id decidedBy notes := by
  refine takesTurns_of_rest (by simp [Status.settled]) hby hnotes (fun id => approve_eq _ _ _ _) ?_
  intro s id r hs hfound ha
  obtain ⟨hknown, htext, htrigger⟩ := hs.of_found hfound
  have hp := quiet_partners_with service hquiet
  have hget := get_of_ok hs.outages hfound
  rw [bind_of_ok hget] at ha ⊢
  let p : Partners := { service.partners with acquire }
  let text := "Approval request " ++ Number.integerText id ++ " approved by " ++ decidedBy.display
  let tell (executed : Bool) : Act Decision :=
    announce p text { request := r, changed := true, executed }
  have hsame : (execute p r s).2.SameRecords ((execute p r >>= tell) s).2 :=
    sameRecords_bind (fun _ => quiet_announce hp _ _) s
  have ha' : s.Answered (execute p r s).2 := by
    have hmade : s.Answered ((execute p r >>= tell) s).2 := ha
    unfold Session.Answered at hmade ⊢
    rwa [hsame.attempts] at hmade
  obtain ⟨executed, s₁, hexecute, hkeeps⟩ :=
    execute_answered hp hs.outages hknown htext ha' ⟨.approved, by', notes'⟩
  obtain ⟨s₂, htold, hrecords⟩ := announce_answered service acquire text
    (x := { request := r, changed := true, executed }) htrigger (hkeeps.network.delivers hs.network)
  refine ⟨_, s₂, (bind_of_ok hexecute).trans htold, rfl, ?_⟩
  exact hkeeps.trans (by simp [Status.settled])
    (.of_same Ruling.settleAll_nil hrecords.toSameTables)

omit hquiet in
theorem reject_takesTurns {by' notes' : Value} (hby : Column.integer decidedBy = .ok by')
    (hnotes : Column.text notes = .ok notes') :
    TakesTurns ⟨.rejected, by', notes'⟩
      fun id => reject { service.partners with acquire } id decidedBy notes := by
  refine takesTurns_of_rest (by simp [Status.settled]) hby hnotes (fun id => reject_eq _ _ _ _) ?_
  intro s id r hs hfound _
  obtain ⟨-, -, htrigger⟩ := hs.of_found hfound
  rw [bind_of_ok (get_of_ok hs.outages hfound)]
  obtain ⟨s₂, htold, hrecords⟩ := announce_answered service acquire
    ("Approval request " ++ Number.integerText id ++ " rejected by " ++ decidedBy.display)
    (x := { request := r, changed := true }) htrigger hs.network
  exact ⟨_, s₂, htold, rfl, .of_same Ruling.settleAll_nil hrecords.toSameTables⟩

end Decisions

/-! ## The batch -/

theorem Effect.attempts_grow {p : Partners} {isApproval : Bool}
    {x : Except Failure Decision × Session} (h : Effect p id isApproval s x) :
    s.attempts <+: x.2.attempts := by
  cases h with
  | kept same => exact ⟨[], by simp [same.attempts]⟩
  | declined _ _ same => exact ⟨[], by simp [same.attempts]⟩
  | unplaced _ _ _ same => exact ⟨[], by simp [same.attempts]⟩
  | tried _ _ _ _ _ _ attempts => exact ⟨_, attempts.symm⟩
  | counted _ _ _ _ _ _ _ attempts => exact ⟨_, attempts.symm⟩

/-- A rejection makes no attempt. -/
theorem Effect.attempts_eq {p : Partners} {x : Except Failure Decision × Session}
    (h : Effect p id false s x) : x.2.attempts = s.attempts := by
  cases h with
  | kept same => exact same.attempts
  | declined _ _ same => exact same.attempts
  | _ approves => cases approves

theorem tryDecide_snd (decide : Int → Act Decision) (id : Int) (s : Session) :
    (tryDecide decide id s).2 = (decide id s).2 := by
  rcases tryDecide_cases decide id s with ⟨-, _, h⟩ | ⟨-, _, h⟩ <;> rw [h]

/-- A batch, where what became of one more id is told in front. -/
def Batch.file (id : Int) (outcome : Option Decision) (b : Batch) : Batch :=
  match outcome with
  | none => { b with missing := id :: b.missing }
  | some x =>
    if x.changed then { b with decided := id :: b.decided }
    else { b with unchanged := id :: b.unchanged }

theorem decideAll_of_ok {decide : Int → Act Decision} {outcome : Option Decision}
    (h : tryDecide decide id s = (.ok outcome, s')) (ids : List Int) :
    decideAll decide (id :: ids) s
      = (decideAll decide ids >>= fun rest => pure (rest.file id outcome)) s' :=
  bind_of_ok h

/-- After the first decision, a batch makes the attempts of the rest, if it goes on at all. -/
theorem decideAll_cons_attempts (decide : Int → Act Decision) (id : Int) (ids : List Int)
    (s : Session) :
    (decideAll decide (id :: ids) s).2.attempts = (decide id s).2.attempts ∨
      (decideAll decide (id :: ids) s).2.attempts
        = (decideAll decide ids (decide id s).2).2.attempts := by
  rw [← tryDecide_snd decide id s]
  rcases hx : tryDecide decide id s with ⟨e | outcome, s₁⟩
  · have hstops : decideAll decide (id :: ids) s = (.error e, s₁) := bind_of_error hx
    rw [hstops]
    exact .inl rfl
  · rw [decideAll_of_ok hx]
    exact .inr (sameRecords_bind (fun _ => quiet_pure _) s₁).attempts

theorem decideAll_prefix {decide : Int → Act Decision}
    (h : ∀ id s, s.attempts <+: (decide id s).2.attempts) (ids : List Int) (s : Session) :
    s.attempts <+: (decideAll decide ids s).2.attempts := by
  induction ids generalizing s with
  | nil => exact List.prefix_rfl
  | cons id ids ih =>
    rcases decideAll_cons_attempts decide id ids s with hs | hs
    · rw [hs]
      exact h id s
    · rw [hs]
      exact (h id s).trans (ih _)

/-- A batch tells for each occurrence of an id what became of it: whether there is no such request,
whether it was this occurrence that decided it, or whether the request did not change. -/
structure Batch.Tells (b : Batch) (t : Moment) (ids : List Int) (rows : List Request) : Prop where
  occurrences : (b.decided ++ b.unchanged ++ b.missing).Perm ids
  decidedInOrder : b.decided.Sublist ids
  unchangedInOrder : b.unchanged.Sublist ids
  missing : b.missing = ids.filter fun id => Absent id rows
  once : b.decided.Nodup
  mem_decided : ∀ id, id ∈ b.decided ↔ id ∈ ids ∧ Awaits t id rows

namespace Batch.Tells

variable {b : Batch} {t : Moment} {rows : List Request} (hd : d.status ∈ Status.settled)
  (h : b.Tells t ids (d.settleAll t [id] rows))

include h

theorem missing_cons (ha : Absent id rows) :
    Tells { b with missing := id :: b.missing } t (id :: ids) rows where
  occurrences := List.perm_middle.trans (h.occurrences.cons id)
  decidedInOrder := h.decidedInOrder.cons id
  unchangedInOrder := h.unchangedInOrder.cons id
  missing := by simp [h.missing, Ruling.absent_settleAll, ha]
  once := h.once
  mem_decided := by
    have hnot : ¬ Awaits t id rows := fun ⟨r, hr, hid, _⟩ => ha r hr hid
    intro id'
    rw [h.mem_decided, Ruling.settleAll_of_absent ha, List.mem_cons]
    by_cases hid : id' = id
    · simp [hid, hnot]
    · simp [hid]

include hd

theorem decided_cons (ha : Awaits t id rows) :
    Tells { b with decided := id :: b.decided } t (id :: ids) rows where
  occurrences := h.occurrences.cons id
  decidedInOrder := h.decidedInOrder.cons_cons id
  unchangedInOrder := h.unchangedInOrder.cons id
  missing := by
    have hpresent : ¬ Absent id rows := fun hn => by
      obtain ⟨r, hr, hid, -⟩ := ha
      exact hn r hr hid
    simp [h.missing, Ruling.absent_settleAll, hpresent]
  once := by simp [h.once, h.mem_decided, Ruling.awaits_settleAll hd]
  mem_decided := by
    intro id'
    rw [List.mem_cons, h.mem_decided, Ruling.awaits_settleAll hd, List.mem_cons]
    by_cases hid : id' = id
    · simp [hid, ha]
    · simp [hid]

theorem unchanged_cons (hpresent : ¬ Absent id rows) (hnot : ¬ Awaits t id rows) :
    Tells { b with unchanged := id :: b.unchanged } t (id :: ids) rows where
  occurrences := by
    refine List.Perm.trans ?_ (h.occurrences.cons id)
    simp only [List.append_assoc]
    exact List.perm_middle
  decidedInOrder := h.decidedInOrder.cons id
  unchangedInOrder := h.unchangedInOrder.cons_cons id
  missing := by simp [h.missing, Ruling.absent_settleAll, hpresent]
  once := h.once
  mem_decided := by
    intro id'
    rw [h.mem_decided, Ruling.awaits_settleAll hd, List.mem_cons]
    by_cases hid : id' = id
    · simp [hid, hnot]
    · simp [hid]

end Batch.Tells

/-- A batch returns, and what it leaves in the table depends on the set of ids alone. -/
theorem decideAll_tells {decide : Int → Act Decision} (hd : d.status ∈ Status.settled)
    (hturns : TakesTurns d decide) (hgrows : ∀ id s, s.attempts <+: (decide id s).2.attempts)
    (ids : List Int) {s : Session} (hs : Ready s)
    (hids : ∀ id ∈ ids, Column.checked id = .ok id)
    (ha : s.Answered (decideAll decide ids s).2) :
    ∃ b s', decideAll decide ids s = (.ok b, s') ∧ Ruled d ids s s' ∧
      b.Tells s.now ids s.store.requests := by
  induction ids generalizing s with
  | nil =>
    refine ⟨{}, s, rfl, .of_same Ruling.settleAll_nil (.refl s), ?_⟩
    exact ⟨.nil, .slnil, .slnil, rfl, .nil, by simp⟩
  | cons id ids ih =>
    have hprefix : (decide id s).2.attempts <+: (decideAll decide (id :: ids) s).2.attempts := by
      rcases decideAll_cons_attempts decide id ids s with h | h
      · exact h ▸ List.prefix_rfl
      · exact h ▸ decideAll_prefix hgrows ids _
    obtain ⟨ha₁, ha₂⟩ := ha.split (hgrows id s) hprefix
    obtain ⟨outcome, s₁, hturn, ht⟩ := hturns s id hs (hids id List.mem_cons_self) ha₁
    have hs₁ : (decide id s).2 = s₁ := by rw [← tryDecide_snd, hturn]
    rw [hs₁, decideAll_of_ok hturn] at ha₂
    have ha₃ : s₁.Answered (decideAll decide ids s₁).2 := by
      unfold Session.Answered at ha₂ ⊢
      rwa [(sameRecords_bind (fun _ => quiet_pure _) s₁).attempts] at ha₂
    obtain ⟨b, s₂, hrest, hruled, hb⟩ := ih (hs.ruled hd ht.ruled)
      (fun id' hid' => hids id' (List.mem_cons_of_mem _ hid')) ha₃
    refine ⟨b.file id outcome, s₂, ?_, ht.ruled.trans hd hruled, ?_⟩
    · rw [decideAll_of_ok hturn, bind_of_ok hrest]
      rfl
    rw [ht.ruled.now, ht.ruled.requests] at hb
    cases outcome with
    | none => exact hb.missing_cons (ht.absent.1 rfl)
    | some x =>
      have hchanged := ht.changed x rfl
      have hpresent : ¬ Absent id s.store.requests := fun h => nomatch ht.absent.2 h
      cases hx : x.changed with
      | true =>
        rw [Batch.file, if_pos hx]
        exact hb.decided_cons hd (hchanged.1 hx)
      | false =>
        rw [hx] at hchanged
        rw [Batch.file, hx, if_neg Bool.false_ne_true]
        exact hb.unchanged_cons hd hpresent fun h => nomatch hchanged.2 h

theorem decideAll_attempts_eq {decide : Int → Act Decision}
    (h : ∀ id s, (decide id s).2.attempts = s.attempts) (ids : List Int) (s : Session) :
    (decideAll decide ids s).2.attempts = s.attempts := by
  induction ids generalizing s with
  | nil => rfl
  | cons id ids ih =>
    rcases decideAll_cons_attempts decide id ids s with hs | hs
    · rw [hs, h]
    · rw [hs, ih, h]

/-- A batch over some ids returns and tells what became of each occurrence, and every batch over the same
set of ids whose attempts end with answers leaves the same requests. -/
def InAnyOrder (batch : List Int → Act Batch) (ids : List Int) (s : Session) : Prop :=
  ∃ b s', batch ids s = (.ok b, s') ∧ b.Tells s.now ids s.store.requests ∧
    ∀ ids', (∀ id, id ∈ ids' ↔ id ∈ ids) → s.Answered (batch ids' s).2 →
      ∃ b' s'', batch ids' s = (.ok b', s'') ∧ s''.store.requests = s'.store.requests

theorem settles_of_turns {decide : Int → Act Decision} (hd : d.status ∈ Status.settled)
    (hturns : TakesTurns d decide) (hgrows : ∀ id s, s.attempts <+: (decide id s).2.attempts)
    (hs : Ready s) (hids : ∀ id ∈ ids, Column.checked id = .ok id)
    (ha : s.Answered (decideAll decide ids s).2) : InAnyOrder (decideAll decide) ids s := by
  obtain ⟨b, s', hrun, hruled, hb⟩ := decideAll_tells hd hturns hgrows ids hs hids ha
  refine ⟨b, s', hrun, hb, fun ids' hsame ha' => ?_⟩
  obtain ⟨b', s'', hrun', hruled', -⟩ := decideAll_tells hd hturns hgrows ids' hs
    (fun id hid => hids id ((hsame id).1 hid)) ha'
  refine ⟨b', s'', hrun', ?_⟩
  rw [hruled.requests, hruled'.requests, Ruling.settleAll_congr hsame]

/-- Where nothing is out of order, whoever adds content without touching the records: a batch over ids
that fit their column returns, if its attempts end with answers. Each occurrence is in one of the three
lists, in the order of the input. What was decided are the requests that waited in time, each once; what
is missing are the ids without a request. The requests afterwards depend on the set of the ids alone. -/
theorem batches_settle (service : Service) {acquire : Item → Placement → Act Bool}
    (hquiet : ∀ item placement, (acquire item placement).Quiet) (hs : Reachable s)
    (ho : s.outages = []) (hn : s.network.Delivers) (hstorable : Storable decidedBy notes)
    (hids : ∀ id ∈ ids, Column.checked id = .ok id) :
    let p : Partners := { service.partners with acquire }
    (s.Answered (approveAll p ids decidedBy notes s).2 →
      InAnyOrder (approveAll p · decidedBy notes) ids s) ∧
    InAnyOrder (rejectAll p · decidedBy notes) ids s := by
  intro p
  obtain ⟨by', hby⟩ := hstorable.decidedBy
  obtain ⟨notes', hnotes⟩ := hstorable.notes
  have hp := quiet_partners_with service hquiet
  have hready : Ready s := ⟨ho, hn, hs.wellKept, hs.orderly⟩
  constructor
  · intro ha
    exact settles_of_turns (by simp [Status.settled])
      (approve_takesTurns service hquiet hby hnotes)
      (fun id s => (approve_effect hp id decidedBy notes s).attempts_grow) hready hids ha
  · have heq : ∀ id s, (reject p id decidedBy notes s).2.attempts = s.attempts :=
      fun id s => (reject_effect hp id decidedBy notes s).attempts_eq
    exact settles_of_turns (by simp [Status.settled])
      (reject_takesTurns service hby hnotes)
      (fun id s => heq id s ▸ List.prefix_rfl) hready hids
      (Session.answered_of_eq (decideAll_attempts_eq heq ids s))

/-- For instance, two requests that wait, one of them named twice, one whose time has run out, and an id
without a request. -/
theorem batches_settle_five_occurrences :
    let service : Service := { waitHours := some 1 }
    let s := waitingFilms service []
      [(⟨738959⟩, "Dune", []), (⟨738960⟩, "Heat", []), (⟨738960⟩, "Alien", [])]
    ∃ s' b'' s'',
      approveAll service.partners [3, 7, 2, 3, 1] .null .null s
        = (.ok { decided := [3, 2], unchanged := [3, 1], missing := [7] }, s') ∧
      approveAll service.partners [1, 2, 3, 7] .null .null s = (.ok b'', s'') ∧
      s''.store.requests = s'.store.requests := by
  intro service s
  have hs : Reachable s := reachable_waitingFilms ..
  have ho : s.outages = [] := List.isEmpty_iff.1 (by decide +kernel)
  have hempty : s.network = [] := List.isEmpty_iff.1 (by decide +kernel)
  have hn : s.network.Delivers := hempty ▸ Network.delivers_nil
  have hresult : (approveAll service.partners [3, 7, 2, 3, 1] .null .null s).1.toOption
      = some { decided := [3, 2], unchanged := [3, 1], missing := [7] } := by decide +kernel
  have hanswered : s.Answered (approveAll service.partners [3, 7, 2, 3, 1] .null .null s).2 := by
    unfold Session.Answered
    decide +kernel
  have hanswered' : s.Answered (approveAll service.partners [1, 2, 3, 7] .null .null s).2 := by
    unfold Session.Answered
    decide +kernel
  have hids : ∀ id ∈ [3, 7, 2, 3, 1], Column.checked id = .ok id := by
    simp only [List.forall_mem_cons]
    exact ⟨rfl, rfl, rfl, rfl, rfl, nofun⟩
  clear_value s
  obtain ⟨happrove, -⟩ := batches_settle service service.quiet_partners.acquire hs ho hn
    (show Storable .null .null from ⟨⟨_, rfl⟩, ⟨_, rfl⟩⟩) hids
  obtain ⟨b, s', hrun, -, hsame⟩ := happrove hanswered
  obtain ⟨b'', s'', hrun', hrequests⟩ := hsame [1, 2, 3, 7] (by simp; omega) hanswered'
  change approveAll service.partners [3, 7, 2, 3, 1] .null .null s = _ at hrun
  rw [hrun] at hresult
  obtain rfl := Option.some.inj hresult
  exact ⟨s', b'', s'', hrun, hrun', hrequests⟩

/-- No request can have an id beyond 64 bits, and yet a batch that names one fails: the request before it
is approved, and no list tells so. -/
theorem batch_fails_beyond_column :
    let service : Service := {}
    let s := waitingFilms service [] [(⟨738959⟩, "Dune", [])]
    let x := approveAll service.partners [1, 9223372036854775808] .null .null s
    Reachable s ∧ s.outages.length = 0 ∧ s.network.length = 0 ∧
      Absent 9223372036854775808 s.store.requests ∧ s.Answered x.2 ∧ x.1.toOption = none ∧
      x.2.store.requests.map Request.status = [.approved] := by
  intro service s x
  have hs : Reachable s := reachable_waitingFilms ..
  refine ⟨hs, ?_⟩
  unfold Absent Session.Answered
  decide +kernel

end Desk

end Watchgate
