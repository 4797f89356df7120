import Watchgate.Proofs.Approval.Waiting
import Watchgate.Proofs.Media.Steady
import Mathlib.Tactic.TFAE

/-!
# When a request has expired

Whether the time of a waiting request has run out is asked where requests are listed, where one is
moved, where a move failed and where the service sweeps, and at the very moment of expiry the
questions are put differently. They have one answer all the same, and a decision that comes too late
leaves the row that the sweep leaves. Approving is only known to return where adding the content ends
with an answer: a request may wait, be approved, and the approval fail nevertheless.
-/

namespace Watchgate

open Act Calendar Store

/-! ## Rows -/

namespace Store

variable {id : Int} {s : Store} {r : Request}

theorem checked_of_getRequest (h : s.getRequest id = .ok (some r)) :
    Column.checked id = .ok id := by
  obtain ⟨n, hn, -⟩ := ok_of_bind h
  obtain rfl := Column.checked_ok hn
  exact hn

/-- Reading a request after all rows were changed in a way that respects ids and names. -/
theorem getRequest_map {f : Request → Request} (hid : ∀ row, (f row).id = row.id)
    (hnamed : ∀ row, named s (f row) = f (named s row)) (h : s.getRequest id = .ok (some r)) :
    ({ s with requests := s.requests.map f } : Store).getRequest id = .ok (some (f r)) := by
  obtain ⟨n, hn, hrow⟩ := ok_of_bind h
  obtain rfl := Column.checked_ok hn
  obtain ⟨row, hfound, rfl⟩ := Option.map_eq_some_iff.1 (pure_ok hrow)
  have hsame : (fun r : Request => decide (r.id = n)) ∘ f = fun r => decide (r.id = n) := by
    funext row
    simp [hid]
  have hfound' : (s.requests.map f).find? (·.id = n) = some (f row) := by
    rw [List.find?_map, hsame, hfound]
    rfl
  unfold getRequest
  rw [hn]
  change Except.ok (((s.requests.map f).find? (·.id = n)).map (named s)) = _
  rw [hfound', ← hnamed]
  rfl

theorem transition_eq {t : Transition} {decidedBy notes : Value}
    (hid : Column.checked id = .ok id) (hby : Column.integer t.decidedBy = .ok decidedBy)
    (hnotes : Column.text t.notes = .ok notes) (now : Moment) :
    s.transition id t now = .ok (s.requests.any (t.appliesTo id),
      { s with requests := s.requests.map (t.settle id decidedBy notes now) }) := by
  unfold transition
  rw [hid, hby, hnotes]
  rfl

theorem Transition.named_settle (s : Store) (t : Transition) (id : Int) (decidedBy notes : Value)
    (now : Moment) (row : Request) :
    named s (t.settle id decidedBy notes now row)
      = t.settle id decidedBy notes now (named s row) := by
  have happlies : t.appliesTo id (named s row) = t.appliesTo id row := rfl
  unfold settle
  rw [happlies]
  split <;> rfl

/-- A row as a sweep leaves it. -/
def sweptRow (t : Moment) (row : Request) : Request :=
  if isOverdue t row then { row with status := .expired, updatedAt := some t } else row

theorem sweptRow_id (t : Moment) (row : Request) : (sweptRow t row).id = row.id := by
  unfold sweptRow
  split <;> rfl

theorem named_sweptRow (s : Store) (t : Moment) (row : Request) :
    named s (sweptRow t row) = sweptRow t (named s row) := by
  have hoverdue : isOverdue t (named s row) = isOverdue t row := rfl
  unfold sweptRow
  rw [hoverdue]
  split <;> rfl

/-- The rows of a table, where those with an id are taken from another table. -/
def withRowOf (id : Int) (rows others : List Request) : List Request :=
  List.zipWith (fun row other => if row.id = id then other else row) rows others

/-- A page that is large enough holds everything. -/
theorem page_all {α : Type} {limit : Int} (hfits : Column.checked limit = .ok limit)
    {rows : List α} (h : rows.length ≤ limit) : page limit 0 rows = .ok rows := by
  have hzero : Column.checked 0 = .ok 0 := rfl
  have hlimit : ¬ limit < 0 := by omega
  unfold page
  rw [hfits, hzero]
  change Except.ok (if limit < 0 then rows.drop 0 else (rows.drop 0).take limit.toNat) = _
  rw [if_neg hlimit, List.drop_zero, List.take_of_length_le (by omega)]

end Store

namespace Desk

/-- A request that waits, as it is read where operations lead and nothing is out of order. -/
structure Waits (s : Session) (id : Int) (r : Request) : Prop where
  reachable : Reachable s
  outages : s.outages = []
  found : s.store.getRequest id = .ok (some r)
  pending : r.status = .pending

/-- A decider and a note that fit into their columns. -/
structure Storable (decidedBy notes : Value) : Prop where
  decidedBy : ∃ v, Column.integer decidedBy = .ok v
  notes : ∃ v, Column.text notes = .ok v

/-- Adding what the request proposes, if anything, ends with an answer. -/
def Answers (p : Partners) (r : Request) (s : Session) : Prop :=
  ∀ placement, r.verdict.proposed = some placement →
    ∃ accepted, (p.acquire (itemOf r) placement s).1 = .ok accepted

/-- The decision is returned and says that it changed the request. -/
def Changes (x : Act Decision) (s : Session) : Prop := ∃ d, (x s).1 = .ok d ∧ d.changed = true

/-- The request is among the waiting requests, if up to `limit` of them are listed. -/
def Lists (limit : Int) (r : Request) (s : Session) : Prop :=
  ∃ listed, (listPending limit 0 s).1 = .ok listed ∧ r ∈ listed

/-- The sweep leaves the request with an id waiting. -/
def Spares (id : Int) (s : Session) : Prop :=
  ∃ n s' r, sweep s = (.ok n, s') ∧ s'.store.getRequest id = .ok (some r) ∧ r.status = .pending

/-- The decision is returned and says that the request is expired; the request stands as the sweep
would leave it, and nothing else happened. -/
def ExpiresAsSwept (x : Act Decision) (id : Int) (s : Session) : Prop :=
  ∃ d, d.changed = false ∧ d.request.status = .expired ∧
    x s = (.ok d, { s with store := { s.store with
      requests := withRowOf id s.store.requests (sweep s).2.store.requests } })

variable {s : Session} {id : Int} {r : Request} {decidedBy notes : Value}

namespace Waits

/-- The type of content of a waiting request is a text. -/
theorem contentType (h : Waits s id r) : ∃ t, r.contentType = .text t := by
  obtain ⟨row, hrow, -, rfl⟩ := getRequest_ok h.found
  exact h.reachable.wellKept.contentType row hrow

/-- So is its cause. -/
theorem triggeredBy (h : Waits s id r) : ∃ t, r.triggeredBy = .text t := by
  obtain ⟨row, hrow, -, rfl⟩ := getRequest_ok h.found
  exact h.reachable.wellKept.triggeredBy row hrow

/-- The user of a waiting request is stored. -/
theorem user (h : Waits s id r) : s.store.Knows r.userId := by
  obtain ⟨row, hrow, -, rfl⟩ := getRequest_ok h.found
  exact h.reachable.orderly.user row hrow

end Waits

/-! ## Listing and sweeping -/

/-- A waiting request is listed as long as its time has not run out. -/
theorem lists_iff (h : Waits s id r) {limit : Int} (hfits : Column.checked limit = .ok limit)
    (hlimit : s.store.requests.length ≤ limit) : Lists limit r s ↔ r.isStaleAt s.now = false := by
  let rows := s.store.requests.filter fun r => r.status = .pending && !r.isStaleAt s.now
  have hfewer : rows.length ≤ s.store.requests.length := List.length_filter_le _ _
  have hlength : (rows.mergeSort isOlder).length ≤ limit := by
    rw [List.length_mergeSort]
    omega
  have hread : s.store.pendingRequests s.now limit 0
      = .ok ((rows.mergeSort isOlder).map (named s.store)) := by
    change (page limit 0 (rows.mergeSort isOlder) >>= fun page => pure (page.map (named s.store))) = _
    rw [page_all hfits hlength]
    rfl
  have hlisted : listPending limit 0 s = (.ok ((rows.mergeSort isOlder).map (named s.store)), s) :=
    read_of_ok h.outages hread
  have hmem : r ∈ (rows.mergeSort isOlder).map (named s.store) ↔ r.isStaleAt s.now = false := by
    obtain ⟨row, hrow, -, rfl⟩ := getRequest_ok h.found
    rw [List.mem_map]
    constructor
    · rintro ⟨row', hrow', heq⟩
      rw [← heq]
      have hkept := (List.mem_filter.1 (List.mem_mergeSort.1 hrow')).2
      rw [Bool.and_eq_true, Bool.not_eq_true'] at hkept
      exact hkept.2
    · intro hlive
      have hpending : row.status = .pending := h.pending
      have hunexpired : row.isStaleAt s.now = false := hlive
      refine ⟨row, List.mem_mergeSort.2 (List.mem_filter.2 ⟨hrow, ?_⟩), rfl⟩
      simp [hpending, hunexpired]
  constructor
  · rintro ⟨listed, hl, hr⟩
    rw [hlisted] at hl
    obtain rfl := Except.ok.inj hl
    exact hmem.1 hr
  · intro hlive
    exact ⟨_, congrArg Prod.fst hlisted, hmem.2 hlive⟩

/-- Where nothing is out of order the sweep marks the overdue requests, and at most notes it. -/
theorem sweep_eq (ho : s.outages = []) :
    ∃ n journal, sweep s
      = (.ok n, { s with store := (s.store.expireRequests s.now s.now).2, journal }) := by
  have hwrite : Act.expireRequests s.now s = (.ok (s.store.expireRequests s.now s.now).1,
      { s with store := (s.store.expireRequests s.now s.now).2 }) := write_of_ok ho rfl
  have hsweep : sweep s = (Act.expireRequests s.now >>= fun expired => do
      if expired ≠ 0 then
        Act.info ("Expired " ++ toString expired ++ " pending approval request(s)")
      return expired) s := rfl
  rw [hsweep, bind_of_ok hwrite]
  split
  · exact ⟨_, _, rfl⟩
  · exact ⟨_, _, rfl⟩

/-- The sweep leaves a request waiting as long as its time has not run out. -/
theorem spares_iff (h : Waits s id r) : Spares id s ↔ r.isStaleAt s.now = false := by
  obtain ⟨n, journal, hsweep⟩ := sweep_eq h.outages
  have hfound : (s.store.expireRequests s.now s.now).2.getRequest id
      = .ok (some (sweptRow s.now r)) :=
    getRequest_map (sweptRow_id s.now) (named_sweptRow s.store s.now) h.found
  have hoverdue : isOverdue s.now r = r.isStaleAt s.now := by
    simp [isOverdue, h.pending]
  have hstatus : (sweptRow s.now r).status = .pending ↔ r.isStaleAt s.now = false := by
    unfold sweptRow
    rw [hoverdue]
    cases r.isStaleAt s.now with
    | true => simp
    | false => simpa using h.pending
  constructor
  · rintro ⟨n', s'', r', hsweep', hfound', hpending⟩
    obtain ⟨-, rfl⟩ := Prod.mk.inj (hsweep.symm.trans hsweep')
    obtain rfl := Option.some.inj (Except.ok.inj (hfound.symm.trans hfound'))
    exact hstatus.1 hpending
  · intro hlive
    exact ⟨n, _, sweptRow s.now r, hsweep, hfound, hstatus.2 hlive⟩

/-! ## Deciding -/

/-- The move of a decision finds a waiting request exactly as long as its time has not run out. -/
theorem any_appliesTo (h : Waits s id r) (status : Status) (decidedBy notes : Value) :
    s.store.requests.any
        (Transition.appliesTo { status, decidedBy, notes, unexpiredAt := some s.now } id)
      = !r.isStaleAt s.now := by
  obtain ⟨row, hrow, hid, rfl⟩ := getRequest_ok h.found
  have hpending : row.status = .pending := h.pending
  have hsame : (named s.store row).isStaleAt s.now = row.isStaleAt s.now := rfl
  rw [hsame]
  cases hstale : row.isStaleAt s.now with
  | false =>
    refine List.any_eq_true.2 ⟨row, hrow, ?_⟩
    simp [Transition.appliesTo, hid, hpending, hstale]
  | true =>
    refine List.any_eq_false.2 fun row' hrow' happlies => ?_
    obtain ⟨hid', -⟩ := Transition.pending_of_applies happlies
    obtain rfl := h.reachable.wellKept.eq_of_id hrow' hrow (hid'.trans hid.symm)
    simp [Transition.appliesTo, hstale] at happlies

/-- In time, the move of a decision succeeds, and what it changes is the row of the request. -/
theorem move_live (h : Waits s id r) (hs : Storable decidedBy notes)
    (hlive : r.isStaleAt s.now = false) (status : Status) :
    ∃ rows moved, Act.transition id { status, decidedBy, notes, unexpiredAt := some s.now } s
        = (.ok true, { s with store := { s.store with requests := rows } }) ∧
      ({ s.store with requests := rows } : Store).getRequest id = .ok (some moved) ∧
      r.SameMatter moved ∧ moved.status = status := by
  obtain ⟨by', hby⟩ := hs.decidedBy
  obtain ⟨notes', hnotes⟩ := hs.notes
  let t : Transition := { status, decidedBy, notes, unexpiredAt := some s.now }
  have hmove : Act.transition id t s = (.ok true, { s with store := { s.store with
      requests := s.store.requests.map (t.settle id by' notes' s.now) } }) := by
    refine write_of_ok h.outages ?_
    rw [transition_eq (checked_of_getRequest h.found) hby hnotes, any_appliesTo h, hlive]
    rfl
  have happlies : t.appliesTo id r = true := by
    obtain ⟨row, -, hid, rfl⟩ := getRequest_ok h.found
    have hpending : row.status = .pending := h.pending
    have hunexpired : row.isStaleAt s.now = false := hlive
    change t.appliesTo id row = true
    simp [Transition.appliesTo, t, hid, hpending, hunexpired]
  refine ⟨_, t.settle id by' notes' s.now r, hmove, getRequest_map (t.settle_id id by' notes' s.now)
    (t.named_settle s.store id by' notes' s.now) h.found, ?_, ?_⟩
  · rw [Transition.settle, if_pos happlies]
    exact ⟨rfl, rfl, rfl, rfl, rfl, rfl, rfl, rfl, rfl, rfl, rfl, rfl⟩
  · rw [Transition.settle, if_pos happlies]

/-- In time, a decision moves the request and goes on. -/
theorem decideBy_live (h : Waits s id r) (hs : Storable decidedBy notes)
    (hlive : r.isStaleAt s.now = false) (status : Status) :
    ∃ store moved, store.getRequest id = .ok (some moved) ∧ r.SameMatter moved ∧
      store.instances = s.store.instances ∧ store.users = s.store.users ∧
      ∀ rest, decideBy id (fun now => { status, decidedBy, notes, unexpiredAt := some now }) rest s
        = rest { s with store } := by
  obtain ⟨rows, moved, hmove, hfound, hmatter, -⟩ := move_live h hs hlive status
  refine ⟨_, moved, hfound, hmatter, rfl, rfl, fun rest => ?_⟩
  have hnow : Act.now s = (.ok s.now, s) := rfl
  unfold decideBy
  rw [bind_of_ok (get_of_ok h.outages h.found), if_neg (fun hne => hne h.pending),
    bind_of_ok hnow, bind_of_ok hmove]
  rfl

/-- Marking one waiting request as expired leaves the row that the sweep leaves. -/
theorem settle_expired (h : Waits s id r) (hstale : r.isStaleAt s.now = true) :
    s.store.requests.map (Transition.settle { status := .expired } id .null .null s.now)
      = withRowOf id s.store.requests (s.store.expireRequests s.now s.now).2.requests := by
  obtain ⟨row, hrow, hid, rfl⟩ := getRequest_ok h.found
  have hpending : row.status = .pending := h.pending
  have hoverdue : isOverdue s.now row = true := by
    have hstale : row.isStaleAt s.now = true := hstale
    simp [isOverdue, hpending, hstale]
  have hblank := h.reachable.orderly.undecided row hrow hpending
  unfold withRowOf Store.expireRequests
  rw [List.zipWith_map_right, List.zipWith_self]
  refine List.map_congr_left fun row' hrow' => ?_
  by_cases hid' : row'.id = id
  · obtain rfl := h.reachable.wellKept.eq_of_id hrow' hrow (hid'.trans hid.symm)
    have happlies : Transition.appliesTo { status := .expired } id row' = true := by
      simp [Transition.appliesTo, hid', hpending]
    rw [Transition.settle, if_pos happlies, if_pos hid', if_pos hoverdue]
    simp [hblank.1, hblank.2]
  · rw [if_neg hid', Transition.settle_of_not]
    simp [Transition.appliesTo, hid']

/-- Looked at after a move that failed, a request whose time has run out is marked as the sweep marks
it. -/
theorem expireIfStale_stale (h : Waits s id r) (hstale : r.isStaleAt s.now = true) :
    ∃ r', r'.status = .expired ∧ expireIfStale id s.now s = (.ok r', { s with store := { s.store with
      requests := withRowOf id s.store.requests (sweep s).2.store.requests } }) := by
  let expire : Transition := { status := .expired }
  let store : Store := { s.store with
    requests := s.store.requests.map (expire.settle id .null .null s.now) }
  have hswept : { s.store with
      requests := withRowOf id s.store.requests (sweep s).2.store.requests } = store := by
    obtain ⟨n, journal, hsweep⟩ := sweep_eq h.outages
    rw [hsweep, ← settle_expired h hstale]
  have happlies : expire.appliesTo id r = true := by
    obtain ⟨row, -, hid, rfl⟩ := getRequest_ok h.found
    have hpending : row.status = .pending := h.pending
    simp [Transition.appliesTo, expire, named, hid, hpending]
  have hmove : ∃ moved, Act.transition id expire s = (.ok moved, { s with store }) :=
    ⟨_, write_of_ok h.outages (transition_eq (checked_of_getRequest h.found) rfl rfl s.now)⟩
  have hfound : store.getRequest id = .ok (some (expire.settle id .null .null s.now r)) :=
    getRequest_map (expire.settle_id id .null .null s.now)
      (expire.named_settle s.store id .null .null s.now) h.found
  refine ⟨expire.settle id .null .null s.now r, ?_, ?_⟩
  · simp [Transition.settle, happlies, expire]
  · obtain ⟨moved, hmove⟩ := hmove
    unfold expireIfStale
    rw [bind_of_ok (get_of_ok h.outages h.found), if_pos (by simp [h.pending, hstale]),
      bind_of_ok hmove, hswept]
    exact get_of_ok (s := { s with store }) h.outages hfound

/-- Too late, a decision marks the request as expired and does nothing else. -/
theorem decideBy_stale (h : Waits s id r) (hs : Storable decidedBy notes)
    (hstale : r.isStaleAt s.now = true) (status : Status) (rest : Act Decision) :
    ExpiresAsSwept (decideBy id
      (fun now => { status, decidedBy, notes, unexpiredAt := some now }) rest) id s := by
  obtain ⟨by', hby⟩ := hs.decidedBy
  obtain ⟨notes', hnotes⟩ := hs.notes
  let t : Transition := { status, decidedBy, notes, unexpiredAt := some s.now }
  have hidle : s.store.transition id t s.now = .ok (false, s.store) := by
    have hmoved := transition_eq (s := s.store) (t := t) (checked_of_getRequest h.found) hby hnotes
      s.now
    rw [any_appliesTo h, hstale] at hmoved
    rw [hmoved, transition_none hmoved]
    rfl
  have hmove : Act.transition id t s = (.ok false, s) := write_of_ok h.outages hidle
  obtain ⟨r', hexpired, hlate⟩ := expireIfStale_stale h hstale
  refine ⟨{ request := r', changed := false }, rfl, hexpired, ?_⟩
  have hnow : Act.now s = (.ok s.now, s) := rfl
  unfold decideBy
  rw [bind_of_ok (get_of_ok h.outages h.found), if_neg (fun hne => hne h.pending),
    bind_of_ok hnow, bind_of_ok hmove]
  exact bind_of_ok hlate

theorem ExpiresAsSwept.not_changes {x : Act Decision} (h : ExpiresAsSwept x id s) :
    ¬ Changes x s := by
  rintro ⟨d', hd', hchanged⟩
  obtain ⟨d, hunchanged, -, hx⟩ := h
  rw [hx] at hd'
  obtain rfl := Except.ok.inj hd'
  rw [hunchanged] at hchanged
  cases hchanged

/-! ## Approving and rejecting in time -/

/-- If adding the content ends with an answer, carrying out a request of a stored user does so too. -/
theorem execute_answers {p : Partners} (hp : p.Quiet) (ho : s.outages = [])
    (hknown : s.store.Knows r.userId) (htext : ∃ t, r.contentType = .text t)
    (hanswer : Answers p r s) :
    ∃ executed s', execute p r s = (.ok executed, s') ∧
      s.network.Leaves s'.network := by
  unfold execute carryOut
  cases hproposed : r.verdict.proposed with
  | none => exact ⟨false, _, rfl, .refl _⟩
  | some placement =>
    obtain ⟨accepted, hanswer⟩ := hanswer placement hproposed
    have hattempt := Partners.attempted hp (itemOf r) placement s
    have hresult := (p.attempt_result (itemOf r) placement s).trans hanswer
    rcases hx : p.attempt (itemOf r) placement s with ⟨result, s₁⟩
    rw [hx] at hattempt hresult
    obtain rfl : result = .ok accepted := hresult
    simp only [bind_of_ok hx]
    cases accepted with
    | false => exact ⟨false, s₁, rfl, hattempt.network⟩
    | true =>
      obtain ⟨t, htext⟩ := htext
      have hknown₁ : s₁.store.Knows r.userId := hattempt.store ▸ hknown
      have hrecord := countUse_of_knows (hattempt.outages.trans ho) hknown₁ htext
      exact ⟨true, _, bind_of_ok hrecord, hattempt.network⟩

theorem announce_ok (service : Service) (text : String) {d : Decision} {trigger : String}
    (htrigger : d.request.triggeredBy = .text trigger) (hn : s.network.Delivers) :
    (announce service.partners text d s).1 = .ok d := by
  rcases announce_cases service.partners text d s with h | ⟨s₁, e, hs₁, -, he⟩
  · exact h
  · have hok := Partners.real_tellResolved_ok service.isDryRun service.notifier htrigger
      (hs₁.network.delivers hn)
    cases hok.symm.trans he

theorem approve_changes (service : Service) (h : Waits s id r) (hs : Storable decidedBy notes)
    (hn : s.network.Delivers) (hlive : r.isStaleAt s.now = false)
    (hanswer : Answers service.partners r s) :
    Changes (approve service.partners id decidedBy notes) s := by
  obtain ⟨trigger, htrigger⟩ := h.triggeredBy
  obtain ⟨store, moved, hfound, hmatter, hinstances, husers, hdecide⟩ :=
    decideBy_live h hs hlive .approved
  have hknown' : store.Knows moved.userId := by
    rw [hmatter.userId]
    exact h.user.of_users husers
  have htext' : ∃ t, moved.contentType = .text t := by
    rw [hmatter.contentType]
    exact h.contentType
  have hanswer' : Answers service.partners moved { s with store } := by
    intro placement hproposed
    rw [hmatter.verdict] at hproposed
    have hitem : itemOf moved = itemOf r := by
      unfold itemOf
      rw [hmatter.title, hmatter.guids]
    have hservers : s.SameServers { s with store } := ⟨hinstances, rfl, rfl, rfl⟩
    have hnotices := (Acquire.browses_acquire service.isDryRun (itemOf moved)
      placement).noticesServers _ _ hservers
    obtain ⟨accepted, hanswer⟩ := hanswer placement hproposed
    rw [← hitem] at hanswer
    exact ⟨accepted, hnotices.1.symm.trans hanswer⟩
  obtain ⟨executed, s', hexecute, hleaves⟩ :=
    execute_answers (s := { s with store }) service.quiet_partners h.outages hknown' htext' hanswer'
  have hget : get id { s with store } = (.ok moved, { s with store }) :=
    get_of_ok (s := { s with store }) h.outages hfound
  rw [approve_eq, Changes, hdecide, bind_of_ok hget, bind_of_ok hexecute]
  let d : Decision := { request := moved, changed := true, executed }
  have htold : d.request.triggeredBy = .text trigger := hmatter.triggeredBy.trans htrigger
  exact ⟨d, announce_ok service
    ("Approval request " ++ Number.integerText id ++ " approved by " ++ decidedBy.display)
    htold (hleaves.delivers hn), rfl⟩

theorem reject_changes (service : Service) (h : Waits s id r) (hs : Storable decidedBy notes)
    (hn : s.network.Delivers) (hlive : r.isStaleAt s.now = false) :
    Changes (reject service.partners id decidedBy notes) s := by
  obtain ⟨trigger, htrigger⟩ := h.triggeredBy
  obtain ⟨store, moved, hfound, hmatter, -, -, hdecide⟩ := decideBy_live h hs hlive .rejected
  have hget : get id { s with store } = (.ok moved, { s with store }) :=
    get_of_ok (s := { s with store }) h.outages hfound
  rw [reject_eq, Changes, hdecide, bind_of_ok hget]
  let d : Decision := { request := moved, changed := true }
  have htold : d.request.triggeredBy = .text trigger := hmatter.triggeredBy.trans htrigger
  have hdelivers : ({ s with store } : Session).network.Delivers := hn
  exact ⟨d, announce_ok service
    ("Approval request " ++ Number.integerText id ++ " rejected by " ++ decidedBy.display)
    htold hdelivers, rfl⟩

/-! ## All together -/

/-- If adding the content ends with an answer, a waiting request is listed exactly if approving it
changes it, exactly if rejecting it does, and exactly if the sweep spares it; otherwise both decisions
mark it as expired, as the sweep does, whoever adds content and tells about it. -/
theorem expiry_agrees (service : Service) (h : Waits s id r) (hn : s.network.Delivers)
    (hs : Storable decidedBy notes) (hanswer : Answers service.partners r s)
    {limit : Int} (hfits : Column.checked limit = .ok limit)
    (hlimit : s.store.requests.length ≤ limit) :
    [Lists limit r s, Changes (approve service.partners id decidedBy notes) s,
      Changes (reject service.partners id decidedBy notes) s, Spares id s,
      r.isStaleAt s.now = false].TFAE ∧
    (r.isStaleAt s.now = true → ∀ p : Partners,
      ExpiresAsSwept (approve p id decidedBy notes) id s ∧
        ExpiresAsSwept (reject p id decidedBy notes) id s) := by
  have hlate : r.isStaleAt s.now = true → ∀ p : Partners,
      ExpiresAsSwept (approve p id decidedBy notes) id s ∧
        ExpiresAsSwept (reject p id decidedBy notes) id s := fun hstale p => by
    rw [approve_eq, reject_eq]
    exact ⟨decideBy_stale h hs hstale _ _, decideBy_stale h hs hstale _ _⟩
  have hlive : ∀ {x : Act Decision}, (r.isStaleAt s.now = true → ExpiresAsSwept x id s) →
      Changes x s → r.isStaleAt s.now = false := by
    intro x hx hchanges
    cases hstale : r.isStaleAt s.now with
    | false => rfl
    | true => exact absurd hchanges (hx hstale).not_changes
  refine ⟨?_, hlate⟩
  tfae_have 1 ↔ 5 := lists_iff h hfits hlimit
  tfae_have 4 ↔ 5 := spares_iff h
  tfae_have 5 → 2 := fun hunexpired => approve_changes service h hs hn hunexpired hanswer
  tfae_have 2 → 5 := hlive fun hstale => (hlate hstale service.partners).1
  tfae_have 5 → 3 := fun hunexpired => reject_changes service h hs hn hunexpired
  tfae_have 3 → 5 := hlive fun hstale => (hlate hstale service.partners).2
  tfae_finish

theorem Answers.of_all {p : Partners}
    (h : r.verdict.proposed.all (fun placement =>
      (p.acquire (itemOf r) placement s).1.toOption.isSome) = true) : Answers p r s := by
  intro placement hproposed
  obtain ⟨accepted, haccepted⟩ := Option.isSome_iff_exists.1
    ((Option.all_eq_true _ _).1 h placement hproposed)
  exact ⟨accepted, ok_of_toOption haccepted⟩

/-- A waiting request can be found by trying whether the store has one. -/
theorem exists_waits (id : Int) (hs : Reachable s) (ho : s.outages = []) (isSuch : Request → Bool)
    (h : ((s.store.getRequest id).toOption.join.any
      fun r => r.status = .pending && isSuch r) = true) :
    ∃ r, Waits s id r ∧ isSuch r = true := by
  obtain ⟨r, hr, hsuch⟩ := (Option.any_eq_true _ _).1 h
  rw [Bool.and_eq_true, decide_eq_true_eq] at hsuch
  exact ⟨r, ⟨hs, ho, ok_of_toOption (Option.join_eq_some_iff.1 hr), hsuch.1⟩, hsuch.2⟩

/-- For instance, of two requests that wait an hour the older one has run out. -/
theorem expiry_agrees_one_of_two :
    let service : Service := { waitHours := some 1 }
    let s := waitingFilms service [] [(⟨738959⟩, "Dune", []), (⟨738960⟩, "Heat", [])]
    ∃ old new, Waits s 1 old ∧ Waits s 2 new ∧
      ExpiresAsSwept (approve service.partners 1 .null .null) 1 s ∧ ¬ Spares 1 s ∧
      Lists 50 new s ∧ Changes (approve service.partners 2 .null .null) s := by
  intro service s
  have hreachable : Reachable s := reachable_waitingFilms ..
  have hempty : s.network = [] := List.isEmpty_iff.1 (by decide +kernel)
  have hnetwork : s.network.Delivers := hempty ▸ Network.delivers_nil
  have hstorable : Storable .null .null := ⟨⟨_, rfl⟩, ⟨_, rfl⟩⟩
  have hfits : Column.checked 50 = .ok 50 := rfl
  have hcount : s.store.requests.length = 2 := by decide +kernel
  have hlength : s.store.requests.length ≤ (50 : Int) := by omega
  obtain ⟨old, hold, hcheck⟩ := exists_waits 1 hreachable (by decide +kernel)
    (fun r => r.isStaleAt s.now && r.verdict.proposed.all fun placement =>
      (service.partners.acquire (itemOf r) placement s).1.toOption.isSome) (by decide +kernel)
  rw [Bool.and_eq_true] at hcheck
  obtain ⟨new, hnew, hcheck'⟩ := exists_waits 2 hreachable (by decide +kernel)
    (fun r => !r.isStaleAt s.now && r.verdict.proposed.all fun placement =>
      (service.partners.acquire (itemOf r) placement s).1.toOption.isSome) (by decide +kernel)
  rw [Bool.and_eq_true, Bool.not_eq_true'] at hcheck'
  obtain ⟨hviews, hlate⟩ := expiry_agrees service hold hnetwork hstorable (.of_all hcheck.2)
    hfits hlength
  obtain ⟨hviews', -⟩ := expiry_agrees service hnew hnetwork hstorable (.of_all hcheck'.2)
    hfits hlength
  have hspared : ¬ Spares 1 s := fun hspares => by
    have := (hviews.out 3 4).1 hspares
    rw [hcheck.1] at this
    cases this
  exact ⟨old, new, hold, hnew, (hlate hcheck.1 service.partners).1, hspared,
    (hviews'.out 4 0).1 hcheck'.1, (hviews'.out 4 1).1 hcheck'.1⟩

/-- A request can be listed, and approving it moves it and fails all the same: the identifier of the
film ends in a digit that no number is written with. -/
theorem listed_without_answer :
    let service : Service := { isDryRun := false }
    let s := waitingFilms service [{ id := 1, type := .text "radarr", baseUrl := "http://radarr" }]
      [(⟨738959⟩, "Dune", ["tmdb:²"])]
    ∃ r, Waits s 1 r ∧ s.network.Delivers ∧ Storable .null .null ∧ Lists 50 r s ∧
      ¬ Changes (approve service.partners 1 .null .null) s := by
  intro service s
  have hreachable : Reachable s := reachable_waitingFilms ..
  obtain ⟨r, hwaits, hlive⟩ := exists_waits 1 hreachable (by decide +kernel)
    (fun r => !r.isStaleAt s.now) (by decide +kernel)
  rw [Bool.not_eq_true'] at hlive
  have hfails : (approve service.partners 1 .null .null s).1.toOption.isSome = false := by decide +kernel
  refine ⟨r, hwaits, Network.delivers_nil, ⟨⟨_, rfl⟩, ⟨_, rfl⟩⟩, ?_, ?_⟩
  · have hfits : Column.checked 50 = .ok 50 := rfl
    exact (lists_iff hwaits hfits (by decide +kernel)).2 hlive
  · rintro ⟨d, hd, -⟩
    rw [hd] at hfails
    cases hfails

end Desk

end Watchgate
