import Watchgate.Proofs.Store.Columns
import Mathlib.Data.List.Forall2

/-!
# The table of approval requests

Each operation on the table of requests is described by what it does to the rows. A request evolves
if it stays as it is, or if it leaves `pending` and keeps what was asked for; nothing else happens to
a row. Ids are distinct as long as rows come in by `addRequest` only. Whether an id that was given up
is given again is left open here.
-/

namespace Watchgate

open Calendar Store

/-- The statuses of requests that were decided or ran out. -/
def Status.settled : List Status := [.approved, .rejected, .expired]

namespace Request

/-- Two states of one request: all but status, decider, note and time of the last change agree. -/
structure SameMatter (r r' : Request) : Prop where
  id : r'.id = r.id
  userId : r'.userId = r.userId
  contentType : r'.contentType = r.contentType
  title : r'.title = r.title
  key : r'.key = r.key
  guids : r'.guids = r.guids
  verdict : r'.verdict = r.verdict
  ruleId : r'.ruleId = r.ruleId
  triggeredBy : r'.triggeredBy = r.triggeredBy
  reason : r'.reason = r.reason
  expiresAt : r'.expiresAt = r.expiresAt
  createdAt : r'.createdAt = r.createdAt

/-- A request under another id. -/
def withId (r : Request) (id : Int) : Request := { r with id }

/-- What may become of a stored request. -/
inductive Evolves (r : Request) : Request → Prop where
  | stays : Evolves r r
  /-- The request leaves `pending`. -/
  | settles {r' : Request} (matter : r.SameMatter r') (pending : r.status = .pending)
      (settled : r'.status ∈ Status.settled) : Evolves r r'

theorem SameMatter.refl (r : Request) : r.SameMatter r :=
  ⟨rfl, rfl, rfl, rfl, rfl, rfl, rfl, rfl, rfl, rfl, rfl, rfl⟩

theorem Evolves.matter {r r' : Request} (h : r.Evolves r') : r.SameMatter r' := by
  cases h with
  | stays => exact .refl r
  | settles matter => exact matter

theorem pending_not_settled : Status.pending ∉ Status.settled := by decide

/-- A settled request stays as it is. -/
theorem Evolves.eq_of_not_pending {r r' : Request} (h : r.Evolves r') (hs : r.status ≠ .pending) :
    r' = r := by
  cases h with
  | stays => rfl
  | settles _ pending => exact absurd pending hs

/-- A request that waits did so before. -/
theorem Evolves.eq_of_pending {r r' : Request} (h : r.Evolves r') (hs : r'.status = .pending) :
    r = r' := by
  cases h with
  | stays => rfl
  | settles _ _ settled =>
    rw [hs] at settled
    exact absurd settled pending_not_settled

theorem Evolves.trans {r r' r'' : Request} (h : r.Evolves r') (h' : r'.Evolves r'') :
    r.Evolves r'' := by
  cases h with
  | stays => exact h'
  | settles matter pending settled =>
    have hs : r'.status ≠ .pending := fun he => pending_not_settled (he ▸ settled)
    rw [h'.eq_of_not_pending hs]
    exact .settles matter pending settled

end Request

/-- The rows of a table, each of which evolved; none came and none went. -/
def Evolve (rows rows' : List Request) : Prop := List.Forall₂ Request.Evolves rows rows'

namespace Evolve

theorem refl (rows : List Request) : Evolve rows rows :=
  List.forall₂_same.2 fun _ _ => .stays

theorem trans {rows rows' rows'' : List Request} (h : Evolve rows rows') (h' : Evolve rows' rows'') :
    Evolve rows rows'' := by
  induction h generalizing rows'' with
  | nil => exact h'
  | cons hr _ ih =>
    cases h' with
    | cons hr' h' => exact .cons (hr.trans hr') (ih h')

theorem map {f : Request → Request} (h : ∀ r : Request, r.Evolves (f r)) (rows : List Request) :
    Evolve rows (rows.map f) := by
  induction rows with
  | nil => exact .nil
  | cons r rows ih => exact .cons (h r) ih

/-- Evolving changes no id. -/
theorem map_id {rows rows' : List Request} (h : Evolve rows rows') :
    rows'.map Request.id = rows.map Request.id := by
  induction h with
  | nil => rfl
  | cons hr _ ih => rw [List.map_cons, List.map_cons, hr.matter.id, ih]

theorem exists_before {rows rows' : List Request} (h : Evolve rows rows') {r' : Request}
    (hr : r' ∈ rows') : ∃ r ∈ rows, r.Evolves r' := by
  induction h with
  | nil => cases hr
  | cons hab _ ih =>
    rcases List.mem_cons.1 hr with rfl | hr
    · exact ⟨_, List.mem_cons_self, hab⟩
    · obtain ⟨r, hr, he⟩ := ih hr
      exact ⟨r, List.mem_cons_of_mem _ hr, he⟩

theorem exists_after {rows rows' : List Request} (h : Evolve rows rows') {r : Request}
    (hr : r ∈ rows) : ∃ r' ∈ rows', r.Evolves r' := by
  induction h with
  | nil => cases hr
  | cons hab _ ih =>
    rcases List.mem_cons.1 hr with rfl | hr
    · exact ⟨_, List.mem_cons_self, hab⟩
    · obtain ⟨r', hr', he⟩ := ih hr
      exact ⟨r', List.mem_cons_of_mem _ hr', he⟩

end Evolve

namespace Store

/-! ## New requests -/

theorem le_foldl_max (rows : List Request) (n : Int) :
    n ≤ rows.foldl (fun n r => max n r.id) n ∧
      ∀ r ∈ rows, r.id ≤ rows.foldl (fun n r => max n r.id) n := by
  induction rows generalizing n with
  | nil => simp
  | cons r rows ih =>
    obtain ⟨h1, h2⟩ := ih (max n r.id)
    rw [List.foldl_cons]
    refine ⟨by omega, fun x hx => ?_⟩
    rcases List.mem_cons.1 hx with rfl | hx
    · omega
    · exact h2 x hx

/-- A new id lies above all that are there. -/
theorem lt_nextId {rows : List Request} {r : Request} (h : r ∈ rows) : r.id < nextId rows :=
  Int.lt_add_one_of_le ((le_foldl_max rows 0).2 r h)

/-- The columns of a stored request: what must be a text is one, and the rest is as it was. -/
structure RowOf (r row : Request) : Prop where
  id : row.id = r.id
  userId : row.userId = r.userId
  contentType : Column.requiredText r.contentType = .ok row.contentType
  title : Column.requiredText r.title = .ok row.title
  key : Column.requiredText r.key = .ok row.key
  guids : row.guids = r.guids
  verdict : row.verdict = r.verdict
  triggeredBy : Column.requiredText r.triggeredBy = .ok row.triggeredBy
  status : row.status = r.status
  decidedBy : row.decidedBy = r.decidedBy
  notes : row.notes = r.notes

theorem requestRow_ok {r row : Request} (h : requestRow r = .ok row) : RowOf r row := by
  obtain ⟨contentType, hc, h⟩ := ok_of_bind h
  obtain ⟨title, ht, h⟩ := ok_of_bind h
  obtain ⟨key, hk, h⟩ := ok_of_bind h
  obtain ⟨ruleId, -, h⟩ := ok_of_bind h
  obtain ⟨triggeredBy, hb, h⟩ := ok_of_bind h
  obtain ⟨reason, -, h⟩ := ok_of_bind h
  obtain rfl := pure_ok h
  exact ⟨rfl, rfl, hc, ht, hk, rfl, rfl, hb, rfl, rfl, rfl⟩

/-- A new request takes the place of at most one expired request of its user for its key. -/
inductive Replaces (userId : Int) (key : Value) (rows : List Request) : List Request → Prop where
  | none : Replaces userId key rows rows
  | expired {old : Request} (mem : old ∈ rows) (sameUser : old.userId = userId)
      (sameKey : old.key = key) (status : old.status = .expired) :
      Replaces userId key rows (rows.filter (·.id ≠ old.id))

theorem withoutExpired_ok {userId : Int} {key : Value} {rows kept : List Request}
    (h : withoutExpired userId key rows = .ok kept) :
    ∃ stored, Column.text key = .ok stored ∧ Replaces userId stored rows kept := by
  obtain ⟨stored, hk, h⟩ := ok_of_bind h
  refine ⟨stored, hk, ?_⟩
  cases hf : rows.find? (isRequestFor userId stored) with
  | none =>
    rw [hf] at h
    obtain rfl := pure_ok h
    exact .none
  | some old =>
    simp only [hf] at h
    split at h
    · rename_i hs
      obtain rfl := pure_ok h
      have hp := List.find?_some hf
      simp only [isRequestFor, Bool.and_eq_true, decide_eq_true_eq] at hp
      exact .expired (List.mem_of_find?_eq_some hf) hp.1 (Column.eq_of_same hp.2) hs
    · cases h

theorem withoutExpired_of_absent {userId : Int} {key stored : Value} {rows : List Request}
    (hkey : Column.text key = .ok stored)
    (h : rows.find? (isRequestFor userId stored) = none) :
    withoutExpired userId key rows = .ok rows := by
  unfold withoutExpired
  rw [hkey, ok_bind, h]
  rfl

theorem withoutExpired_of_expired {userId : Int} {key stored : Value} {rows : List Request}
    {old : Request} (hkey : Column.text key = .ok stored)
    (h : rows.find? (isRequestFor userId stored) = some old) (hs : old.status = .expired) :
    withoutExpired userId key rows = .ok (rows.filter (·.id ≠ old.id)) := by
  unfold withoutExpired
  rw [hkey, ok_bind, h]
  exact if_pos hs

theorem withoutExpired_of_live {userId : Int} {key stored : Value} {rows : List Request}
    {old : Request} (hkey : Column.text key = .ok stored)
    (h : rows.find? (isRequestFor userId stored) = some old) (hs : old.status ≠ .expired) :
    withoutExpired userId key rows
      = .error (.storage (.duplicate old.id userId key.display old.status.name)) := by
  unfold withoutExpired
  rw [hkey, ok_bind, h]
  exact if_neg hs

theorem Replaces.sublist {userId : Int} {key : Value} {rows kept : List Request}
    (h : Replaces userId key rows kept) : kept.Sublist rows := by
  cases h with
  | none => exact List.Sublist.refl _
  | expired => exact List.filter_sublist

/-- Making a request adds one row, with a new id, and takes away at most the expired one that it
replaces. -/
theorem addRequest_ok {n : NewRequest} {now : Moment} {s s' : Store} {request : Request}
    (h : s.addRequest n now = .ok (request, s')) :
    ∃ kept row, Replaces n.userId row.key s.requests kept ∧ RowOf request row ∧
      s' = { s with requests := kept ++ [row] } ∧
      request = n.toRequest (nextId kept) request.userName now := by
  obtain ⟨user, hu, h⟩ := ok_of_bind h
  obtain ⟨_, -, h⟩ := ok_of_bind h
  obtain ⟨kept, hk, h⟩ := ok_of_bind h
  obtain ⟨row, hr, h⟩ := ok_of_bind h
  have he := pure_ok h
  obtain ⟨rfl, rfl⟩ := Prod.mk.inj he
  have hrow := requestRow_ok hr
  obtain ⟨stored, hs, hkept⟩ := withoutExpired_ok hk
  have hkey : stored = row.key := by
    have := (Column.requiredText_ok hrow.key).1
    exact Except.ok.inj (hs.symm.trans this)
  exact ⟨kept, row, hkey ▸ hkept, hrow, rfl, rfl⟩

/-- A rule that is stored has an id for which there is room, and so has no rule. -/
theorem integer_of_requireRule {ruleId : Value} {s : Store} (h : requireRule ruleId s = .ok ()) :
    ∃ id, Column.integer ruleId = .ok id := by
  by_cases hnull : ruleId = .null
  · exact ⟨.null, by rw [hnull]; rfl⟩
  · unfold requireRule at h
    split at h
    · exact absurd rfl hnull
    · split at h
      · cases h
      · obtain ⟨id, hid, -⟩ := ok_of_bind h
        exact ⟨id, hid⟩

/-- A request of a stored user for a key that is free is made, if its rule is stored and its texts are
texts. -/
theorem addRequest_of_room {n : NewRequest} (now : Moment) {s : Store} {user : User}
    {contentType title key trigger reason : String} (huser : s.getUser n.userId = .ok (some user))
    (hrule : requireRule n.ruleId s = .ok ()) (hcontent : n.contentType = .text contentType)
    (htitle : n.title = .text title) (hkey : n.key = .text key)
    (htrigger : n.triggeredBy = .text trigger) (hreason : n.reason = .text reason)
    (hroom : s.requests.find? (isRequestFor n.userId (.text key)) = none) :
    ∃ request row, s.addRequest n now = .ok (request, { s with requests := s.requests ++ [row] }) ∧
      request.triggeredBy = .text trigger ∧ row.key = .text key := by
  have hknown : requireUser n.userId s = .ok user := by
    unfold requireUser
    rw [huser]
    rfl
  have hkept : withoutExpired n.userId n.key s.requests = .ok s.requests := by
    rw [hkey]
    exact withoutExpired_of_absent (Column.text_text key) hroom
  obtain ⟨id, hid⟩ := integer_of_requireRule hrule
  have hrow : ∃ row, requestRow (n.toRequest (nextId s.requests) user.name now) = .ok row := by
    have htext : ∀ t : String, Column.requiredText (.text t) = .ok (.text t) := fun _ => rfl
    unfold requestRow NewRequest.toRequest
    dsimp only
    rw [hcontent, htitle, hkey, htrigger, hreason, hid]
    simp only [htext, Column.text_text, ok_bind]
    exact ⟨_, rfl⟩
  obtain ⟨row, hrow⟩ := hrow
  have hrowKey : Column.requiredText n.key = .ok row.key := (requestRow_ok hrow).key
  rw [hkey] at hrowKey
  unfold addRequest
  rw [hknown, hrule, hkept]
  simp only [ok_bind, hrow]
  exact ⟨_, row, rfl, htrigger, (Except.ok.inj hrowKey).symm⟩

/-- A request is stored in the same way under any id. -/
theorem requestRow_withId (r : Request) (id : Int) :
    requestRow (r.withId id) = (requestRow r).map (·.withId id) := by
  unfold requestRow Request.withId
  cases Column.requiredText r.contentType <;> try rfl
  cases Column.requiredText r.title <;> try rfl
  cases Column.requiredText r.key <;> try rfl
  cases Column.integer r.ruleId <;> try rfl
  cases Column.requiredText r.triggeredBy <;> try rfl
  cases Column.text r.reason <;> rfl

/-- Two stores that agree on user, rule and room refuse a request alike, or they make the same under
the ids that come next in each. -/
theorem addRequest_alike {n : NewRequest} {s s' : Store}
    {related : List Request → List Request → Prop} (now : Moment)
    (huser : requireUser n.userId s' = requireUser n.userId s)
    (hrule : requireRule n.ruleId s' = requireRule n.ruleId s)
    (hroom : (∃ e, withoutExpired n.userId n.key s.requests = .error e ∧
        withoutExpired n.userId n.key s'.requests = .error e) ∨
      ∃ kept kept', withoutExpired n.userId n.key s.requests = .ok kept ∧
        withoutExpired n.userId n.key s'.requests = .ok kept' ∧ related kept kept') :
    (∃ e, s.addRequest n now = .error e ∧ s'.addRequest n now = .error e) ∨
    ∃ kept kept', ∃ request row : Request, related kept kept' ∧
      s.addRequest n now = .ok (request.withId (nextId kept),
        { s with requests := kept ++ [row.withId (nextId kept)] }) ∧
      s'.addRequest n now = .ok (request.withId (nextId kept'),
        { s' with requests := kept' ++ [row.withId (nextId kept')] }) := by
  unfold addRequest
  rw [huser, hrule]
  cases requireUser n.userId s with
  | error e => exact .inl ⟨e, rfl, rfl⟩
  | ok user =>
    cases requireRule n.ruleId s with
    | error e => exact .inl ⟨e, rfl, rfl⟩
    | ok _ =>
      rcases hroom with ⟨e, he, he'⟩ | ⟨kept, kept', hk, hk', hrelated⟩
      · rw [he, he']
        exact .inl ⟨e, rfl, rfl⟩
      · rw [hk, hk']
        let request : Request := n.toRequest 0 user.name now
        have hstored : ∀ rows, requestRow (n.toRequest (nextId rows) user.name now)
            = (requestRow request).map (·.withId (nextId rows)) := fun rows =>
          requestRow_withId request (nextId rows)
        simp only [ok_bind, hstored]
        cases requestRow request with
        | error e => exact .inl ⟨e, rfl, rfl⟩
        | ok row => exact .inr ⟨kept, kept', request, row, hrelated, rfl, rfl⟩

/-! ## Reading -/

/-- Naming the user of a request changes nothing else of it. -/
theorem getRequest_ok {id : Int} {s : Store} {r : Request} (h : s.getRequest id = .ok (some r)) :
    ∃ row ∈ s.requests, row.id = id ∧ r = named s row := by
  obtain ⟨n, hn, hrow⟩ := ok_of_bind h
  obtain rfl := Column.checked_ok hn
  obtain ⟨row, hf, rfl⟩ := Option.map_eq_some_iff.1 (pure_ok hrow)
  exact ⟨row, List.mem_of_find?_eq_some hf, by simpa using List.find?_some hf, rfl⟩

/-- So it is with the request of a user for a content key. -/
theorem getRequestFor_ok {userId : Int} {key : Value} {s : Store} {r : Request}
    (h : s.getRequestFor userId key = .ok (some r)) :
    ∃ stored row, Column.text key = .ok stored ∧
      s.requests.find? (isRequestFor userId stored) = some row ∧ r = named s row := by
  obtain ⟨n, hn, hkeyed⟩ := ok_of_bind h
  obtain rfl := Column.checked_ok hn
  obtain ⟨stored, hkey, hrow⟩ := ok_of_bind hkeyed
  obtain ⟨row, hfound, rfl⟩ := Option.map_eq_some_iff.1 (pure_ok hrow)
  exact ⟨stored, row, hkey, hfound, rfl⟩

/-- A request whose id can be asked for can be read. -/
theorem exists_getRequest {id : Int} {s : Store} {row : Request} (hid : Column.checked id = .ok id)
    (hrow : row ∈ s.requests) (h : row.id = id) : ∃ r, s.getRequest id = .ok (some r) := by
  have hsome : (s.requests.find? (·.id = id)).isSome := by
    rw [List.find?_isSome]
    exact ⟨row, hrow, by simp [h]⟩
  obtain ⟨found, hf⟩ := Option.isSome_iff_exists.1 hsome
  refine ⟨named s found, ?_⟩
  unfold getRequest
  rw [hid]
  exact congrArg (fun found => Except.ok (found.map (named s))) hf

/-! ## Leaving `pending` -/

/-- A request after a transition that applies to it. -/
def Transition.settle (t : Transition) (id : Int) (decidedBy notes : Value) (now : Moment)
    (r : Request) : Request :=
  if t.appliesTo id r then { r with status := t.status, decidedBy, notes, updatedAt := some now }
  else r

theorem Transition.pending_of_applies {t : Transition} {id : Int} {r : Request}
    (h : t.appliesTo id r = true) : r.id = id ∧ r.status = .pending := by
  simp only [appliesTo, Bool.and_eq_true, decide_eq_true_eq] at h
  exact h.1

theorem transition_ok {id : Int} {t : Transition} {now : Moment} {s s' : Store} {moved : Bool}
    (h : s.transition id t now = .ok (moved, s')) :
    moved = s.requests.any (t.appliesTo id) ∧
      ∃ decidedBy notes,
        s' = { s with requests := s.requests.map (t.settle id decidedBy notes now) } := by
  obtain ⟨n, hn, h1⟩ := ok_of_bind h
  obtain ⟨decidedBy, -, h2⟩ := ok_of_bind h1
  obtain ⟨notes, -, h3⟩ := ok_of_bind h2
  obtain rfl := Column.checked_ok hn
  obtain ⟨rfl, rfl⟩ := Prod.mk.inj (pure_ok h3)
  exact ⟨rfl, decidedBy, notes, rfl⟩

theorem Transition.settle_id (t : Transition) (id : Int) (decidedBy notes : Value) (now : Moment)
    (r : Request) : (t.settle id decidedBy notes now r).id = r.id := by
  unfold settle
  split <;> rfl

/-- A request that was just moved can be read. -/
theorem getRequest_of_transition {id : Int} {t : Transition} {now : Moment} {s s' : Store}
    (h : s.transition id t now = .ok (true, s')) : ∃ r, s'.getRequest id = .ok (some r) := by
  obtain ⟨n, hn, -⟩ := ok_of_bind h
  obtain rfl := Column.checked_ok hn
  obtain ⟨hm, decidedBy, notes, rfl⟩ := transition_ok h
  obtain ⟨r, hr, ha⟩ := List.any_eq_true.1 hm.symm
  refine exists_getRequest hn (List.mem_map_of_mem hr) ?_
  rw [Transition.settle_id]
  exact (Transition.pending_of_applies ha).1

theorem Transition.settle_of_not {t : Transition} {id : Int} {decidedBy notes : Value}
    {now : Moment} {r : Request} (h : t.appliesTo id r = false) :
    t.settle id decidedBy notes now r = r := by
  simp [settle, h]

/-- A transition to a settled status lets each request evolve. -/
theorem Transition.evolves_settle {t : Transition} (ht : t.status ∈ Status.settled) (id : Int)
    (decidedBy notes : Value) (now : Moment) (r : Request) :
    r.Evolves (t.settle id decidedBy notes now r) := by
  unfold settle
  split
  · rename_i h
    exact .settles ⟨rfl, rfl, rfl, rfl, rfl, rfl, rfl, rfl, rfl, rfl, rfl, rfl⟩
      (pending_of_applies h).2 ht
  · exact .stays

/-- A transition that applies to no request changes nothing. -/
theorem transition_none {id : Int} {t : Transition} {now : Moment} {s s' : Store}
    (h : s.transition id t now = .ok (false, s')) : s' = s := by
  obtain ⟨hm, decidedBy, notes, rfl⟩ := transition_ok h
  have hid : s.requests.map (t.settle id decidedBy notes now) = s.requests := by
    refine (List.map_congr_left fun r hr => ?_).trans (List.map_id _)
    exact Transition.settle_of_not (by simpa using List.any_eq_false.1 hm.symm r hr)
  rw [hid]

/-! ## Sweeping and dropping -/

theorem expireRequests_evolve (t now : Moment) (s : Store) :
    Evolve s.requests (s.expireRequests t now).2.requests := by
  refine Evolve.map (fun r => ?_) s.requests
  split
  · rename_i h
    simp only [isOverdue, Bool.and_eq_true, decide_eq_true_eq] at h
    have hsettled : Status.expired ∈ Status.settled := by simp [Status.settled]
    exact .settles ⟨rfl, rfl, rfl, rfl, rfl, rfl, rfl, rfl, rfl, rfl, rfl, rfl⟩ h.1 hsettled
  · exact .stays

theorem dropRequest_ok {id : Int} {s s' : Store} {found : Bool}
    (h : s.dropRequest id = .ok (found, s')) :
    s' = { s with requests := s.requests.filter (·.id ≠ id) } := by
  obtain ⟨n, hn, hdrop⟩ := ok_of_bind h
  obtain rfl := Column.checked_ok hn
  exact (Prod.mk.inj (pure_ok hdrop)).2.symm

end Store

end Watchgate
