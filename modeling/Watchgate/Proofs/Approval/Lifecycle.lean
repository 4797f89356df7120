import Watchgate.Proofs.Service.Runs
import Watchgate.Proofs.Store.UsageTable
import Mathlib.Data.List.Nodup

/-!
# The life of approval requests

Whatever the service is asked to do, a stored request stays as it is or leaves `pending` once; it
disappears only by being deleted, by a cleanup after it expired, or by giving way, expired, to a new
request of its user for the same content. The statements are about single operations from every
session that operations lead to; that a waiting request is decided at all is not claimed.
-/

namespace Watchgate

open Act Calendar Store

/-! ## Tables of requests -/

/-- What holds of the requests wherever operations lead: ids are distinct, and what must be a text is
one. -/
structure WellKept (rows : List Request) : Prop where
  distinct : (rows.map Request.id).Nodup
  contentType : ∀ r ∈ rows, ∃ t, r.contentType = .text t
  triggeredBy : ∀ r ∈ rows, ∃ t, r.triggeredBy = .text t

theorem WellKept.nil : WellKept [] :=
  ⟨List.nodup_nil, fun r hr => (by cases hr), fun r hr => (by cases hr)⟩

theorem WellKept.eq_of_id {rows : List Request} (hk : WellKept rows) {r r' : Request}
    (hr : r ∈ rows) (hr' : r' ∈ rows) (h : r.id = r'.id) : r = r' :=
  List.inj_on_of_nodup_map hk.distinct hr hr' h

/-- Requests from one table to the next: those that are kept evolve, the others may go. -/
def CarriedOver (mayDrop : Request → Prop) (rows rows' : List Request) : Prop :=
  ∃ kept, kept.Sublist rows ∧ Evolve kept rows' ∧ ∀ r ∈ rows, r ∉ kept → mayDrop r

/-- A row that a submission of a user adds to others. -/
structure NewRow (userId : Int) (rows : List Request) (row : Request) : Prop where
  user : row.userId = userId
  status : row.status = .pending
  undecided : row.decidedBy = .null
  unannotated : row.notes = .null
  newId : ∀ r ∈ rows, r.id < row.id
  contentType : ∃ t, row.contentType = .text t
  triggeredBy : ∃ t, row.triggeredBy = .text t

/-- Requests from one table to the next, when a submission makes a request. -/
inductive Filed (userId : Int) (rows : List Request) : List Request → Prop where
  /-- The new request stands beside all that were there. -/
  | beside {row : Request} (new : NewRow userId rows row) : Filed userId rows (rows ++ [row])
  /-- The new request takes the place of an expired one of its user for the same content. -/
  | instead {front back : List Request} {old row : Request} (split : rows = front ++ old :: back)
      (expired : old.status = .expired) (sameUser : old.userId = row.userId)
      (sameKey : old.key = row.key) (new : NewRow userId (front ++ back) row) :
      Filed userId rows (front ++ back ++ [row])

theorem Evolve.carriedOver {rows rows' : List Request} (h : Evolve rows rows')
    (mayDrop : Request → Prop) : CarriedOver mayDrop rows rows' :=
  ⟨rows, List.Sublist.refl _, h, fun _ hr hn => absurd hr hn⟩

theorem CarriedOver.of_filter {mayDrop : Request → Prop} {keep : Request → Bool}
    {rows : List Request} (h : ∀ r ∈ rows, keep r = false → mayDrop r) :
    CarriedOver mayDrop rows (rows.filter keep) := by
  refine ⟨rows.filter keep, List.filter_sublist, Evolve.refl _, fun r hr hn => h r hr ?_⟩
  by_contra hk
  exact hn (List.mem_filter.2 ⟨hr, by simpa using hk⟩)

theorem CarriedOver.wellKept {mayDrop : Request → Prop} {rows rows' : List Request}
    (h : CarriedOver mayDrop rows rows') (hk : WellKept rows) : WellKept rows' := by
  obtain ⟨kept, hsub, hev, -⟩ := h
  refine ⟨?_, fun r' hr' => ?_, fun r' hr' => ?_⟩
  · rw [hev.map_id]
    exact hk.distinct.sublist (hsub.map _)
  · obtain ⟨r, hr, he⟩ := hev.exists_before hr'
    rw [he.matter.contentType]
    exact hk.contentType r (hsub.subset hr)
  · obtain ⟨r, hr, he⟩ := hev.exists_before hr'
    rw [he.matter.triggeredBy]
    exact hk.triggeredBy r (hsub.subset hr)

theorem NewRow.distinct {userId : Int} {rows : List Request} {row : Request}
    (h : NewRow userId rows row) (hd : (rows.map Request.id).Nodup) :
    ((rows ++ [row]).map Request.id).Nodup := by
  rw [List.map_append, List.nodup_append]
  refine ⟨hd, by simp, fun a ha b hb => ?_⟩
  obtain ⟨r, hr, rfl⟩ := List.mem_map.1 ha
  rw [List.map_singleton, List.mem_singleton] at hb
  have := h.newId r hr
  omega

theorem WellKept.snoc {userId : Int} {rows : List Request} {row : Request} (hk : WellKept rows)
    (hrow : NewRow userId rows row) : WellKept (rows ++ [row]) := by
  refine ⟨hrow.distinct hk.distinct, fun r hr => ?_, fun r hr => ?_⟩
  · rcases List.mem_append.1 hr with hr | hr
    · exact hk.contentType r hr
    · obtain rfl := List.mem_singleton.1 hr
      exact hrow.contentType
  · rcases List.mem_append.1 hr with hr | hr
    · exact hk.triggeredBy r hr
    · obtain rfl := List.mem_singleton.1 hr
      exact hrow.triggeredBy

theorem WellKept.sublist {rows rows' : List Request} (hk : WellKept rows)
    (h : rows'.Sublist rows) : WellKept rows' :=
  ⟨hk.distinct.sublist (h.map _), fun r hr => hk.contentType r (h.subset hr),
    fun r hr => hk.triggeredBy r (h.subset hr)⟩

theorem Filed.wellKept {userId : Int} {rows rows' : List Request} (h : Filed userId rows rows')
    (hk : WellKept rows) : WellKept rows' := by
  cases h with
  | beside new => exact hk.snoc new
  | instead split _ _ _ new =>
    refine WellKept.snoc (hk.sublist ?_) new
    rw [split]
    exact (List.Sublist.refl _).append (List.sublist_cons_self _ _)

/-- A request that does not wait and may not be dropped is carried over as it is. -/
theorem CarriedOver.mem_of_kept {mayDrop : Request → Prop} {rows rows' : List Request}
    (h : CarriedOver mayDrop rows rows') {r : Request} (hr : r ∈ rows) (hkept : ¬ mayDrop r)
    (hwaits : r.status ≠ .pending) : r ∈ rows' := by
  obtain ⟨kept, -, hev, hdrop⟩ := h
  by_cases hmem : r ∈ kept
  · obtain ⟨r', hr', he⟩ := hev.exists_after hmem
    rwa [← he.eq_of_not_pending hwaits]
  · exact absurd (hdrop r hr hmem) hkept

/-- A new request takes the place of an expired one only. -/
theorem Filed.mem_of_live {userId : Int} {rows rows' : List Request} (h : Filed userId rows rows')
    {r : Request} (hr : r ∈ rows) (hlive : r.status ≠ .expired) : r ∈ rows' := by
  cases h with
  | beside => exact List.mem_append_left _ hr
  | «instead» split expired =>
    rw [split] at hr
    refine List.mem_append_left _ ?_
    rcases List.mem_append.1 hr with hr | hr
    · exact List.mem_append_left _ hr
    rcases List.mem_cons.1 hr with rfl | hr
    · exact absurd expired hlive
    · exact List.mem_append_right _ hr

/-- Leaving out a request by its id leaves out that request alone. -/
theorem filter_ne_id {rows : List Request} {old : Request} (hd : (rows.map Request.id).Nodup)
    (hold : old ∈ rows) : ∃ front back, rows = front ++ old :: back ∧
      rows.filter (·.id ≠ old.id) = front ++ back := by
  obtain ⟨front, back, rfl⟩ := List.append_of_mem hold
  rw [List.map_append, List.map_cons, List.nodup_append, List.nodup_cons] at hd
  obtain ⟨-, ⟨hback, -⟩, hfront⟩ := hd
  refine ⟨front, back, rfl, ?_⟩
  have hf : front.filter (·.id ≠ old.id) = front := by
    refine List.filter_eq_self.2 fun r hr => ?_
    simpa using hfront r.id (List.mem_map_of_mem hr) old.id List.mem_cons_self
  have hb : back.filter (·.id ≠ old.id) = back := by
    refine List.filter_eq_self.2 fun r hr => ?_
    have hne : r.id ≠ old.id := fun he => hback (he ▸ List.mem_map_of_mem hr)
    simpa using hne
  rw [List.filter_append, List.filter_cons, hf, hb]
  simp

/-- A request that is made is a new row beside those that are kept. -/
theorem newRow_of_addRequest {n : NewRequest} {now : Moment} {s s' : Store} {request : Request}
    (h : s.addRequest n now = .ok (request, s')) :
    ∃ kept row, Replaces n.userId row.key s.requests kept ∧ NewRow n.userId kept row ∧
      RowOf request row ∧ s' = { s with requests := kept ++ [row] } ∧
      request = n.toRequest (nextId kept) request.userName now := by
  obtain ⟨kept, row, hkept, hrow, hs, hrequest⟩ := addRequest_ok h
  refine ⟨kept, row, hkept, ⟨?_, ?_, ?_, ?_, fun r hr => ?_, ?_, ?_⟩, hrow, hs, hrequest⟩
  · rw [hrow.userId, hrequest]
    rfl
  · rw [hrow.status, hrequest]
    rfl
  · rw [hrow.decidedBy, hrequest]
    rfl
  · rw [hrow.notes, hrequest]
    rfl
  · rw [hrow.id, hrequest]
    exact lt_nextId hr
  · exact (Column.requiredText_ok hrow.contentType).2
  · exact (Column.requiredText_ok hrow.triggeredBy).2

/-- Making a request files it in the table. -/
theorem filed_of_addRequest {n : NewRequest} {now : Moment} {s s' : Store} {request : Request}
    (hk : WellKept s.requests) (h : s.addRequest n now = .ok (request, s')) :
    Filed n.userId s.requests s'.requests := by
  obtain ⟨kept, row, hkept, hnew, -, rfl, -⟩ := newRow_of_addRequest h
  cases hkept with
  | none => exact .beside hnew
  | expired mem sameUser sameKey status =>
    obtain ⟨front, back, hsplit, hfilter⟩ := filter_ne_id hk.distinct mem
    rw [hfilter] at hnew ⊢
    exact .instead hsplit status (sameUser.trans hnew.user.symm) sameKey hnew

/-! ## Single events -/

/-- The requests that an event may take away for good. -/
def Event.MayDrop : Event → Request → Prop
  | .delete id, r => r.id = id
  | .cleanup _, r => r.status = .expired
  | _, _ => False

/-- The context of the submission that an event is, if it is one. -/
def Event.submitted? : Event → Option Context
  | .process _ context _ => some context
  | _ => none

/-- Requests are carried over, or the primary user of a submission gets a new one. -/
def Lawful (mayDrop : Request → Prop) (submitted : Option Context) (rows rows' : List Request) :
    Prop :=
  CarriedOver mayDrop rows rows' ∨ ∃ context userId, submitted = some context ∧
    context.primaryUserId = some userId ∧ Filed userId rows rows'

theorem Lawful.wellKept {mayDrop : Request → Prop} {submitted : Option Context}
    {rows rows' : List Request} (h : Lawful mayDrop submitted rows rows') (hk : WellKept rows) :
    WellKept rows' := by
  rcases h with h | ⟨_, _, -, -, h⟩
  · exact h.wellKept hk
  · exact h.wellKept hk

theorem putUsage_requests {userId : Int} {contentType : Value} {date : Date} {s s' : Store}
    (h : s.putUsage userId contentType date = .ok ((), s')) : s'.requests = s.requests := by
  obtain ⟨stored, -, rfl⟩ := putUsage_ok h
  rfl

theorem Store.transition_evolve {id : Int} {t : Transition} {now : Moment} {s s' : Store} {b : Bool}
    (ht : t.status ∈ Status.settled) (h : s.transition id t now = .ok (b, s')) :
    Evolve s.requests s'.requests := by
  obtain ⟨-, decidedBy, notes, rfl⟩ := transition_ok h
  exact Evolve.map (Transition.evolves_settle ht id decidedBy notes now) s.requests

/-- A decision leaves the requests as they are, or settles the one that it decides. -/
theorem Desk.Effect.requests_cases {p : Partners} {id : Int} {isApproval : Bool} {s : Session}
    {x : Except Failure Decision × Session} (h : Desk.Effect p id isApproval s x) :
    x.2.store.requests = s.store.requests ∨ ∃ t b store, t.status ∈ Status.settled ∧
      s.store.transition id t s.now = .ok (b, store) ∧ x.2.store.requests = store.requests := by
  cases h with
  | kept same =>
    rw [same.store]
    exact .inl rfl
  | declined status moved same =>
    rw [same.store]
    refine .inr ⟨_, _, _, ?_, moved, rfl⟩
    rcases status with hs | hs <;> rw [hs] <;> decide
  | unplaced _ status moved same =>
    rw [same.store]
    exact .inr ⟨_, _, _, by rw [status]; decide, moved, rfl⟩
  | tried _ status moved _ _ same =>
    rw [same.store]
    exact .inr ⟨_, _, _, by rw [status]; decide, moved, rfl⟩
  | counted _ status moved _ _ written same =>
    rw [same.store, putUsage_requests written]
    exact .inr ⟨_, _, _, by rw [status]; decide, moved, rfl⟩

/-- A decision lets requests evolve and takes none away. -/
theorem Desk.Effect.evolve {p : Partners} {id : Int} {isApproval : Bool} {s : Session}
    {x : Except Failure Decision × Session} (h : Desk.Effect p id isApproval s x) :
    Evolve s.store.requests x.2.store.requests := by
  rcases h.requests_cases with hsame | ⟨t, b, store, status, moved, hrequests⟩
  · rw [hsame]
    exact Evolve.refl _
  · rw [hrequests]
    exact transition_evolve status moved

/-- A submission leaves the requests as they are, or makes one for the placement of the first verdict
that can be acted on. -/
theorem Gate.Effect.requests_cases {item : Item} {context : Context} {verdicts : List Verdict}
    {s : Session} {x : Except Failure Outcome × Session}
    (h : Gate.Effect item context verdicts s x) :
    x.2.store.requests = s.store.requests ∨
    ∃ primary p rest userId wait expiresAt request store,
      verdicts.filterMap Gate.actionable? = (primary, p) :: rest ∧
      context.primaryUserId = some userId ∧ wait.verdict.proposed = some p ∧
      s.store.addRequest (Gate.newRequest item context userId wait expiresAt) s.now
        = .ok (request, store) ∧
      x.2.store.requests = store.requests := by
  cases h with
  | kept same =>
    rw [same.store]
    exact .inl rfl
  | made first user proposed added same =>
    rw [same.store]
    exact .inr ⟨_, _, _, _, _, _, _, _, first, user, proposed, added, rfl⟩
  | counted _ _ _ written same =>
    rw [same.store, putUsage_requests written]
    exact .inl rfl

theorem Gate.Effect.lawful {item : Item} {context : Context} {verdicts : List Verdict}
    {s : Session} {x : Except Failure Outcome × Session}
    (h : Gate.Effect item context verdicts s x) (hk : WellKept s.store.requests)
    (mayDrop : Request → Prop) :
    Lawful mayDrop (some context) s.store.requests x.2.store.requests := by
  rcases h.requests_cases with hsame | ⟨_, _, _, userId, _, _, _, _, -, user, -, added, hrequests⟩
  · rw [hsame]
    exact .inl ((Evolve.refl _).carriedOver _)
  · rw [hrequests]
    exact .inr ⟨context, userId, rfl, user, filed_of_addRequest hk added⟩

/-- Every event treats the requests lawfully. -/
theorem Event.Change.lawful {service : Service} {s : Session} {e : Event}
    {x : Except Failure Event.Answer × Session} (h : Event.Change service s e x)
    (hk : WellKept s.store.requests) :
    Lawful e.MayDrop e.submitted? s.store.requests x.2.store.requests := by
  cases h with
  | idle same =>
    rw [same.requests]
    exact .inl ((Evolve.refl _).carriedOver _)
  | clock => exact .inl ((Evolve.refl _).carriedOver _)
  | processed effect => exact effect.lawful hk _
  | approved effect => exact .inl (effect.evolve.carriedOver _)
  | rejected effect => exact .inl (effect.evolve.carriedOver _)
  | deleted dropped same =>
    rw [same.store, dropRequest_ok dropped]
    refine .inl (CarriedOver.of_filter fun r _ hr => ?_)
    change r.id = _
    simpa using hr
  | swept same =>
    rw [same.store]
    exact .inl ((expireRequests_evolve _ _ _).carriedOver _)
  | cleaned same =>
    rw [same.store]
    refine .inl (CarriedOver.of_filter fun r _ hr => ?_)
    simp only [Bool.not_eq_false', Bool.and_eq_true, decide_eq_true_eq] at hr
    exact hr.1
  | discarded same =>
    rw [same.store]
    exact .inl ((Evolve.refl _).carriedOver _)

/-- Wherever operations lead, the requests are well kept. -/
theorem Reachable.wellKept {s : Session} (h : Reachable s) : WellKept s.store.requests := by
  refine h.invariant (I := fun s => WellKept s.store.requests) (fun s hs => ?_)
    fun service e s hk => ((e.change service s).lawful hk).wellKept hk
  rw [hs]
  exact .nil

/-- A step of a run, with what is known of the session before it. -/
structure Step.Sound (st : Step) : Prop where
  change : ∃ service, Event.Change service st.before st.event (st.result, st.after)
  wellKept : WellKept st.before.store.requests
  wellKeptAfter : WellKept st.after.store.requests

theorem Linked.sound {s s' : Session} {sts : List Step} (h : Linked s sts s')
    (hk : WellKept s.store.requests) : WellKept s'.store.requests ∧ ∀ st ∈ sts, st.Sound := by
  have hkept := h.invariant (I := fun s => WellKept s.store.requests)
    (fun service e s hk => ((e.change service s).lawful hk).wellKept hk) hk
  exact ⟨hkept.1, fun st hst => ⟨h.change hst, (hkept.2 st hst).1, (hkept.2 st hst).2⟩⟩

/-! ## Whole operations -/

/-- The requests that an operation may take away for good. -/
def Operation.MayDrop : Operation → Request → Prop
  | .single e => e.MayDrop
  | _ => fun _ => False

/-- The context of the submission that an operation is, if it is one. -/
def Operation.submitted? : Operation → Option Context
  | .single e => e.submitted?
  | .submit _ context => some context
  | _ => none

theorem Linked.evolve {s s' : Session} {sts : List Step} (h : Linked s sts s')
    (hsteps : ∀ st ∈ sts, Evolve st.before.store.requests st.after.store.requests) :
    Evolve s.store.requests s'.store.requests := by
  induction h with
  | nil => exact Evolve.refl _
  | cons happens _ ih =>
    have hfirst := hsteps _ List.mem_cons_self
    rw [happens.before_eq] at hfirst
    exact hfirst.trans (ih fun st hst => hsteps st (List.mem_cons_of_mem _ hst))

theorem Event.mem_steps {service : Service} {goesOn : Except Failure Answer → Bool}
    {es : List Event} {s : Session} {st : Step} (h : st ∈ steps service goesOn es s) :
    ∃ e ∈ es, ∃ s', st = e.step service s' := by
  induction es generalizing s with
  | nil => cases h
  | cons e es ih =>
    rw [steps] at h
    rcases List.mem_cons.1 h with rfl | h
    · exact ⟨e, List.mem_cons_self, s, rfl⟩
    · split at h
      · obtain ⟨e', he', s', hst⟩ := ih h
        exact ⟨e', List.mem_cons_of_mem _ he', s', hst⟩
      · cases h

theorem Event.evolve_of_decided (service : Service) {e : Event} {id : Int}
    (h : e.decided? = some id) (s : Session) :
    Evolve s.store.requests (e.perform service s).2.store.requests := by
  obtain ⟨isApproval, result, heffect⟩ := (e.change service s).effect h
  exact heffect.evolve

/-- Resolving where an item goes leaves the requests alone. -/
theorem Event.resolve_requests (service : Service) (item : Item) (context : Context) (s : Session) :
    ((Event.resolve item context).perform service s).2.store.requests = s.store.requests := by
  rcases hx : (Event.resolve item context).perform service s with ⟨r, s'⟩
  have hchange := (Event.resolve item context).change service s
  rw [hx] at hchange
  cases hchange with
  | idle same => exact same.requests

theorem Operation.lawful (service : Service) {op : Operation} (hop : op ≠ .maintain) {s : Session}
    (hk : WellKept s.store.requests) :
    Lawful op.MayDrop op.submitted? s.store.requests (op.perform service s).2.store.requests := by
  cases op with
  | single e =>
    rw [perform, discard_apply]
    exact (e.change service s).lawful hk
  | submit item context =>
    have hlinked := Operation.linked service (.submit item context) s
    have hresolve := Event.resolve_requests service item context s
    unfold steps at hlinked
    dsimp only at hlinked
    -- only the second step, if there is one, touches the requests
    generalize ((submit item context).perform service s).2 = s' at hlinked ⊢
    split at hlinked
    · rename_i vs _
      cases hlinked with
      | cons _ rest =>
        cases rest with
        | cons _ rest =>
          cases rest
          have hlawful := ((Event.process item context vs).change service _).lawful (hresolve ▸ hk)
          rw [hresolve] at hlawful
          exact hlawful
    · cases hlinked with
      | cons _ rest =>
        cases rest
        have hevolve : Evolve s.store.requests
            ((Event.resolve item context).perform service s).2.store.requests := by
          rw [hresolve]
          exact Evolve.refl _
        exact .inl (hevolve.carriedOver _)
  | approveAll ids decidedBy notes =>
    refine .inl (Evolve.carriedOver ?_ _)
    refine (Operation.linked service (.approveAll ids decidedBy notes) s).evolve fun st hst => ?_
    obtain ⟨e, he, s', rfl⟩ := Event.mem_steps hst
    obtain ⟨id, -, rfl⟩ := List.mem_map.1 he
    exact Event.evolve_of_decided service rfl s'
  | rejectAll ids decidedBy reason =>
    refine .inl (Evolve.carriedOver ?_ _)
    refine (Operation.linked service (.rejectAll ids decidedBy reason) s).evolve fun st hst => ?_
    obtain ⟨e, he, s', rfl⟩ := Event.mem_steps hst
    obtain ⟨id, -, rfl⟩ := List.mem_map.1 he
    exact Event.evolve_of_decided service rfl s'
  | maintain => exact absurd rfl hop

/-- From every session that operations lead to, each single operation carries the requests over or
files one new request of a submission; so does each step of an operation, of maintenance in
particular. -/
theorem requests_lawful {s : Session} (hs : Reachable s) (service : Service) (op : Operation) :
    (op ≠ .maintain →
      Lawful op.MayDrop op.submitted? s.store.requests (op.perform service s).2.store.requests) ∧
    ∀ st ∈ op.steps service s, Lawful st.event.MayDrop st.event.submitted?
      st.before.store.requests st.after.store.requests := by
  refine ⟨fun hop => op.lawful service hop hs.wellKept, fun st hst => ?_⟩
  have hlinked := op.linked service s
  obtain ⟨service', hchange⟩ := hlinked.change hst
  have hkept := hlinked.invariant (I := fun s => WellKept s.store.requests)
    (fun service e s hk => ((e.change service s).lawful hk).wellKept hk) hs.wellKept
  exact hchange.lawful (hkept.2 st hst).1

/-- For instance, the first submission of a user who needs approval for everything makes a request,
and does so lawfully. -/
theorem requests_lawful_first_request :
    let s := ((Operation.single (.putUser 1 (.text "Ann") (.bool true))).perform {}
      { now := .ofDate ⟨738959⟩ }).2
    let op := Operation.single (.film 1 "Dune" [])
    (op.perform {} s).2.store.requests.map Request.status = [.pending] ∧
      Lawful op.MayDrop op.submitted? s.store.requests (op.perform {} s).2.store.requests := by
  intro s op
  have hs : Reachable s := .next (.start rfl) {} _
  exact ⟨rfl, (requests_lawful hs {} op).1 (by simp [op])⟩

end Watchgate
