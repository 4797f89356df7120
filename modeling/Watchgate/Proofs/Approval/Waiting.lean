import Watchgate.Proofs.Approval.Lifecycle

/-!
# Requests that wait

Wherever operations lead, the user of a stored request is stored, and a request that waits bears no
decision yet. So a waiting request can be counted once it is approved, and marking it as expired
leaves the same row whichever way it is done.
-/

namespace Watchgate

open Act Calendar Store

/-- What holds of the stored requests wherever operations lead. -/
structure Store.Orderly (s : Store) : Prop where
  user : ∀ r ∈ s.requests, s.Knows r.userId
  undecided : ∀ r ∈ s.requests, r.status = .pending → r.decidedBy = .null ∧ r.notes = .null

/-! ## Users -/

theorem transition_users {id : Int} {t : Transition} {now : Moment} {s s' : Store} {moved : Bool}
    (h : s.transition id t now = .ok (moved, s')) : s'.users = s.users := by
  obtain ⟨-, _, _, rfl⟩ := transition_ok h
  rfl

theorem putUsage_users {userId : Int} {contentType : Value} {date : Date} {s s' : Store}
    (h : s.putUsage userId contentType date = .ok ((), s')) : s'.users = s.users := by
  obtain ⟨_, -, rfl⟩ := putUsage_ok h
  rfl

theorem addRequest_users {n : NewRequest} {now : Moment} {s s' : Store} {request : Request}
    (h : s.addRequest n now = .ok (request, s')) : s'.users = s.users := by
  obtain ⟨_, _, -, -, rfl, -⟩ := addRequest_ok h
  rfl

theorem knows_of_addRequest {n : NewRequest} {now : Moment} {s s' : Store} {request : Request}
    (h : s.addRequest n now = .ok (request, s')) : s.Knows n.userId := by
  obtain ⟨user, huser, -⟩ := ok_of_bind h
  exact knows_of_requireUser huser

theorem Desk.Effect.users {p : Partners} {id : Int} {isApproval : Bool} {s : Session}
    {x : Except Failure Decision × Session} (h : Desk.Effect p id isApproval s x) :
    x.2.store.users = s.store.users := by
  cases h with
  | kept same => rw [same.store]
  | declined _ moved same => rw [same.store, transition_users moved]
  | unplaced _ _ moved same => rw [same.store, transition_users moved]
  | tried _ _ moved _ _ same => rw [same.store, transition_users moved]
  | counted _ _ moved _ _ written same =>
    rw [same.store, putUsage_users written, transition_users moved]

theorem Gate.Effect.users {item : Item} {context : Context} {verdicts : List Verdict}
    {s : Session} {x : Except Failure Outcome × Session}
    (h : Gate.Effect item context verdicts s x) : x.2.store.users = s.store.users := by
  cases h with
  | kept same => rw [same.store]
  | made _ _ _ added same => rw [same.store, addRequest_users added]
  | counted _ _ _ written same => rw [same.store, putUsage_users written]

/-- No event drops a user. -/
theorem Event.Change.knows {service : Service} {s : Session} {e : Event}
    {x : Except Failure Event.Answer × Session} (h : Event.Change service s e x) {userId : Int}
    (hu : s.store.Knows userId) : x.2.store.Knows userId := by
  cases h with
  | idle same => exact same.knows userId hu
  | clock => exact hu
  | processed effect => exact hu.of_users effect.users
  | approved effect => exact hu.of_users effect.users
  | rejected effect => exact hu.of_users effect.users
  | deleted dropped same =>
    rw [same.store, dropRequest_ok dropped]
    exact hu.of_users rfl
  | swept same =>
    rw [same.store]
    exact hu.of_users rfl
  | cleaned same =>
    rw [same.store]
    exact hu.of_users rfl
  | discarded same =>
    rw [same.store]
    exact hu.of_users rfl

/-! ## Requests -/

theorem CarriedOver.userId {mayDrop : Request → Prop} {rows rows' : List Request}
    (h : CarriedOver mayDrop rows rows') {r' : Request} (hr' : r' ∈ rows') :
    ∃ r ∈ rows, r'.userId = r.userId := by
  obtain ⟨kept, hsub, hev, -⟩ := h
  obtain ⟨r, hr, he⟩ := hev.exists_before hr'
  exact ⟨r, hsub.subset hr, he.matter.userId⟩

/-- A request that waits afterwards waited before, or is new and bears no decision. -/
theorem Lawful.undecided {mayDrop : Request → Prop} {submitted : Option Context}
    {rows rows' : List Request} (h : Lawful mayDrop submitted rows rows')
    (hrows : ∀ r ∈ rows, r.status = .pending → r.decidedBy = .null ∧ r.notes = .null) :
    ∀ r ∈ rows', r.status = .pending → r.decidedBy = .null ∧ r.notes = .null := by
  intro r' hr' hpending
  rcases h with ⟨kept, hsub, hev, -⟩ | ⟨_, _, -, -, hfiled⟩
  · obtain ⟨r, hr, he⟩ := hev.exists_before hr'
    exact hrows r' (he.eq_of_pending hpending ▸ hsub.subset hr) hpending
  · cases hfiled with
    | beside new =>
      rcases List.mem_append.1 hr' with hr | hr
      · exact hrows r' hr hpending
      · obtain rfl := List.mem_singleton.1 hr
        exact ⟨new.undecided, new.unannotated⟩
    | «instead» split _ _ _ new =>
      rcases List.mem_append.1 hr' with hr | hr
      · refine hrows r' ?_ hpending
        rw [split]
        exact ((List.Sublist.refl _).append (List.sublist_cons_self _ _)).subset hr
      · obtain rfl := List.mem_singleton.1 hr
        exact ⟨new.undecided, new.unannotated⟩

/-- The users of the requests after an event had requests before, or the new request is theirs. -/
theorem Event.Change.user {service : Service} {s : Session} {e : Event}
    {x : Except Failure Event.Answer × Session} (h : Event.Change service s e x)
    (hk : WellKept s.store.requests) {r' : Request} (hr' : r' ∈ x.2.store.requests) :
    (∃ r ∈ s.store.requests, r'.userId = r.userId) ∨ s.store.Knows r'.userId := by
  rcases h.lawful hk with hcarried | ⟨context, userId, hsubmitted, -, -⟩
  · exact .inl (hcarried.userId hr')
  · cases h with
    | processed effect =>
      rcases effect.requests_cases with hsame | ⟨_, _, _, userId, _, _, _, _, -, -, -, added, hrows⟩
      · rw [hsame] at hr'
        exact .inl ⟨r', hr', rfl⟩
      · obtain ⟨kept, row, hkept, hnew, -, hstore, -⟩ := newRow_of_addRequest added
        rw [hrows, hstore] at hr'
        rcases List.mem_append.1 hr' with hr | hr
        · exact .inl ⟨r', hkept.sublist.subset hr, rfl⟩
        · obtain rfl := List.mem_singleton.1 hr
          rw [hnew.user]
          exact .inr (knows_of_addRequest added)
    | idle same =>
      rw [same.requests] at hr'
      exact .inl ⟨r', hr', rfl⟩
    | _ => cases hsubmitted

/-- Every event leaves the requests orderly. -/
theorem Event.Change.orderly {service : Service} {s : Session} {e : Event}
    {x : Except Failure Event.Answer × Session} (h : Event.Change service s e x)
    (hk : WellKept s.store.requests) (ho : s.store.Orderly) : x.2.store.Orderly where
  user r' hr' := by
    rcases h.user hk hr' with ⟨r, hr, hsame⟩ | hknown
    · rw [hsame]
      exact h.knows (ho.user r hr)
    · exact h.knows hknown
  undecided := (h.lawful hk).undecided ho.undecided

theorem Reachable.orderly {s : Session} (h : Reachable s) : s.store.Orderly := by
  refine h.kept (I := fun s => s.store.Orderly) (fun s hs => ?_) fun service e s hs ho => ?_
  · rw [hs]
    exact ⟨fun r hr => (by cases hr), fun r hr => (by cases hr)⟩
  · exact (e.change service s).orderly hs.wellKept ho

/-- Films of one user wait, each since the day on which it was asked for. -/
def waitingFilms (service : Service) (instances : List Instance)
    (films : List (Date × String × List String)) : Session :=
  Course.run (instances.map (fun i => ⟨service, .single (.putInstance i)⟩) ++
    ⟨service, .single (.putUser 1 (.text "Ann") (.bool true))⟩ ::
    films.flatMap fun (day, title, guids) =>
      [⟨service, .single (.setClock (.ofDate day))⟩, ⟨service, .single (.film 1 title guids)⟩])
    { now := .ofDate ⟨738959⟩ }

theorem reachable_waitingFilms (service : Service) (instances : List Instance)
    (films : List (Date × String × List String)) :
    Reachable (waitingFilms service instances films) := .run (.start rfl) _

end Watchgate
