import Watchgate.Proofs.Approval.Frame
import Watchgate.Proofs.Approval.Lockstep

/-!
# A submission as its user sees it

Of the counted requests and the requests for approval a submission reads rows of its primary user
alone. So in two sessions that hold the same for this user it does the same. One difference is left: a
new request takes its id after those of everybody, so its id, and no more than that, tells how many
requests others have made. This supposes that adding content and telling about requests do not depend
on what happened before.
-/

namespace Watchgate

open Act Calendar Store

/-- Adding content ends in the same way whenever it is tried, and so does telling about a request,
whatever its id. -/
structure Partners.Consistent (p : Partners) : Prop where
  acquire : ∀ item placement {s s' : Session}, s.network.Delivers → s'.network.Delivers →
    (p.acquire item placement s).1 = (p.acquire item placement s').1
  tellRequired : ∀ (r : Request) (id : Int) {s s' : Session}, s.network.Delivers →
    s'.network.Delivers → (p.tellRequired r s).1 = (p.tellRequired (r.withId id) s').1

/-- An outcome, apart from the id of its request. -/
def Outcome.withoutId (o : Outcome) : Outcome := { o with request := o.request.map (·.withId 0) }

/-- Two submissions came to the same, apart from the ids of the requests in their outcomes. -/
def SameUpToId (r r' : Except Failure Outcome) : Prop :=
  r.map Outcome.withoutId = r'.map Outcome.withoutId

/-- The same request, under the same id if it is an old one. -/
structure Request.SameUpToNewId (old : List Request) (r r' : Request) : Prop where
  eq : r' = r.withId r'.id
  stays : r ∈ old ∨ r' ∈ old → r' = r

theorem Request.SameUpToNewId.refl (old : List Request) (r : Request) : r.SameUpToNewId old r :=
  ⟨rfl, fun _ => rfl⟩

theorem Request.SameUpToNewId.symm {old : List Request} {r r' : Request}
    (h : r.SameUpToNewId old r') : r'.SameUpToNewId old r where
  eq := by
    rw [h.eq]
    rfl
  stays ho := (h.stays ho.symm).symm

/-! ## Two sessions that hold the same for a user -/

/-- Two sessions that hold the same for one user, both what was there in `old`. -/
structure Session.SameFor (userId : Int) (old : List Request) (s s' : Session) : Prop where
  rest : s'.store = { s.store with usage := s'.store.usage, requests := s'.store.requests }
  usage : s'.store.usage.filter (·.userId = userId) = s.store.usage.filter (·.userId = userId)
  held : s.store.requests.filter (·.userId = userId) = old.filter (·.userId = userId)
  held' : s'.store.requests.filter (·.userId = userId) = old.filter (·.userId = userId)
  distinct : (s.store.requests.map Request.id).Nodup
  distinct' : (s'.store.requests.map Request.id).Nodup
  now : s'.now = s.now
  outages : s'.outages = s.outages
  delivers : s.network.Delivers ∧ s'.network.Delivers

theorem filter_of_others {α : Type} {f : α → Int} {b : Int} {keep : α → Bool}
    (hkeep : ∀ x, keep x = true → f x ≠ b) {l l' : List α}
    (h : l'.filter (f · ≠ b) = l.filter (f · ≠ b)) : l'.filter keep = l.filter keep := by
  have hkept : ∀ l : List α, (l.filter (f · ≠ b)).filter keep = l.filter keep := by
    intro l
    rw [List.filter_filter]
    refine List.filter_congr fun x _ => ?_
    by_cases hx : keep x = true
    · simp [hx, hkeep x hx]
    · simp [hx]
  rw [← hkept l', h, hkept l]

theorem filter_user_of_others {α : Type} {f : α → Int} {a b : Int} (hab : a ≠ b) {l l' : List α}
    (h : l'.filter (f · ≠ b) = l.filter (f · ≠ b)) : l'.filter (f · = a) = l.filter (f · = a) := by
  refine filter_of_others (fun x hx => ?_) h
  rw [of_decide_eq_true hx]
  exact hab

/-- A submission of somebody else leaves a user the same. -/
theorem Session.OnlyOf.sameFor {a b : Int} {s s' : Session} (h : s.OnlyOf b s') (hab : a ≠ b)
    (hd : (s.store.requests.map Request.id).Nodup) (ho : s.network.Delivers) :
    Session.SameFor a s.store.requests s s' where
  rest := h.store.rest
  usage := filter_user_of_others hab h.store.usage
  held := rfl
  held' := filter_user_of_others hab h.store.requests
  distinct := hd
  distinct' := h.distinct
  now := h.now
  outages := h.outages
  delivers := ⟨ho, h.network.delivers ho⟩

section SameFor

variable {userId : Int} {old : List Request} {s s' t t' : Session}

theorem Session.SameFor.of_same (h : Session.SameFor userId old s s') (hs : s.SameTables t)
    (hs' : s'.SameTables t') : Session.SameFor userId old t t' where
  rest := by rw [hs.store, hs'.store]; exact h.rest
  usage := by rw [hs.store, hs'.store]; exact h.usage
  held := by rw [hs.store]; exact h.held
  held' := by rw [hs'.store]; exact h.held'
  distinct := by rw [hs.store]; exact h.distinct
  distinct' := by rw [hs'.store]; exact h.distinct'
  now := by rw [hs.now, hs'.now]; exact h.now
  outages := by rw [hs.outages, hs'.outages]; exact h.outages
  delivers := ⟨hs.network.delivers h.delivers.1, hs'.network.delivers h.delivers.2⟩

theorem Session.SameFor.read_eq {α : Type} (h : Session.SameFor userId old s s') {f : Store → α}
    (hf : ∀ (s : Store) usage requests, f { s with usage, requests } = f s) :
    f s'.store = f s.store := by
  rw [h.rest]
  exact hf s.store _ _

theorem failsAlike_sameFor : FailsAlike (Session.SameFor userId old) where
  outages h := h.outages
  noted {s s'} h e :=
    h.of_same (s.sameRecords_afterFailure e).toSameTables (s'.sameRecords_afterFailure e).toSameTables

theorem lockstep_sameFor {α : Type} {x : Act α} (hx : x.KeepsTables)
    (hresult : ∀ s s', Session.SameFor userId old s s' → (x s).1 = (x s').1) :
    x.Lockstep (Session.SameFor userId old) :=
  fun s s' h => ⟨hresult s s' h, h.of_same (hx s) (hx s')⟩

end SameFor

/-! ## Reading -/

namespace Store

variable {userId : Int} {s s' : Store}

theorem usageIn_eq (h : s'.usage.filter (·.userId = userId) = s.usage.filter (·.userId = userId))
    (contentType : Value) (w : Window) :
    s'.usageIn userId contentType w = s.usageIn userId contentType w := by
  unfold usageIn
  cases hid : Column.checked userId with
  | error e => rfl
  | ok id =>
    obtain rfl := Column.checked_ok hid
    cases Column.text contentType with
    | error e => rfl
    | ok stored =>
      have hsplit : ∀ rows : List Usage,
          rows.filter (fun u => u.userId = id && stored.isOneOf [u.contentType] && w.contains u.date)
            = (rows.filter (·.userId = id)).filter
              fun u => stored.isOneOf [u.contentType] && w.contains u.date := by
        intro rows
        rw [List.filter_filter]
        exact List.filter_congr fun u _ => by rw [Bool.and_assoc, Bool.and_comm]
      show Except.ok _ = Except.ok _
      rw [hsplit, hsplit, h]

theorem getQuota_user {contentType : Value} {q : Quota}
    (h : s.getQuota userId contentType = .ok (some q)) : q.userId = userId :=
  (getQuota_some h).2.1

theorem find?_isRequestFor (userId : Int) (key : Value) (rows : List Request) :
    (rows.filter (·.userId = userId)).find? (isRequestFor userId key)
      = rows.find? (isRequestFor userId key) := by
  rw [List.find?_filter]
  congr 1
  funext r
  by_cases hr : r.userId = userId
  · simp [hr]
  · simp [isRequestFor, hr]

/-- Room for a new request is found, or not, among the rows of its user. -/
theorem withoutExpired_filter (userId : Int) (key : Value) (rows : List Request) :
    withoutExpired userId key (rows.filter (·.userId = userId))
      = (withoutExpired userId key rows).map (·.filter (·.userId = userId)) := by
  cases hkey : Column.text key with
  | error e =>
    unfold withoutExpired
    rw [hkey]
    rfl
  | ok stored =>
    cases hfound : rows.find? (isRequestFor userId stored) with
    | none =>
      rw [withoutExpired_of_absent hkey hfound, withoutExpired_of_absent hkey]
      · rfl
      · rw [find?_isRequestFor, hfound]
    | some r =>
      have hfound' := (find?_isRequestFor userId stored rows).trans hfound
      by_cases hs : r.status = .expired
      · rw [withoutExpired_of_expired hkey hfound hs, withoutExpired_of_expired hkey hfound' hs]
        show Except.ok _ = Except.ok (List.filter _ (List.filter _ rows))
        rw [List.filter_filter, List.filter_filter]
        exact congrArg Except.ok (List.filter_congr fun r _ => Bool.and_comm _ _)
      · rw [withoutExpired_of_live hkey hfound hs, withoutExpired_of_live hkey hfound' hs]
        rfl

theorem room_alike {userId : Int} {rows rows' : List Request} (key : Value)
    (h : rows'.filter (·.userId = userId) = rows.filter (·.userId = userId)) :
    (∃ e, withoutExpired userId key rows = .error e ∧ withoutExpired userId key rows' = .error e) ∨
    ∃ kept kept', withoutExpired userId key rows = .ok kept ∧
      withoutExpired userId key rows' = .ok kept' ∧
      kept'.filter (·.userId = userId) = kept.filter (·.userId = userId) := by
  have hmine : (withoutExpired userId key rows').map (·.filter (·.userId = userId))
      = (withoutExpired userId key rows).map (·.filter (·.userId = userId)) := by
    rw [← withoutExpired_filter, h, withoutExpired_filter]
  rcases hk : withoutExpired userId key rows with e | kept <;>
    rcases hk' : withoutExpired userId key rows' with e' | kept' <;> rw [hk, hk'] at hmine
  · obtain rfl := Except.error.inj hmine
    exact .inl ⟨_, rfl, rfl⟩
  · cases hmine
  · cases hmine
  · exact .inr ⟨kept, kept', rfl, rfl, Except.ok.inj hmine⟩

end Store

/-! ## Writing -/

section Writing

variable {userId : Int} {old : List Request} {s s' : Session}

/-- Two sessions that hold the same for one user, up to ids of requests that are not in `old`. -/
structure Session.SameUpToNewIds (userId : Int) (old : List Request) (s s' : Session) : Prop where
  usage : s'.store.usage.filter (·.userId = userId) = s.store.usage.filter (·.userId = userId)
  requests : List.Forall₂ (Request.SameUpToNewId old)
    (s.store.requests.filter (·.userId = userId)) (s'.store.requests.filter (·.userId = userId))

theorem Session.SameFor.sameUpToNewIds (h : Session.SameFor userId old s s') :
    s.SameUpToNewIds userId old s' := by
  refine ⟨h.usage, ?_⟩
  rw [h.held, h.held']
  exact List.forall₂_same.2 fun r _ => .refl old r

theorem Session.SameUpToNewIds.of_same {t t' : Session} (h : s.SameUpToNewIds userId old s')
    (hs : s.SameTables t) (hs' : s'.SameTables t') : t.SameUpToNewIds userId old t' := by
  obtain ⟨husage, hrequests⟩ := h
  rw [← hs.store, ← hs'.store] at husage hrequests
  exact ⟨husage, hrequests⟩

theorem lockstep_recordUsage_sameFor (userId : Int) (contentType : Value) (old : List Request) :
    (Quota.recordUsage userId contentType).Lockstep (Session.SameFor userId old) := by
  refine lockstep_bind (lockstep_ask fun _ _ h => congrArg Moment.date h.now) fun today => ?_
  refine failsAlike_sameFor.lockstep_write fun s s' h => ?_
  rcases Store.putUsage_alike contentType today (h.read_eq fun _ _ _ => rfl) with
    ⟨e, he, he'⟩ | ⟨row, -, hrow, hrow'⟩
  · rw [he, he']
    exact .fails e
  · rw [hrow, hrow']
    refine .returns () { h with rest := ?_, usage := ?_ }
    · rw [h.rest]
    · show (s'.store.usage ++ [row]).filter _ = (s.store.usage ++ [row]).filter _
      rw [List.filter_append, List.filter_append, h.usage]

/-- A request that was just made was not there before. -/
theorem Store.new_of_addRequest {n : NewRequest} {now : Moment} {s : Store} {request row : Request}
    {kept : List Request} (hd : (s.requests.map Request.id).Nodup)
    (h : s.addRequest n now = .ok (request, { s with requests := kept ++ [row] })) :
    row.userId = n.userId ∧ row ∉ s.requests := by
  obtain ⟨kept', row', hkept, hnew, -, hs, -⟩ := newRow_of_addRequest h
  obtain ⟨rfl, hlast⟩ := List.append_inj' (congrArg Store.requests hs) rfl
  obtain rfl := List.singleton_inj.1 hlast
  refine ⟨hnew.user, fun hmem => ?_⟩
  have hfresh : row ∉ kept := by
    intro hk
    have := hnew.newId row hk
    omega
  cases hkept with
  | none => exact hfresh hmem
  | @expired gone mem sameUser sameKey status =>
    -- a row with the id of the expired one would be that one, but the new one waits
    by_cases hid : row.id = gone.id
    · obtain rfl := List.inj_on_of_nodup_map hd hmem mem hid
      rw [hnew.status] at status
      cases status
    · exact hfresh (List.mem_filter.2 ⟨hmem, by simpa using hid⟩)

theorem Session.SameFor.symm (h : Session.SameFor userId old s s') :
    Session.SameFor userId old s' s where
  rest := by rw [h.rest]
  usage := h.usage.symm
  held := h.held'
  held' := h.held
  distinct := h.distinct'
  distinct' := h.distinct
  now := h.now.symm
  outages := h.outages.symm
  delivers := h.delivers.symm

theorem Session.SameFor.not_old (h : Session.SameFor userId old s s') {r : Request}
    (hu : r.userId = userId) (hr : r ∉ s.store.requests) : r ∉ old := by
  intro ho
  have hmine : r ∈ old.filter (·.userId = userId) := List.mem_filter.2 ⟨ho, by simpa using hu⟩
  rw [← h.held] at hmine
  exact hr (List.mem_filter.1 hmine).1

/-- A request is made in both sessions, or in neither. -/
theorem addRequest_sameFor {n : NewRequest} (h : Session.SameFor n.userId old s s') :
    (∃ e t t', Act.addRequest n s = (.error e, t) ∧ Act.addRequest n s' = (.error e, t') ∧
      Session.SameFor n.userId old t t') ∨
    ∃ (request : Request) (id id' : Int) (t t' : Session),
      Act.addRequest n s = (.ok (request.withId id), t) ∧
      Act.addRequest n s' = (.ok (request.withId id'), t') ∧
      t.SameUpToNewIds n.userId old t' ∧ t.network.Delivers ∧ t'.network.Delivers := by
  unfold Act.addRequest write
  rw [failsAlike_sameFor.outage?_eq h, h.now]
  cases s.outage? .addRequest none with
  | some e => exact .inl ⟨e, s, s', rfl, rfl, h⟩
  | none =>
    rcases addRequest_alike s.now (h.read_eq fun _ _ _ => rfl) (h.read_eq fun _ _ _ => rfl)
      (room_alike n.key (h.held'.trans h.held.symm)) with
      ⟨e, he, he'⟩ | ⟨kept, kept', request, row, hkept, hadd, hadd'⟩
    · rw [he, he']
      exact .inl ⟨e, _, _, rfl, rfl, failsAlike_sameFor.noted h e⟩
    · obtain ⟨huser, hnew⟩ := new_of_addRequest h.distinct hadd
      obtain ⟨huser', hnew'⟩ := new_of_addRequest h.distinct' hadd'
      rw [hadd, hadd']
      refine .inr ⟨request, _, _, _, _, rfl, rfl, ⟨h.usage, ?_⟩, h.delivers⟩
      show List.Forall₂ _ ((kept ++ [_]).filter _) ((kept' ++ [_]).filter _)
      rw [List.filter_append, List.filter_append, hkept]
      refine List.rel_append (List.forall₂_same.2 fun r _ => .refl old r) ?_
      rw [List.filter_singleton, List.filter_singleton, huser, huser']
      have hdiffer : row.withId (nextId kept) ∈ old ∨ row.withId (nextId kept') ∈ old →
          row.withId (nextId kept') = row.withId (nextId kept) := by
        rintro (ho | ho)
        · exact absurd ho (h.not_old huser hnew)
        · exact absurd ho (h.symm.not_old huser' hnew')
      simpa using List.Forall₂.cons ⟨rfl, hdiffer⟩ .nil

end Writing

/-! ## A submission in two sessions that hold the same -/

namespace Gate

variable {g : Gate}

theorem stepsAlike_sameFor (hq : g.partners.Quiet) (hc : g.partners.Consistent) (item : Item)
    (contentType : Value) (userId : Int) (old : List Request) :
    g.StepsAlike item contentType (some userId) (Session.SameFor userId old) where
  noted level text := lockstep_sameFor (quiet_note level text).keepsTables fun _ _ _ => rfl
  now := lockstep_ask fun _ _ h => h.now
  tried placements := by
    refine Partners.lockstep_attemptAll (fun h a => ?_) (fun item placement => ?_) item placements
    · exact h.of_same ⟨rfl, rfl, rfl, .refl _⟩ ⟨rfl, rfl, rfl, .refl _⟩
    · exact lockstep_sameFor (hq.acquire item placement).keepsTables fun s s' h =>
        hc.acquire item placement h.delivers.1 h.delivers.2
  user u _ := failsAlike_sameFor.lockstep_read fun _ _ h => h.read_eq fun _ _ _ => rfl
  quota u hu := by
    obtain rfl := Option.some.inj hu
    refine ⟨lockstep_ask fun _ _ h => congrArg Moment.date h.now, ?_, fun w => ?_,
      fun hfound w => ?_⟩
    · exact failsAlike_sameFor.lockstep_read fun _ _ h => h.read_eq fun _ _ _ => rfl
    · exact failsAlike_sameFor.lockstep_read fun _ _ h =>
        congrArg (·.map List.length) (usageIn_eq h.usage contentType w)
    · rw [getQuota_user (read_returns hfound).1]
      exact failsAlike_sameFor.lockstep_read fun _ _ h =>
        congrArg (·.map earliest?) (usageIn_eq h.usage _ w)
  counted u hu := by
    obtain rfl := Option.some.inj hu
    exact lockstep_recordUsage_sameFor _ contentType old

theorem lockstep_liveRequest_sameFor (userId : Int) (key : Value) (old : List Request) :
    (liveRequest (some userId) key).Lockstep (Session.SameFor userId old) := by
  rw [liveRequest_eq_read]
  refine failsAlike_sameFor.lockstep_read fun s s' h => ?_
  have hnamed : named s'.store = named s.store := h.read_eq fun _ _ _ => rfl
  have hfind : ∀ stored, s'.store.requests.find? (isRequestFor userId stored)
      = s.store.requests.find? (isRequestFor userId stored) := fun stored => by
    rw [← find?_isRequestFor, h.held', ← h.held, find?_isRequestFor]
  refine congrArg (Except.map _) ?_
  unfold Store.getRequestFor
  cases hid : Column.checked userId with
  | error e => rfl
  | ok id =>
    obtain rfl := Column.checked_ok hid
    cases Column.text key with
    | error e => rfl
    | ok stored =>
      show Except.ok _ = Except.ok _
      rw [hfind, hnamed]

theorem announce_withId (hc : g.partners.Consistent) (text text' : String) (r : Request)
    (id id' : Int) {s s' : Session} (ho : s.network.Delivers) (ho' : s'.network.Delivers) :
    SameUpToId (g.announce text (r.withId id) s).1 (g.announce text' (r.withId id') s').1 := by
  have htold : ∀ text r s, (g.announce text r s).1
      = (g.partners.tellRequired r (Act.info text s).2).1.map fun _ =>
        { kind := .pending, request := some r, message := r.reason.orElse (.text "") } := by
    intro text r s
    show ((g.partners.tellRequired r >>= fun _ => pure _ : Act Outcome) (Act.info text s).2).1 = _
    rw [bind_apply]
    rcases g.partners.tellRequired r _ with ⟨_ | _, _⟩ <;> rfl
  have hsame : (g.partners.tellRequired (r.withId id) (Act.info text s).2).1
      = (g.partners.tellRequired (r.withId id') (Act.info text' s').2).1 :=
    hc.tellRequired (r.withId id) id' ((quiet_note .info text s).network.delivers ho)
      ((quiet_note .info text' s').network.delivers ho')
  unfold SameUpToId
  rw [htold, htold, hsame]
  cases (g.partners.tellRequired (r.withId id') (Act.info text' s').2).1 <;> rfl

/-- Keeping a submission as a request ends alike, up to the id. -/
theorem matches_defer (hq : g.partners.Quiet) (hc : g.partners.Consistent) (item : Item)
    (context : Context) (userId : Int) (wait : Wait) (old : List Request) :
    (g.defer item context userId wait).Matches (Session.SameFor userId old) SameUpToId
      (Session.SameUpToNewIds userId old) := by
  have hexpiry := (stepsAlike_sameFor hq hc item context.contentType userId old).expiry
  refine matches_bind (V := SameUpToId) (fun _ => rfl) (fun _ _ h => h.sameUpToNewIds) hexpiry
    fun {_ expiresAt _} _ => ?_
  intro s s' h
  let n := newRequest item context userId wait expiresAt
  rcases addRequest_sameFor (n := n) h with
    ⟨e, t, t', hs, hs', ht⟩ | ⟨r, id, id', t, t', hs, hs', ht, ho, ho'⟩
  · rw [bind_of_error hs, bind_of_error hs']
    exact ⟨rfl, ht.sameUpToNewIds⟩
  · rw [bind_of_ok hs, bind_of_ok hs']
    show SameUpToId (g.announce _ (r.withId id) t).1 (g.announce _ (r.withId id') t').1 ∧
      Session.SameUpToNewIds userId old (g.announce _ _ t).2 (g.announce _ _ t').2
    exact ⟨announce_withId hc _ _ r id id' ho ho',
      ht.of_same (quiet_announce hq _ _ t).toSameTables (quiet_announce hq _ _ t').toSameTables⟩

/-- A submission does the same in sessions that hold the same for its user, up to ids of requests that
it makes. -/
theorem process_matches (hq : g.partners.Quiet) (hc : g.partners.Consistent) (item : Item)
    {context : Context} (verdicts : List Verdict) {userId : Int}
    (hu : context.primaryUserId = some userId) (old : List Request) :
    (g.process item context verdicts).Matches (Session.SameFor userId old) SameUpToId
      (Session.SameUpToNewIds userId old) := by
  refine StepsAlike.process (fun _ => rfl) (fun _ _ h => h.sameUpToNewIds) ?_ (fun _ => ?_)
    fun _ u hu' wait => ?_
  · rw [hu]
    exact stepsAlike_sameFor hq hc item context.contentType userId old
  · rw [hu]
    exact lockstep_liveRequest_sameFor userId _ old
  · obtain rfl := Option.some.inj (hu'.symm.trans hu)
    exact matches_defer hq hc item context u wait old

end Gate

end Watchgate
