import Watchgate.Proofs.Approval.Keys
import Watchgate.Proofs.Approval.SideBySide
import Watchgate.Proofs.Approval.Expiry

/-!
# Submissions before and after a sweep

A sweep marks waiting requests whose time has run out. To a submission this makes no difference, as
long as the request of its user for its content key is not one of these: outcome, attempts, calls and
counted requests are the same, and the requests differ by the marks alone. If it is one of these, it
does make a difference: before the sweep the submission is told to wait, after the sweep it is
answered as if the request had never been there.
-/

namespace Watchgate

open Act Calendar Store

/-! ## Marks -/

/-- A request, and what a sweep at `t` may leave of it. -/
inductive Request.SweptAt (t : Moment) (r : Request) : Request → Prop where
  | stays : SweptAt t r r
  /-- It is marked, for its time has run out. -/
  | lapses (overdue : isOverdue t r = true) :
      SweptAt t r { r with status := .expired, updatedAt := some t }

/-- Requests, and what a sweep at `t` may leave of them. -/
def Swept (t : Moment) (rows rows' : List Request) : Prop :=
  List.Forall₂ (Request.SweptAt t) rows rows'

/-- A sweep at `t` that leaves the requests of a user for a content key alone. -/
def SweptAside (userId : Int) (key : Value) (t : Moment) (rows rows' : List Request) : Prop :=
  List.Forall₂ (fun r r' => r.SweptAt t r' ∧ ∀ stored, Column.text key = .ok stored →
    isRequestFor userId stored r = true → r' = r) rows rows'

theorem Request.sweptAt_sweptRow (t : Moment) (r : Request) : r.SweptAt t (sweptRow t r) := by
  unfold sweptRow
  split
  · exact .lapses ‹_›
  · exact .stays

namespace Request.SweptAt

variable {t : Moment} {r r' : Request}

theorem id_eq (h : r.SweptAt t r') : r'.id = r.id := by
  cases h <;> rfl

theorem isRequestFor_eq (h : r.SweptAt t r') (userId : Int) (key : Value) :
    isRequestFor userId key r' = isRequestFor userId key r := by
  cases h <;> rfl

end Request.SweptAt

theorem swept_sweep (t : Moment) (s : Store) :
    Swept t s.requests (s.expireRequests t t).2.requests :=
  List.forall₂_map_right_iff.2 (List.forall₂_same.2 fun r _ => r.sweptAt_sweptRow t)

/-- The same row is found in tables that differ only in rows that are not looked for. -/
theorem find?_of_forall₂ {R : Request → Request → Prop} {p : Request → Bool}
    {rows rows' : List Request} (h : List.Forall₂ R rows rows') (hp : ∀ r r', R r r' → p r' = p r)
    (heq : ∀ r r', R r r' → p r = true → r' = r) : rows'.find? p = rows.find? p := by
  induction h with
  | nil => rfl
  | @cons r r' _ _ hr _ ih =>
    rw [List.find?_cons, List.find?_cons, hp r r' hr, ih]
    cases hpr : p r with
    | false => rfl
    | true => rw [heq r r' hr hpr]

theorem Store.nextId_eq {rows rows' : List Request}
    (h : rows'.map Request.id = rows.map Request.id) : nextId rows' = nextId rows := by
  have hfold : ∀ rows : List Request,
      nextId rows = (rows.map Request.id).foldl max 0 + 1 := fun rows => by
    rw [List.foldl_map]
    rfl
  rw [hfold, hfold, h]

namespace SweptAside

variable {userId : Int} {key stored : Value} {t : Moment} {rows rows' : List Request}

theorem swept (h : SweptAside userId key t rows rows') : Swept t rows rows' :=
  h.imp fun _ _ hr => hr.1

theorem find?_eq (h : SweptAside userId key t rows rows') (hkey : Column.text key = .ok stored) :
    rows'.find? (isRequestFor userId stored) = rows.find? (isRequestFor userId stored) :=
  find?_of_forall₂ h (fun _ _ hr => hr.1.isRequestFor_eq userId stored)
    fun _ _ hr hfor => hr.2 stored hkey hfor

theorem nextId_eq (h : SweptAside userId key t rows rows') : nextId rows' = nextId rows := by
  refine Store.nextId_eq ?_
  induction h with
  | nil => rfl
  | cons hr _ ih => rw [List.map_cons, List.map_cons, hr.1.id_eq, ih]

theorem snoc (h : SweptAside userId key t rows rows') (row : Request) :
    SweptAside userId key t (rows ++ [row]) (rows' ++ [row]) :=
  List.rel_append h (.cons ⟨.stays, fun _ _ _ => rfl⟩ .nil)

theorem without (h : SweptAside userId key t rows rows') (id : Int) :
    SweptAside userId key t (rows.filter (·.id ≠ id)) (rows'.filter (·.id ≠ id)) :=
  List.rel_filter (fun _ _ hr => by simp [hr.1.id_eq]) h

/-- Such a sweep is not noticed by a submission of the user for the key. -/
theorem unnoticed (userId : Int) (key : Value) (t : Moment) :
    Unnoticed (SweptAside userId key t) userId key where
  live h _ hkey := by rw [h.find?_eq hkey]
  room {rows rows'} h := by
    cases hkey : Column.text key with
    | error e =>
      refine .inl ⟨e, ?_, ?_⟩
      all_goals
        unfold withoutExpired
        rw [hkey]
        rfl
    | ok stored =>
      have hsame := h.find?_eq hkey
      cases hfound : rows.find? (isRequestFor userId stored) with
      | none =>
        exact .inr ⟨rows, rows', withoutExpired_of_absent hkey hfound,
          withoutExpired_of_absent hkey (hsame.trans hfound), h.nextId_eq, h.snoc⟩
      | some old =>
        by_cases hs : old.status = .expired
        · exact .inr ⟨_, _, withoutExpired_of_expired hkey hfound hs,
            withoutExpired_of_expired hkey (hsame.trans hfound) hs, (h.without old.id).nextId_eq,
            (h.without old.id).snoc⟩
        · exact .inl ⟨_, withoutExpired_of_live hkey hfound hs,
            withoutExpired_of_live hkey (hsame.trans hfound) hs⟩

end SweptAside

/-! ## Left out -/

/-- Requests, and the same, where the one with an id may be left out. -/
def WithOrWithout (id : Int) (rows rows' : List Request) : Prop :=
  rows' = rows ∨ rows' = rows.filter (·.id ≠ id)

/-- The session, where the request with an id is left out. -/
def Session.withoutRequest (id : Int) (s : Session) : Session :=
  { s with store := { s.store with requests := s.store.requests.filter (·.id ≠ id) } }

theorem Session.beside_withoutRequest {related : List Request → List Request → Prop} {id : Int}
    {s : Session} (h : related s.store.requests (s.store.requests.filter (·.id ≠ id))) :
    s.Beside related (s.withoutRequest id) :=
  ⟨⟨rfl, h⟩, rfl, rfl, rfl, rfl, rfl, rfl⟩

/-- Requests, and the same, where the one of a user for a content key may be left out if it is
expired. -/
inductive ExpiredLeftOut (userId : Int) (stored : Value) (id : Int) (rows : List Request) :
    List Request → Prop where
  | none : ExpiredLeftOut userId stored id rows rows
  | one {old : Request} (found : rows.find? (isRequestFor userId stored) = some old)
      (status : old.status = .expired) (sameId : old.id = id)
      (gone : (rows.filter (·.id ≠ id)).find? (isRequestFor userId stored) = Option.none) :
      ExpiredLeftOut userId stored id rows (rows.filter (·.id ≠ id))

namespace ExpiredLeftOut

variable {userId id : Int} {key stored : Value} {rows rows' : List Request}

theorem withOrWithout (h : ExpiredLeftOut userId stored id rows rows') :
    WithOrWithout id rows rows' := by
  cases h with
  | none => exact .inl rfl
  | one => exact .inr rfl

/-- That an expired request is left out is not noticed by a submission of the user for the key. -/
theorem unnoticed (hkey : Column.text key = .ok stored) (id : Int) :
    Unnoticed (ExpiredLeftOut userId stored id) userId key where
  live h _ hkey' := by
    obtain rfl := Except.ok.inj (hkey.symm.trans hkey')
    cases h with
    | none => rfl
    | one found status _ gone =>
      rw [gone, found]
      simp [Option.filter, status]
  room {rows rows'} h := by
    cases h with
    | none =>
      cases hkept : withoutExpired userId key rows with
      | error e => exact .inl ⟨e, rfl, rfl⟩
      | ok kept => exact .inr ⟨kept, kept, rfl, rfl, rfl, fun row => .none⟩
    | one found status sameId gone =>
      have hkept := withoutExpired_of_expired hkey found status
      rw [sameId] at hkept
      exact .inr ⟨_, _, hkept, withoutExpired_of_absent hkey gone, rfl, fun row => .none⟩

end ExpiredLeftOut

/-! ## The sweep -/

theorem Desk.beside_sweep {s : Session} (ho : s.outages = [])
    {related : List Request → List Request → Prop}
    (h : related s.store.requests (s.store.expireRequests s.now s.now).2.requests) :
    s.Beside related (sweep s).2 := by
  obtain ⟨n, journal, hsweep⟩ := sweep_eq ho
  rw [hsweep]
  exact ⟨⟨rfl, h⟩, rfl, rfl, rfl, rfl, rfl, rfl⟩

theorem sweptRow_of_live {t : Moment} {r : Request} (h : isOverdue t r = false) :
    sweptRow t r = r := by
  simp [sweptRow, h]

namespace Gate

variable {g : Gate} {item : Item} {context : Context} {verdicts : List Verdict} {s : Session}
  {r : Request}

/-- The request that the store holds for a submission. -/
def Holds (item : Item) (context : Context) (r : Request) (s : Session) : Prop :=
  ∃ userId, context.primaryUserId = some userId ∧
    s.store.getRequestFor userId (contentKey item context) = .ok (some r)

/-- Wherever operations lead, a stored request of a user for a key is held for the submissions of this
user for this key. -/
theorem holds_of_mem (hs : Reachable s) {userId : Int} (huser : context.primaryUserId = some userId)
    {stored : Value} (hkey : Column.text (contentKey item context) = .ok stored)
    (hr : r ∈ s.store.requests) (hfor : isRequestFor userId stored r = true) :
    Holds item context (named s.store r) s := by
  have hsome : (s.store.requests.find? (isRequestFor userId stored)).isSome :=
    List.find?_isSome.2 ⟨r, hr, hfor⟩
  obtain ⟨found, hfound⟩ := Option.isSome_iff_exists.1 hsome
  obtain rfl := hs.onePerKey.find?_unique hfound hr hfor
  obtain ⟨user, huserRow⟩ := hs.orderly.user r hr
  obtain ⟨id, hid, -⟩ := ok_of_bind huserRow
  obtain rfl := Column.checked_ok hid
  have hsame : r.userId = userId := congrArg Prod.fst (isRequestFor_subject hfor)
  rw [hsame] at hid
  refine ⟨userId, huser, ?_⟩
  unfold Store.getRequestFor
  rw [hid, hkey]
  exact congrArg (fun found => Except.ok (found.map (named s.store))) hfound

/-- A sweep that marks other requests makes no difference to a submission. -/
theorem process_of_unmarked (hp : g.partners.Browses) (hs : Reachable s) (ho : s.outages = [])
    (hlive : ∀ r, Consults context verdicts → Holds item context r s → isOverdue s.now r = false) :
    (g.process item context verdicts s).1 = (g.process item context verdicts (Desk.sweep s).2).1 ∧
    (g.process item context verdicts s).2.Beside (Swept s.now)
      (g.process item context verdicts (Desk.sweep s).2).2 := by
  -- only a submission of a user that goes by the requests could notice anything
  by_cases hasked : ∃ userId, Consults context verdicts ∧ context.primaryUserId = some userId
  · obtain ⟨userId, hconsults, huser⟩ := hasked
    have haside : SweptAside userId (contentKey item context) s.now s.store.requests
        (s.store.expireRequests s.now s.now).2.requests := by
      refine List.forall₂_map_right_iff.2 (List.forall₂_same.2 fun r hr => ?_)
      refine ⟨r.sweptAt_sweptRow s.now, fun stored hkey hfor => sweptRow_of_live ?_⟩
      exact hlive (named s.store r) hconsults (holds_of_mem hs huser hkey hr hfor)
    obtain ⟨hresult, hbeside⟩ := lockstep_process_beside hp item (fun _ u hu => by
      obtain rfl := Option.some.inj (huser.symm.trans hu)
      exact SweptAside.unnoticed userId _ s.now) s _ (Desk.beside_sweep ho haside)
    exact ⟨hresult, hbeside.mono fun _ _ h => h.swept⟩
  · refine lockstep_process_beside hp item (fun hconsults u hu => ?_) s _
      (Desk.beside_sweep ho (swept_sweep s.now s.store))
    exact absurd ⟨u, hconsults, hu⟩ hasked

/-- Before the sweep, a submission whose request has run out is told to wait for it. -/
theorem process_of_overdue (ho : s.outages = []) (hconsults : Consults context verdicts)
    (hholds : Holds item context r s) (hoverdue : isOverdue s.now r = true) :
    ∃ journal, g.process item context verdicts s = (.ok
      { kind := .pending, request := some r, message := .text "Already awaiting approval" },
      { s with journal }) := by
  obtain ⟨userId, huser, hfound⟩ := hholds
  simp only [isOverdue, Bool.and_eq_true, decide_eq_true_eq] at hoverdue
  have hpending := hoverdue.1
  have hlive : liveRequest context.primaryUserId (contentKey item context) s = (.ok (some r), s) := by
    rw [huser]
    exact liveRequest_of_found ho hfound (by rw [hpending]; decide)
  obtain ⟨primary, p, rest, -, hprocess⟩ := process_of_consults g item hconsults
  rw [hprocess, bind_of_ok hlive, answer_some]
  unfold honour
  rw [hpending]
  exact ⟨_, rfl⟩

/-- After the sweep, it is answered as if the request were not there. -/
theorem process_of_marked (hp : g.partners.Browses) (hs : Reachable s) (ho : s.outages = [])
    (hholds : Holds item context r s) (hoverdue : isOverdue s.now r = true)
    (verdicts : List Verdict) :
    (g.process item context verdicts (Desk.sweep s).2).1
      = (g.process item context verdicts ((Desk.sweep s).2.withoutRequest r.id)).1 ∧
    (g.process item context verdicts (Desk.sweep s).2).2.Beside (WithOrWithout r.id)
      (g.process item context verdicts ((Desk.sweep s).2.withoutRequest r.id)).2 := by
  obtain ⟨userId, huser, hfound⟩ := hholds
  obtain ⟨stored, row, hkey, hrow, rfl⟩ := getRequestFor_ok hfound
  obtain ⟨n, journal, hsweep⟩ := Desk.sweep_eq ho
  have hmarked : (s.store.expireRequests s.now s.now).2.requests.find? (isRequestFor userId stored)
      = some (sweptRow s.now row) := by
    have hfor : isRequestFor userId stored ∘ sweptRow s.now = isRequestFor userId stored := by
      funext r
      exact (r.sweptAt_sweptRow s.now).isRequestFor_eq userId stored
    change (s.store.requests.map (sweptRow s.now)).find? _ = _
    rw [List.find?_map, hfor, hrow]
    rfl
  have hoverdue : isOverdue s.now row = true := hoverdue
  have hexpired : (sweptRow s.now row).status = .expired := by simp [sweptRow, hoverdue]
  -- no other request of the user for the key comes to light when this one is left out
  have honly := hs.onePerKey.evolve (expireRequests_evolve s.now s.now s.store)
  have hgone := honly.find?_without hmarked
  rw [sweptRow_id] at hgone
  rw [hsweep]
  have hwithout := Session.beside_withoutRequest
    (s := { s with store := (s.store.expireRequests s.now s.now).2, journal })
    (ExpiredLeftOut.one hmarked hexpired (sweptRow_id s.now row) hgone)
  obtain ⟨hresult, hbeside⟩ := lockstep_process_beside hp item (fun _ u hu => by
    obtain rfl := Option.some.inj (huser.symm.trans hu)
    exact ExpiredLeftOut.unnoticed hkey row.id) _ _ hwithout
  exact ⟨hresult, hbeside.mono fun _ _ h => h.withOrWithout⟩

/-- Wherever operations lead and nothing in the store is out of order, a sweep right before a submission
makes a difference to it only if the submission goes by the requests and the request held for it is
overdue. If so, the submission is told to wait for that request before the sweep; after the sweep it
is answered as if the request were not there. -/
theorem process_across_sweep {s : Session} (hs : Reachable s) (ho : s.outages = [])
    (service : Service) (item : Item) (context : Context) (verdicts : List Verdict) :
    let process := service.gate.process item context verdicts
    let swept := (Desk.sweep s).2
    ((∀ r, Consults context verdicts → Holds item context r s → isOverdue s.now r = false) →
      (process s).1 = (process swept).1 ∧ (process s).2.Beside (Swept s.now) (process swept).2) ∧
    ∀ r, Consults context verdicts → Holds item context r s → isOverdue s.now r = true →
      (∃ journal, process s = (.ok
        { kind := .pending, request := some r, message := .text "Already awaiting approval" },
        { s with journal })) ∧
      (process swept).1 = (process (swept.withoutRequest r.id)).1 ∧
      (process swept).2.Beside (WithOrWithout r.id) (process (swept.withoutRequest r.id)).2 := by
  intro process swept
  refine ⟨fun hlive => ?_, fun r hconsults hholds hoverdue => ⟨?_, ?_⟩⟩
  · exact process_of_unmarked service.browses_partners hs ho hlive
  · exact process_of_overdue ho hconsults hholds hoverdue
  · exact process_of_marked service.browses_partners hs ho hholds hoverdue verdicts

/-- The day after an item of a user was held back by a rule, with an instance that it may go to. -/
def dayAfter (service : Service) (item : Item) (context : Context) (placement : Placement) :
    Session :=
  Course.run [
    ⟨service, .single (.putInstance { id := 1, type := .text "radarr" })⟩,
    ⟨service, .single (.putUser 1 (.text "Ann") (.bool false))⟩,
    ⟨service, .single (.process item context [.requireApproval {
      reason := .text "Ask first", triggeredBy := .text "router_rule"
      proposed := some placement }])⟩,
    ⟨service, .single (.setClock (.ofDate ⟨738960⟩))⟩] { now := .ofDate ⟨738959⟩ }

/-- For instance, a film that had to wait for an hour is submitted a day later, and another film with
it. -/
theorem process_across_sweep_of_two_films :
    let service : Service := { waitHours := some 1 }
    let context : Context := { contentType := .text "movie", userId := .one 1 }
    let dune : Item := { title := .text "Dune", guids := ["tmdb:438631"] }
    let alien : Item := { title := .text "Alien", guids := ["tmdb:348"] }
    let placement : Placement := { instanceId := 1 }
    let s := dayAfter service dune context placement
    let process := fun item => service.gate.process item context [.route placement]
    let swept := (Desk.sweep s).2
    (process alien s).1 = (process alien swept).1 ∧
      (process alien s).2.Beside (Swept s.now) (process alien swept).2 ∧
      ∃ r journal, r.id = 1 ∧
        process dune s = (.ok
          { kind := .pending, request := some r, message := .text "Already awaiting approval" },
          { s with journal }) ∧
        (process dune swept).1 = (process dune (swept.withoutRequest 1)).1 ∧
        (process dune swept).2.Beside (WithOrWithout 1)
          (process dune (swept.withoutRequest 1)).2 := by
  intro service context dune alien placement s process swept
  have hs : Reachable s := .run (.start rfl) _
  have ho : s.outages = [] := List.isEmpty_iff.1 (by decide +kernel)
  have hconsults : Consults context [.route placement] := by
    refine ⟨rfl, fun v hv => ?_, _, List.mem_cons_self, rfl⟩
    rw [List.mem_singleton.1 hv]
    exact nofun
  have hnone : (s.store.getRequestFor 1 (contentKey alien context)).toOption.join.isNone = true := by
    decide +kernel
  have hsome : (s.store.getRequestFor 1 (contentKey dune context)).toOption.join.any
      (fun r => isOverdue s.now r && r.id = 1) = true := by decide +kernel
  obtain ⟨r, hr, hlapsed⟩ := (Option.any_eq_true _ _).1 hsome
  rw [Bool.and_eq_true, decide_eq_true_eq] at hlapsed
  have hholds : Holds dune context r s := ⟨1, rfl, ok_of_toOption (Option.join_eq_some_iff.1 hr)⟩
  obtain ⟨hsame, hbeside⟩ := (process_across_sweep hs ho service alien context
    [.route placement]).1 fun r _ hholds => by
      obtain ⟨userId, huser, hfound⟩ := hholds
      obtain rfl : 1 = userId := Option.some.inj huser
      rw [hfound] at hnone
      cases hnone
  obtain ⟨⟨journal, hwaits⟩, hfresh, hwithout⟩ := (process_across_sweep hs ho service dune context
    [.route placement]).2 r hconsults hholds hlapsed.1
  rw [hlapsed.2] at hfresh hwithout
  exact ⟨hsame, hbeside, r, journal, hlapsed.2, hwaits, hfresh, hwithout⟩

/-- A request whose time has run out is still waited for as long as no sweep has marked it, although the
film is added to an instance right after the sweep. -/
theorem overdue_request_still_awaited :
    let service : Service := { waitHours := some 1 }
    let item : Item := { title := .text "Dune", guids := ["tmdb:438631"] }
    let context : Context := { contentType := .text "movie", userId := .one 1 }
    let placement : Placement := { instanceId := 1 }
    let s := dayAfter service item context placement
    let submitted := service.gate.process item context [.route placement] s
    let afterSweep := service.gate.process item context [.route placement] (Desk.sweep s).2
    Reachable s ∧ context.syncing = false ∧ s.store.requests.any (isOverdue s.now) = true ∧
      submitted.1.toOption.map Outcome.kind = some .pending ∧ submitted.2.attempts.length = 0 ∧
      afterSweep.1.toOption.map Outcome.kind = some .routed ∧ afterSweep.2.attempts.length = 1 ∧
      submitted.2.store.usage = [] ∧ afterSweep.2.store.usage = [⟨1, "movie", ⟨738960⟩⟩] := by
  intro service item context placement s submitted afterSweep
  have hs : Reachable s := .run (.start rfl) _
  refine ⟨hs, rfl, ?_⟩
  decide +kernel

end Gate

end Watchgate
