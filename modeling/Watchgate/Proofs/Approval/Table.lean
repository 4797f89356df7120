import Watchgate.Proofs.Approval.Keys
import Watchgate.Proofs.Approval.Making
import Watchgate.Proofs.Approval.Outcomes
import Watchgate.Proofs.Approval.Replay
import Watchgate.Proofs.Approval.Waiting

/-!
# The table of requests

Wherever operations lead, the requests can be told apart by their ids and by what they are for, their
users are stored, and each of them waits, undecided, or was settled. A request is made in one go: it
comes in as a row, in the place of an expired one if there is one, or nothing changes.
-/

namespace Watchgate

open Act Calendar Store

/-- What the other operations rely on when they read the requests. -/
structure Store.Consistent (s : Store) : Prop where
  ids : (s.requests.map Request.id).Nodup
  subjects : OnePerKey s.requests
  users : ∀ r ∈ s.requests, ∃ u ∈ s.users, u.id = r.userId
  statuses : ∀ r ∈ s.requests, r.status ∈ Status.all
  undecided : ∀ r ∈ s.requests, r.status = .pending → r.decidedBy = .null ∧ r.notes = .null
  deferred : ∀ r ∈ s.requests, r.verdict.action = .requireApproval

/-! ## Statuses -/

theorem Lawful.row_cases {mayDrop : Request → Prop} {submitted : Option Context}
    {rows rows' : List Request} (h : Lawful mayDrop submitted rows rows') {r' : Request}
    (hr' : r' ∈ rows') :
    (∃ r ∈ rows, r.Evolves r') ∨ (r'.status = .pending ∧ submitted.isSome = true) := by
  rcases h with ⟨kept, hsub, hev, -⟩ | ⟨context, userId, hsubmitted, -, hfiled⟩
  · obtain ⟨r, hr, he⟩ := hev.exists_before hr'
    exact .inl ⟨r, hsub.subset hr, he⟩
  · obtain ⟨row, -, hpending, -, hothers⟩ := hfiled.new_row
    rcases hothers r' hr' with rfl | hr
    · exact .inr ⟨hpending, by rw [hsubmitted]; rfl⟩
    · exact .inl ⟨r', hr, .stays⟩

theorem Request.Evolves.mem_all {r r' : Request} (h : r.Evolves r') (hr : r.status ∈ Status.all) :
    r'.status ∈ Status.all := by
  cases h with
  | stays => exact hr
  | settles _ _ settled => exact List.mem_cons_of_mem .pending settled

theorem Reachable.statuses {s : Session} (h : Reachable s) :
    ∀ r ∈ s.store.requests, r.status ∈ Status.all := by
  refine h.kept (I := fun s => ∀ r ∈ s.store.requests, r.status ∈ Status.all) (fun s hs => ?_)
    fun service e s hs hall r' hr' => ?_
  · rw [hs]
    exact fun r hr => by cases hr
  · rcases ((e.change service s).lawful hs.wellKept).row_cases hr' with ⟨r, hr, he⟩ | ⟨hpending, -⟩
    · exact he.mem_all (hall r hr)
    · rw [hpending]
      decide

/-! ## Verdicts -/

/-- What a request keeps as it evolves, and every submission gives the requests that it makes, holds of
all stored requests. -/
theorem Reachable.each {P : Request → Prop} (hevolves : ∀ {r r'}, r.Evolves r' → P r → P r')
    (hmade : ∀ (service : Service) item context verdicts s,
      ∀ r ∈ (service.gate.process item context verdicts s).2.store.requests,
        r ∈ s.store.requests ∨ P r)
    {s : Session} (h : Reachable s) : ∀ r ∈ s.store.requests, P r := by
  refine h.kept (I := fun s => ∀ r ∈ s.store.requests, P r)
    (fun s hs => ?_) fun service e s hs hall r' hr' => ?_
  · rw [hs]
    exact fun r hr => by cases hr
  · rcases ((e.change service s).lawful hs.wellKept).row_cases hr' with ⟨r, hr, he⟩ | ⟨-, hnew⟩
    · exact hevolves he (hall r hr)
    · cases e with
      | process item context verdicts =>
        have hrows := hmade service item context verdicts s r'
        rcases hx : service.gate.process item context verdicts s with ⟨result, s'⟩
        rw [show Event.perform service (.process item context verdicts) s = _ from map_of_eq _ hx]
          at hr'
        rw [hx] at hrows
        exact (hrows hr').elim (hall r') id
      | _ => cases hnew

/-- What holds of every verdict that defers, as it reads back, holds of all stored verdicts. -/
theorem Reachable.verdicts {P : Verdict → Prop}
    (hP : ∀ {primary p v}, Gate.Defers primary p v → P (recoded v)) {s : Session}
    (h : Reachable s) : ∀ r ∈ s.store.requests, P r.verdict := by
  refine h.each (P := fun r => P r.verdict) (fun he hr => he.matter.verdict ▸ hr)
    fun service item context verdicts s r hr => ?_
  rcases service.gate.makes_process service.quiet_partners item context verdicts s r hr with
    hold | ⟨_, _, _, v, -, hdefers, hstored⟩
  · exact .inl hold
  · rw [hstored]
    exact .inr (hP hdefers)

theorem Reachable.deferred {s : Session} (h : Reachable s) :
    ∀ r ∈ s.store.requests, r.verdict.action = .requireApproval :=
  h.verdicts (P := fun v => v.action = .requireApproval)
    fun {_ _ v} hv => (recoded_action v).trans hv.action

/-! ## Making a request -/

/-- What it comes to that a request is made: the request that is told is the one row that the table
gains, or there was a failure and every table is as it was. -/
inductive Act.Creation (n : NewRequest) (s : Session) :
    Except Failure Request × Session → Prop where
  | refused {e : Failure} {s' : Session} (same : s.SameRecords s') : Creation n s (.error e, s')
  | made {user : User} {request row : Request} {rows : List Request}
      (known : s.store.getUser n.userId = .ok (some user))
      (told : request = n.toRequest row.id user.name s.now)
      (stored : requestRow request = .ok row) (gains : Gains s.store.requests rows row) :
      Creation n s (.ok request, { s with store := { s.store with requests := rows } })

theorem Store.addRequest_told {n : NewRequest} {now : Moment} {s s' : Store} {request : Request}
    (h : s.addRequest n now = .ok (request, s')) :
    ∃ user row kept, s.getUser n.userId = .ok (some user) ∧
      request = n.toRequest row.id user.name now ∧ requestRow request = .ok row ∧
      s'.requests = kept ++ [row] := by
  obtain ⟨user, hu, h⟩ := ok_of_bind h
  obtain ⟨_, -, h⟩ := ok_of_bind h
  obtain ⟨kept, -, h⟩ := ok_of_bind h
  obtain ⟨row, hrow, h⟩ := ok_of_bind h
  obtain ⟨rfl, rfl⟩ := Prod.mk.inj (pure_ok h)
  have hid : row.id = nextId kept := (requestRow_ok hrow).id
  obtain ⟨found, hfound, hu⟩ := ok_of_bind hu
  cases found with
  | none => cases hu
  | some u =>
    obtain rfl := pure_ok hu
    exact ⟨u, row, kept, hfound, by rw [hid], hrow, rfl⟩

theorem Act.addRequest_creation (n : NewRequest) (s : Session) :
    Creation n s (addRequest n s) := by
  unfold addRequest
  rcases write_cases .addRequest none (Store.addRequest n s.now) s with
    ⟨request, store, hadd, hw⟩ | ⟨e, s', hw, hs⟩
  · rw [hw]
    obtain ⟨row, hgains, -, -, hstore⟩ := gains_of_addRequest hadd
    obtain ⟨user, row', kept', huser, htold, hrow', hlast⟩ := addRequest_told hadd
    obtain rfl : row = row' := by
      obtain ⟨kept, -, -, hrows⟩ := hgains
      exact (List.cons.inj (List.append_inj_right' (hrows.symm.trans hlast) rfl)).1
    rw [hstore]
    exact .made huser htold hrow' hgains
  · rw [hw]
    exact .refused hs

/-- Wherever operations lead the table of requests is consistent, and in every session a request is
made as a whole or not at all. -/
theorem request_table_consistent :
    (∀ s, Reachable s → s.store.Consistent) ∧ ∀ n s, Creation n s (addRequest n s) := by
  refine ⟨fun s hs => ?_, addRequest_creation⟩
  exact {
    ids := hs.wellKept.distinct
    subjects := hs.onePerKey
    users := fun r hr => (knows_iff.1 (hs.orderly.user r hr)).2
    statuses := hs.statuses
    undecided := hs.orderly.undecided
    deferred := hs.deferred }

/-- For instance, where a request has expired, one that names an unknown rule does not take its place,
and one that names none does. -/
theorem request_table_consistent_after_expiry :
    let service : Service := { waitHours := some 1 }
    let s := Course.run [
      ⟨service, .single (.putUser 1 (.text "Ann") (.bool true))⟩,
      ⟨service, .single (.film 1 "Dune" ["tmdb:438631"])⟩,
      ⟨service, .single (.setClock (.ofDate ⟨738960⟩))⟩,
      ⟨service, .single .sweep⟩] { now := .ofDate ⟨738959⟩ }
    let n : NewRequest := {
      userId := 1, contentType := .text "movie", title := .text "Dune"
      key := .text "tmdb:438631", guids := [], verdict := .route { instanceId := 2 }
      triggeredBy := .text "manual_flag" }
    let unruled := { n with ruleId := .int 5 }
    s.store.Consistent ∧ s.store.requests.map Request.status = [.expired] ∧
      Creation unruled s (addRequest unruled s) ∧
      (addRequest unruled s).2.store.requests.map Request.status = [.expired] ∧
      Creation n s (addRequest n s) ∧
      (addRequest n s).2.store.requests.map Request.status = [.pending] := by
  intro service s n unruled
  have hs : Reachable s := .run (.start rfl) _
  refine ⟨request_table_consistent.1 s hs, ?_, request_table_consistent.2 unruled s, ?_,
    request_table_consistent.2 n s, ?_⟩
  · decide +kernel
  · decide +kernel
  · decide +kernel

end Watchgate
