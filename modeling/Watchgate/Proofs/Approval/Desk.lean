import Watchgate.Proofs.Approval.Partners
import Watchgate.Proofs.Quota.Status
import Watchgate.Proofs.Store.RequestTable
import Watchgate.Approval.Desk

/-!
# What a decision does to the tables

Approving and rejecting look at the request first and move it in one step, so that a decision either
changes nothing, or moves the request out of `pending`. Only a move to `approved` is followed by an
attempt to add content, and by a single one; only an attempt that an instance accepted is counted.
The statements hold for all partners that are quiet.
-/

namespace Watchgate.Desk

open Act Calendar

theorem quiet_get (id : Int) : (get id).Quiet := by
  refine quiet_bind (quiet_read _ _ _) fun found => ?_
  cases found with
  | some r => exact quiet_pure r
  | none => exact quiet_throw _

theorem get_returns {id : Int} {s s' : Session} {r : Request} (h : get id s = (.ok r, s')) :
    s.store.getRequest id = .ok (some r) ∧ s' = s := by
  obtain ⟨found, s₁, hfound, h⟩ := bind_returns h
  obtain ⟨hf, hs⟩ := read_returns hfound
  subst s₁
  cases found with
  | some r' =>
    obtain ⟨hr, hs⟩ := pure_returns h
    exact ⟨hr ▸ hf, hs⟩
  | none => cases h

/-- Where nothing is out of order a stored request is got. -/
theorem get_of_ok {id : Int} {s : Session} {r : Request} (ho : s.outages = [])
    (h : s.store.getRequest id = .ok (some r)) : get id s = (.ok r, s) :=
  bind_of_ok (read_of_ok ho h)

/-- The result tells of nothing that was carried out. -/
def Idle (result : Except Failure Decision) : Prop := ∀ d, result = .ok d → d.executed = false

theorem idle_error (e : Failure) : Idle (.error e) := fun d hd => by cases hd

theorem idle_ok {d : Decision} (h : d.executed = false) : Idle (.ok d) := fun d' hd => by
  rw [← Except.ok.inj hd, h]

/-- What a decision leads to, an approval or a rejection: the result, and the session after it. -/
inductive Effect (p : Partners) (id : Int) (isApproval : Bool) (s : Session) :
    Except Failure Decision × Session → Prop where
  | kept {result : Except Failure Decision} {s' : Session} (same : s.SameRecords s')
      (idle : Idle result) : Effect p id isApproval s (result, s')
  /-- The request is rejected, or marked as expired. -/
  | declined {result : Except Failure Decision} {s' : Session} {t : Store.Transition} {b : Bool}
      {store : Store} (status : t.status = .rejected ∨ t.status = .expired)
      (moved : s.store.transition id t s.now = .ok (b, store))
      (same : ({ s with store } : Session).SameRecords s') (idle : Idle result) :
      Effect p id isApproval s (result, s')
  /-- The request is approved, but it could not be read again or has no placement. -/
  | unplaced {result : Except Failure Decision} {s' : Session} {t : Store.Transition}
      {store : Store} (approves : isApproval = true) (status : t.status = .approved)
      (moved : s.store.transition id t s.now = .ok (true, store))
      (same : ({ s with store } : Session).SameRecords s') (idle : Idle result)
      (cause : s.outages ≠ [] ∨ ∃ r, store.getRequest id = .ok (some r) ∧
        r.verdict.proposed = none) :
      Effect p id isApproval s (result, s')
  /-- The request is approved and its placement tried, without anything to count. -/
  | tried {result : Except Failure Decision} {s' : Session} {t : Store.Transition} {store : Store}
      {r : Request} {placement : Placement} {accepted : Option Bool}
      (approves : isApproval = true) (status : t.status = .approved)
      (moved : s.store.transition id t s.now = .ok (true, store))
      (found : store.getRequest id = .ok (some r)) (placed : r.verdict.proposed = some placement)
      (same : ({ s with store } : Session).SameTables s')
      (attempts : s'.attempts = s.attempts ++ [⟨itemOf r, placement, accepted⟩])
      (idle : Idle result) : Effect p id isApproval s (result, s')
  /-- The request is approved, its placement accepted, and its user counted. -/
  | counted {result : Except Failure Decision} {s' : Session} {t : Store.Transition}
      {store store' : Store} {r : Request} {placement : Placement} {accepted : Option Bool}
      (approves : isApproval = true) (status : t.status = .approved)
      (moved : s.store.transition id t s.now = .ok (true, store))
      (found : store.getRequest id = .ok (some r)) (placed : r.verdict.proposed = some placement)
      (written : store.putUsage r.userId r.contentType s.now.date = .ok ((), store'))
      (same : ({ s with store := store' } : Session).SameTables s')
      (attempts : s'.attempts = s.attempts ++ [⟨itemOf r, placement, accepted⟩])
      (told : result = .ok { request := r, changed := true, executed := true } ∨
        ∃ s₁ e, s.SameTables { s₁ with store := s.store } ∧ (p.tellResolved r s₁).1 = .error e) :
      Effect p id isApproval s (result, s')

namespace Effect

variable {p : Partners} {id : Int} {isApproval : Bool}

theorem of_same {s s₁ : Session} {x : Except Failure Decision × Session} (h : s.SameRecords s₁)
    (hx : Effect p id isApproval s₁ x) : Effect p id isApproval s x := by
  have htables : ∀ {store : Store} {s' : Session}, ({ s₁ with store } : Session).SameTables s' →
      ({ s with store } : Session).SameTables s' := fun hs =>
    ⟨hs.store, hs.now.trans h.now, hs.outages.trans h.outages, h.network.trans hs.network⟩
  have hrecords : ∀ {store : Store} {s' : Session},
      ({ s₁ with store } : Session).SameRecords s' → ({ s with store } : Session).SameRecords s' :=
    fun hs => ⟨htables hs.toSameTables, hs.attempts.trans h.attempts⟩
  cases hx with
  | kept same idle => exact .kept (h.trans same) idle
  | declined status moved same idle =>
    rw [h.store, h.now] at moved
    exact .declined status moved (hrecords same) idle
  | unplaced approves status moved same idle cause =>
    rw [h.store, h.now] at moved
    rw [h.outages] at cause
    exact .unplaced approves status moved (hrecords same) idle cause
  | tried approves status moved found placed same attempts idle =>
    rw [h.store, h.now] at moved
    rw [h.attempts] at attempts
    exact .tried approves status moved found placed (htables same) attempts idle
  | counted approves status moved found placed written same attempts told =>
    rw [h.store, h.now] at moved
    rw [h.now] at written
    rw [h.attempts] at attempts
    refine .counted approves status moved found placed written (htables same) attempts ?_
    rcases told with told | ⟨s₂, e, hs₂, he⟩
    · exact .inl told
    · refine .inr ⟨s₂, e, ⟨rfl, hs₂.now.trans h.now, hs₂.outages.trans h.outages, ?_⟩, he⟩
      exact h.network.trans hs₂.network

theorem of_quiet {x : Act Decision} {s : Session} (hx : x.Quiet) (hidle : Idle (x s).1) :
    Effect p id isApproval s (x s) := .kept (hx s) hidle

/-- A quiet act that does not fail may come first. -/
theorem of_bind {α : Type} {x : Act α} {f : α → Act Decision} {s : Session} (hx : x.Quiet)
    (hf : ∀ a s', x s = (.ok a, s') → Effect p id isApproval s' (f a s')) :
    Effect p id isApproval s ((x >>= f) s) := by
  rcases bind_cases x f s with ⟨a, s', h, hb⟩ | ⟨e, s', h, hb⟩
  · rw [hb]
    exact of_same (hx.of_eq h) (hf a s' h)
  · rw [hb]
    exact .kept (hx.of_eq h) (idle_error e)

end Effect

/-! ## The common part of both decisions -/

theorem approve_eq (p : Partners) (id : Int) (decidedBy notes : Value) :
    approve p id decidedBy notes = decideBy id
      (fun now => { status := .approved, decidedBy, notes, unexpiredAt := some now })
      (do
        let approved ← get id
        let executed ← execute p approved
        announce p
          ("Approval request " ++ Number.integerText id ++ " approved by " ++ decidedBy.display)
          { request := approved, changed := true, executed }) := rfl

theorem reject_eq (p : Partners) (id : Int) (decidedBy reason : Value) :
    reject p id decidedBy reason = decideBy id
      (fun now => { status := .rejected, decidedBy, notes := reason, unexpiredAt := some now })
      (do
        let rejected ← get id
        announce p
          ("Approval request " ++ Number.integerText id ++ " rejected by " ++ decidedBy.display)
          { request := rejected, changed := true }) := rfl

/-- A request that could not be moved is left alone or marked as expired. -/
theorem expireIfStale_effect (p : Partners) (id : Int) (isApproval : Bool) (now : Moment)
    (s : Session) :
    Effect p id isApproval s ((expireIfStale id now >>= fun request =>
      pure { request, changed := false : Decision }) s) := by
  unfold expireIfStale
  rw [bind_assoc]
  refine Effect.of_bind (quiet_get id) fun current s₁ _ => ?_
  split
  · rw [bind_assoc]
    have hquiet : (get id >>= fun request =>
        pure { request, changed := false : Decision }).Quiet :=
      quiet_bind (quiet_get id) fun _ => quiet_pure _
    have hidle : ∀ s, Idle ((get id >>= fun request =>
        pure { request, changed := false : Decision }) s).1 := by
      intro s d hd
      obtain ⟨r, s', -, h⟩ := bind_returns (Prod.ext hd rfl)
      rw [← (pure_returns h).1]
    rcases write_cases .transition (some (.int id))
      (Store.transition id { status := .expired } s₁.now) s₁ with
      ⟨b, store, ht, hw⟩ | ⟨e, s₂, hw, hs⟩
    · rw [bind_of_ok (x := Act.transition id { status := .expired }) hw]
      exact .declined (.inr rfl) ht (hquiet _) (hidle _)
    · rw [bind_of_error (x := Act.transition id { status := .expired }) hw]
      exact .kept hs (idle_error e)
  · exact Effect.of_quiet (quiet_bind (quiet_pure _) fun _ => quiet_pure _) (idle_ok rfl)

/-- A decision has an effect of those listed if what follows the move has. -/
theorem decideBy_effect {p : Partners} {id : Int} {isApproval : Bool}
    {t : Moment → Store.Transition} {rest : Act Decision}
    (hrest : ∀ {s : Session} {store : Store},
      s.store.transition id (t s.now) s.now = .ok (true, store) →
        Effect p id isApproval s (rest { s with store })) (s : Session) :
    Effect p id isApproval s (decideBy id t rest s) := by
  refine Effect.of_bind (quiet_get id) fun request s₁ _ => ?_
  split
  · exact Effect.of_quiet (quiet_pure _) (idle_ok rfl)
  · refine Effect.of_bind (quiet_ask _) fun now s₂ hnow => ?_
    obtain ⟨hn, hs⟩ := ask_returns hnow
    subst s₂ now
    rcases write_cases .transition (some (.int id)) (Store.transition id (t s₁.now) s₁.now) s₁ with
      ⟨b, store, ht, hw⟩ | ⟨e, s₂, hw, hs⟩
    · rw [bind_of_ok (x := Act.transition id (t s₁.now)) hw]
      cases b with
      | true => exact hrest ht
      | false =>
        have hsame := Store.transition_none ht
        subst hsame
        exact expireIfStale_effect p id isApproval s₁.now s₁
    · rw [bind_of_error (x := Act.transition id (t s₁.now)) hw]
      exact .kept hs (idle_error e)

/-! ## Approving -/

theorem countUse_of_knows {r : Request} {contentType : String} {s : Session} (ho : s.outages = [])
    (h : s.store.Knows r.userId) (htext : r.contentType = .text contentType) :
    countUse r s = (.ok (), { s with store := { s.store with
      usage := s.store.usage ++ [⟨r.userId, contentType, s.now.date⟩] } }) := by
  unfold countUse
  rw [htext]
  exact Quota.recordUsage_of_knows ho h contentType

/-- Carrying out a request makes no attempt without a placement, and one attempt with it; the user
is counted exactly if it succeeds. -/
theorem execute_cases {p : Partners} (hp : p.Quiet) (r : Request) (s : Session) :
    (r.verdict.proposed = none ∧ ∃ s', execute p r s = (.ok false, s') ∧ s.SameRecords s') ∨
    ∃ placement accepted, r.verdict.proposed = some placement ∧
      ((∃ result s', execute p r s = (result, s') ∧ result ≠ .ok true ∧ s.SameTables s' ∧
          s'.attempts = s.attempts ++ [⟨itemOf r, placement, accepted⟩]) ∨
        ∃ store s', execute p r s = (.ok true, s') ∧
          s.store.putUsage r.userId r.contentType s.now.date = .ok ((), store) ∧
          ({ s with store } : Session).SameTables s' ∧
          s'.attempts = s.attempts ++ [⟨itemOf r, placement, accepted⟩]) := by
  unfold execute carryOut
  cases hproposed : r.verdict.proposed with
  | none => exact .inl ⟨rfl, _, rfl, s.sameRecords_journal _⟩
  | some placement =>
    refine .inr ⟨placement, (p.attempt (itemOf r) placement s).1.toOption, rfl, ?_⟩
    have hattempt := Partners.attempted hp (itemOf r) placement s
    rcases h : p.attempt (itemOf r) placement s with ⟨e | accepted, s₁⟩
    · rw [h] at hattempt
      refine .inl ⟨.error e, s₁, bind_of_error h, fun he => (by cases he), ?_, hattempt.attempts⟩
      exact hattempt.toSameTables
    · rw [h] at hattempt
      simp only [bind_of_ok h]
      cases accepted with
      | false =>
        exact .inl ⟨.ok false, s₁, rfl, fun he => (by cases he), hattempt.toSameTables,
          hattempt.attempts⟩
      | true =>
        rcases Quota.recordUsage_cases r.userId r.contentType s₁ with
          ⟨store, hput, hr⟩ | ⟨e, s₂, hr, hs⟩
        · rw [hattempt.store, hattempt.now] at hput
          refine .inr ⟨store, { s₁ with store }, bind_of_ok hr, hput, ?_, hattempt.attempts⟩
          exact ⟨rfl, hattempt.now, hattempt.outages, hattempt.network⟩
        · refine .inl ⟨.error e, s₂, bind_of_error hr, fun he => (by cases he), ?_, ?_⟩
          · exact hattempt.toSameTables.trans hs.toSameTables
          · exact hs.attempts.trans hattempt.attempts

theorem quiet_announce {p : Partners} (hp : p.Quiet) (text : String) (d : Decision) :
    (announce p text d).Quiet :=
  quiet_bind (quiet_note _ _) fun _ => quiet_bind (hp.tellResolved _) fun _ => quiet_pure _

theorem announce_cases (p : Partners) (text : String) (d : Decision) (s : Session) :
    (announce p text d s).1 = .ok d ∨
      ∃ s₁ e, s.SameRecords s₁ ∧ (announce p text d s).1 = .error e ∧
        (p.tellResolved d.request s₁).1 = .error e := by
  let s₁ : Session := { s with journal := s.journal ++ [⟨.info, text⟩] }
  have hb : announce p text d s = (p.tellResolved d.request >>= fun _ => pure d) s₁ := rfl
  rw [hb]
  rcases bind_cases (p.tellResolved d.request) (fun _ => pure d) s₁ with
    ⟨_, s', h, hr⟩ | ⟨e, s', h, hr⟩
  · rw [hr]
    exact .inl rfl
  · rw [hr]
    exact .inr ⟨s₁, e, s.sameRecords_journal _, rfl, by rw [h]⟩

theorem idle_announce (p : Partners) (text : String) {d : Decision} (hd : d.executed = false)
    (s : Session) : Idle (announce p text d s).1 := by
  rcases announce_cases p text d s with h | ⟨_, e, -, h, -⟩
  · exact h ▸ idle_ok hd
  · exact h ▸ idle_error e

/-- Approving changes nothing, or moves the request and then tries its placement once. -/
theorem approve_effect {p : Partners} (hp : p.Quiet) (id : Int) (decidedBy notes : Value)
    (s : Session) : Effect p id true s (approve p id decidedBy notes s) := by
  rw [approve_eq]
  refine decideBy_effect (fun {s store} hmoved => ?_) s
  let text := "Approval request " ++ Number.integerText id ++ " approved by " ++ decidedBy.display
  change Effect p id true s ((get id >>= fun approved => execute p approved >>= fun executed =>
    announce p text { request := approved, changed := true, executed }) { s with store })
  rcases bind_cases (get id) (fun approved => execute p approved >>= fun executed =>
    announce p text { request := approved, changed := true, executed }) { s with store } with
    ⟨r, s₁, hget, hb⟩ | ⟨e, s₁, hget, hb⟩
  · rw [hb]
    obtain ⟨hfound, hs⟩ := get_returns hget
    subst s₁
    rcases execute_cases hp r { s with store } with
      ⟨hnone, s', h, hs⟩ | ⟨placement, accepted, hplaced, ⟨result, s', h, hne, hs, ha⟩ |
        ⟨store', s', h, hput, hs, ha⟩⟩
    · rw [bind_of_ok h]
      exact .unplaced rfl rfl hmoved (hs.trans (quiet_announce hp _ _ _))
        (idle_announce p text rfl s') (.inr ⟨r, hfound, hnone⟩)
    · cases result with
      | error e =>
        rw [bind_of_error h]
        exact .tried rfl rfl hmoved hfound hplaced hs ha (idle_error e)
      | ok executed =>
        have hx : executed = false := by
          cases executed with
          | false => rfl
          | true => exact absurd rfl hne
        have hquiet := quiet_announce hp text { request := r, changed := true, executed } s'
        rw [bind_of_ok h]
        exact .tried rfl rfl hmoved hfound hplaced (hs.trans hquiet.toSameTables)
          (hquiet.attempts.trans ha) (idle_announce p text hx s')
    · have hquiet := quiet_announce hp text { request := r, changed := true, executed := true } s'
      rw [bind_of_ok h]
      refine .counted rfl rfl hmoved hfound hplaced hput (hs.trans hquiet.toSameTables)
        (hquiet.attempts.trans ha) ?_
      rcases announce_cases p text { request := r, changed := true, executed := true } s' with
        hd | ⟨s₁, e, hs₁, -, he⟩
      · exact .inl hd
      · have hboth := hs.trans hs₁.toSameTables
        exact .inr ⟨s₁, e, ⟨rfl, hboth.now, hboth.outages, hboth.network⟩, he⟩
  · -- reading the moved request again can only fail where something is out of order
    rw [hb]
    have hs := (quiet_get id).of_eq hget
    refine .unplaced rfl rfl hmoved hs (idle_error e) (.inl fun ho => ?_)
    obtain ⟨r, hr⟩ := Store.getRequest_of_transition hmoved
    cases (get_of_ok (s := { s with store }) ho hr).symm.trans hget

/-- Rejecting changes nothing or moves the request; it never tries a placement. -/
theorem reject_effect {p : Partners} (hp : p.Quiet) (id : Int) (decidedBy reason : Value)
    (s : Session) : Effect p id false s (reject p id decidedBy reason s) := by
  rw [reject_eq]
  refine decideBy_effect (fun {s store} hmoved => ?_) s
  let text := "Approval request " ++ Number.integerText id ++ " rejected by " ++ decidedBy.display
  change Effect p id false s ((get id >>= fun rejected =>
    announce p text { request := rejected, changed := true }) { s with store })
  rcases bind_cases (get id) (fun rejected =>
    announce p text { request := rejected, changed := true }) { s with store } with
    ⟨r, s₁, hget, hb⟩ | ⟨e, s₁, hget, hb⟩
  · rw [hb]
    obtain ⟨-, hs⟩ := get_returns hget
    subst s₁
    exact .declined (.inl rfl) hmoved (quiet_announce hp _ _ _) (idle_announce p text rfl _)
  · rw [hb]
    exact .declined (.inl rfl) hmoved ((quiet_get id).of_eq hget) (idle_error e)

end Watchgate.Desk
