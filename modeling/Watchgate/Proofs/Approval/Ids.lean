import Watchgate.Proofs.Approval.Table

/-!
# Ids that were given up

A new request gets the id after the highest one that is present, so the id of a request that is gone
comes back exactly when the highest one left lies right below it. An id is safe as long as new
requests are made beside one with a higher id only; until then it names nothing, and nothing can be
decided under it.
-/

namespace Watchgate

open Act Calendar Store

/-- No request has the id. -/
def Absent (id : Int) (rows : List Request) : Prop := ∀ r ∈ rows, r.id ≠ id

/-! ## One step -/

theorem Event.Change.made {service : Service} {s : Session} {e : Event}
    {x : Except Failure Event.Answer × Session} (h : Event.Change service s e x)
    (hk : WellKept s.store.requests) {r : Request} (hpending : r.status = .pending)
    (hr : r ∈ x.2.store.requests) (hnew : r ∉ s.store.requests) :
    ∃ kept, Replaces r.userId r.key s.store.requests kept ∧ x.2.store.requests = kept ++ [r] ∧
      r.id = nextId kept := by
  rcases (h.lawful hk).row_cases hr with ⟨r₀, hr₀, he⟩ | ⟨-, hsubmitted⟩
  · exact absurd (he.eq_of_pending hpending ▸ hr₀) hnew
  · cases h with
    | processed effect =>
      rcases effect.requests_cases with hsame | ⟨_, _, _, _, _, _, request, _, -, -, -, added, hrows⟩
      · rw [hsame] at hr
        exact absurd hr hnew
      · obtain ⟨kept, row, hkept, hrow, rfl, hrequest⟩ := addRequest_ok added
        have hlast : r = row := by
          rw [hrows] at hr
          rcases List.mem_append.1 hr with hr | hr
          · exact absurd (hkept.sublist.subset hr) hnew
          · exact List.mem_singleton.1 hr
        subst hlast
        have huser : r.userId = request.userId := hrow.userId
        have hid : r.id = request.id := hrow.id
        rw [hrequest] at huser hid
        exact ⟨kept, huser ▸ hkept, hrows, hid⟩
    | idle same =>
      rw [same.requests] at hr
      exact absurd hr hnew
    | _ => cases hsubmitted

namespace Step

variable {st : Step} {r : Request} {n : Int}

/-- Only a submission makes a request. -/
theorem Sound.submitted (h : st.Sound) (hr : st.Makes r) : st.event.submitted?.isSome = true := by
  obtain ⟨service, hchange⟩ := h.change
  rcases (hchange.lawful h.wellKept).row_cases hr.2.1 with ⟨r₀, hr₀, he⟩ | ⟨-, hsubmitted⟩
  · exact absurd (he.eq_of_pending hr.1 ▸ hr₀) hr.2.2
  · exact hsubmitted

/-- A request that is made gets the id after the highest one of those beside which it is made. -/
theorem Sound.made (h : st.Sound) (hr : st.Makes r) :
    ∃ kept, Replaces r.userId r.key st.before.store.requests kept ∧
      st.after.store.requests = kept ++ [r] ∧ r.id = nextId kept := by
  obtain ⟨service, hchange⟩ := h.change
  exact hchange.made h.wellKept hr.1 hr.2.1 hr.2.2

theorem Sound.lt_of_made (h : st.Sound) (hr : st.Makes r) {r' : Request}
    (hbefore : r' ∈ st.before.store.requests) (hafter : r' ∈ st.after.store.requests) :
    r'.id < r.id := by
  obtain ⟨kept, -, hrows, hid⟩ := h.made hr
  rw [hrows] at hafter
  rw [hid]
  rcases List.mem_append.1 hafter with hkept | hlast
  · exact lt_nextId hkept
  · obtain rfl := List.mem_singleton.1 hlast
    exact absurd hbefore hr.2.2

/-- Where no request is made under an id, the id stays absent. -/
theorem Sound.absent (h : st.Sound) (hmakes : ∀ r, st.Makes r → r.id ≠ n)
    (hn : Absent n st.before.store.requests) : Absent n st.after.store.requests := by
  intro r' hr' hid
  obtain ⟨r, hr, hid, -⟩ := h.follows hmakes r' hr' hid
  exact hn r hr hid

end Step

/-! ## Decisions -/

theorem Desk.get_of_absent {id : Int} {s : Session} (h : Absent id s.store.requests) :
    ∃ e s', get id s = (.error e, s') ∧ s.SameRecords s' := by
  rcases hx : get id s with ⟨e | r, s'⟩
  · exact ⟨e, s', rfl, (quiet_get id).of_eq hx⟩
  · obtain ⟨hfound, -⟩ := get_returns hx
    obtain ⟨row, hrow, hid, -⟩ := getRequest_ok hfound
    exact absurd hid (h row hrow)

/-- Under an id that is absent nothing can be decided. -/
theorem Event.refused_of_absent (service : Service) {e : Event} {id : Int}
    (hd : e.decided? = some id) {s : Session} (h : Absent id s.store.requests) :
    ∃ failure s', e.perform service s = (.error failure, s') ∧ s.SameRecords s' := by
  obtain ⟨failure, s', hget, hs⟩ := Desk.get_of_absent h
  cases e with
  | approve id' decidedBy notes =>
    obtain rfl : id' = id := Option.some.inj hd
    have hfails : Desk.approve service.partners id' decidedBy notes s = (.error failure, s') :=
      bind_of_error hget
    exact ⟨failure, s', map_of_eq _ hfails, hs⟩
  | reject id' decidedBy reason =>
    obtain rfl : id' = id := Option.some.inj hd
    have hfails : Desk.reject service.partners id' decidedBy reason s = (.error failure, s') :=
      bind_of_error hget
    exact ⟨failure, s', map_of_eq _ hfails, hs⟩
  | _ => cases hd

/-! ## Runs -/

theorem Linked.absent {s s' : Session} {sts : List Step} {n : Int} (h : Linked s sts s')
    (hsound : ∀ st ∈ sts, st.Sound) (hmakes : ∀ st ∈ sts, ∀ r, st.Makes r → r.id ≠ n)
    (hn : Absent n s.store.requests) :
    Absent n s'.store.requests ∧
      ∀ st ∈ sts, Absent n st.before.store.requests ∧ Absent n st.after.store.requests := by
  induction h with
  | nil => exact ⟨hn, fun st hst => by cases hst⟩
  | @cons s _ st sts happens _ ih =>
    rw [← happens.before_eq] at hn
    have hfirst := (hsound st List.mem_cons_self).absent (hmakes st List.mem_cons_self) hn
    obtain ⟨hlast, hrest⟩ := ih (fun st hst => hsound st (List.mem_cons_of_mem _ hst))
      (fun st hst => hmakes st (List.mem_cons_of_mem _ hst)) hfirst
    refine ⟨hlast, fun st' hst' => ?_⟩
    rcases List.mem_cons.1 hst' with rfl | hst'
    · exact ⟨hn, hfirst⟩
    · exact hrest st' hst'

/-- Along every run a new request gets the id after the highest one of those beside which it is made.
An id that no request has stays so as long as each new request is made beside one with a higher id,
and a decision under it fails and changes nothing. -/
theorem absent_id_stays_absent {s s' : Session} {sts : List Step} (hs : Reachable s)
    (h : Linked s sts s') :
    (∀ st ∈ sts, ∀ r, st.Makes r → ∃ kept,
      Replaces r.userId r.key st.before.store.requests kept ∧
      st.after.store.requests = kept ++ [r] ∧ r.id = nextId kept) ∧
    ∀ n, Absent n s.store.requests →
      (∀ st ∈ sts, ∀ r, st.Makes r →
        ∃ r' ∈ st.before.store.requests, r' ∈ st.after.store.requests ∧ n < r'.id) →
      Absent n s'.store.requests ∧ ∀ st ∈ sts, Absent n st.after.store.requests ∧
        (st.event.decided? = some n →
          (∃ failure, st.result = .error failure) ∧ st.before.SameRecords st.after) := by
  have hsound := (h.sound hs.wellKept).2
  refine ⟨fun st hst r hr => (hsound st hst).made hr, fun n hn hbeside => ?_⟩
  have hmakes : ∀ st ∈ sts, ∀ r, st.Makes r → r.id ≠ n := fun st hst r hr => by
    obtain ⟨r', hbefore, hafter, hlt⟩ := hbeside st hst r hr
    have := (hsound st hst).lt_of_made hr hbefore hafter
    omega
  obtain ⟨hlast, hsteps⟩ := h.absent hsound hmakes hn
  refine ⟨hlast, fun st hst => ⟨(hsteps st hst).2, fun hd => ?_⟩⟩
  obtain ⟨service, he⟩ := (h.happens hst).perform_eq
  obtain ⟨failure, after, hfails, hsame⟩ :=
    Event.refused_of_absent service hd (hsteps st hst).1
  obtain ⟨hresult, rfl⟩ := Prod.mk.inj (he.symm.trans hfails)
  exact ⟨⟨failure, hresult⟩, hsame⟩

/-- For instance, of two requests the first is deleted and another one made: the id of the first names
nothing, and approving it fails. -/
theorem absent_id_stays_absent_of_first :
    let service : Service := {}
    let s := Course.run [
      ⟨service, .single (.putUser 1 (.text "Ann") (.bool true))⟩,
      ⟨service, .single (.film 1 "Dune" [])⟩,
      ⟨service, .single (.film 1 "Alien" [])⟩,
      ⟨service, .single (.delete 1)⟩] { now := .ofDate ⟨738959⟩ }
    let submitted := Event.film 1 "Heat" []
    let made := submitted.step service s
    let approval := Event.approve 1 .null .null
    let approved := approval.step service made.after
    made.after.store.requests.map Request.id = [2, 3] ∧
      Absent 1 approved.after.store.requests ∧ (∃ failure, approved.result = .error failure) ∧
      approved.before.SameRecords approved.after := by
  intro service s submitted made approval approved
  have hs : Reachable s := .run (.start rfl) _
  have hlinked : Linked s [made, approved] approved.after :=
    .cons ⟨service, rfl⟩ (.cons ⟨service, rfl⟩ (.nil approved.after))
  have hsound := (hlinked.sound hs.wellKept).2
  obtain ⟨alien, hrows, halien⟩ : ∃ r, s.store.requests = [r] ∧ (r.id, r.status) = (2, .pending) :=
    List.map_eq_singleton_iff.1 (by decide +kernel)
  obtain ⟨hid, hpending⟩ := Prod.mk.inj halien
  have habsent : Absent 1 s.store.requests := by
    intro r hr
    rw [hrows] at hr
    rw [List.mem_singleton.1 hr, hid]
    decide
  have hbeside : ∀ st ∈ [made, approved], ∀ r, st.Makes r →
      ∃ r' ∈ st.before.store.requests, r' ∈ st.after.store.requests ∧ 1 < r'.id := by
    intro st hst r hr
    have hmade := hsound st hst
    rcases List.mem_cons.1 hst with rfl | hst
    · obtain ⟨kept, hkept, hafter, -⟩ := hmade.made hr
      have hbefore : made.before.store.requests = [alien] := hrows
      rw [hbefore] at hkept ⊢
      cases hkept with
      | none => exact ⟨alien, by simp, by rw [hafter]; simp, by rw [hid]; decide⟩
      | expired mem _ _ status =>
        rw [List.mem_singleton.1 mem, hpending] at status
        cases status
    · obtain rfl := List.mem_singleton.1 hst
      cases hmade.submitted hr
  obtain ⟨-, hsteps⟩ := (absent_id_stays_absent hs hlinked).2 1 habsent hbeside
  obtain ⟨hgone, hrefused⟩ := hsteps approved (by simp)
  exact ⟨by decide +kernel, hgone, hrefused rfl⟩

/-- The newest request is deleted, and the next one, of another user for other content, gets its id:
approving the id adds that content. -/
theorem newest_id_reused :
    let service : Service := {}
    let deferral : Deferral := {
      reason := .text "Ask first", triggeredBy := .text "router_rule"
      proposed := some { instanceId := 1 } }
    let submission := fun (title : String) (userId : Int) =>
      Operation.single (.process { title := .text title }
        { contentType := .text "movie", userId := .one userId } [.requireApproval deferral])
    let s := Course.run [
      ⟨service, .single (.putInstance { id := 1, type := .text "radarr" })⟩,
      ⟨service, .single (.putUser 1 (.text "Ann") (.bool false))⟩,
      ⟨service, .single (.putUser 2 (.text "Bob") (.bool false))⟩,
      ⟨service, submission "Dune" 1⟩] { now := .ofDate ⟨738959⟩ }
    let s' := Course.run [⟨service, .single (.delete 1)⟩, ⟨service, submission "Alien" 2⟩] s
    let approved := (Event.approve 1 .null .null).perform service s'
    Reachable s ∧ Reachable s' ∧
      s.store.requests.map (fun r => (r.id, r.userId, r.title.display)) = [(1, 1, "Dune")] ∧
      s'.store.requests.map (fun r => (r.id, r.userId, r.title.display)) = [(1, 2, "Alien")] ∧
      approved.2.attempts.map (·.item.title.display) = ["Alien"] := by
  intro service deferral submission s s' approved
  have hs : Reachable s := .run (.start rfl) _
  refine ⟨hs, .next (.next hs _ _) _ _, ?_⟩
  decide +kernel

end Watchgate
