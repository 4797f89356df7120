import Watchgate.Proofs.Approval.Lifecycle

/-!
# One request for a user and a content key

A submission that finds a request of its user for its content key makes no second one: it takes the
place of an expired one, and is refused otherwise. So wherever operations lead there is at most one
request for a user and a key, and a request found under them is the only one. Which key content is
submitted under is left open.
-/

namespace Watchgate

open Act Calendar Store

/-- Whom and what a request is for. -/
def Request.subject (r : Request) : Int × Value := (r.userId, r.key)

/-- No two requests are of one user for one content key. -/
def OnePerKey (rows : List Request) : Prop := (rows.map Request.subject).Nodup

theorem Request.Evolves.subject {r r' : Request} (h : r.Evolves r') : r'.subject = r.subject := by
  unfold Request.subject
  rw [h.matter.userId, h.matter.key]

theorem Evolve.map_subject {rows rows' : List Request} (h : Evolve rows rows') :
    rows'.map Request.subject = rows.map Request.subject := by
  induction h with
  | nil => rfl
  | cons hr _ ih => rw [List.map_cons, List.map_cons, hr.subject, ih]

theorem Store.isRequestFor_subject {userId : Int} {key : Value} {r : Request}
    (h : isRequestFor userId key r = true) : r.subject = (userId, key) := by
  simp only [isRequestFor, Bool.and_eq_true, decide_eq_true_eq] at h
  rw [Request.subject, h.1, Column.eq_of_same h.2]

theorem Store.isRequestFor_of_subject {userId : Int} {key : String} {r : Request}
    (h : r.subject = (userId, .text key)) : isRequestFor userId (.text key) r = true := by
  obtain ⟨huser, hkey⟩ := Prod.mk.inj h
  simp [isRequestFor, huser, hkey, Column.same]

namespace OnePerKey

variable {rows rows' : List Request}

theorem sublist (h : OnePerKey rows) (hsub : rows'.Sublist rows) : OnePerKey rows' :=
  List.Nodup.sublist (hsub.map _) h

theorem evolve (h : OnePerKey rows) (hev : Evolve rows rows') : OnePerKey rows' := by
  unfold OnePerKey
  rw [hev.map_subject]
  exact h

theorem carriedOver {mayDrop : Request → Prop} (h : OnePerKey rows)
    (hc : CarriedOver mayDrop rows rows') : OnePerKey rows' := by
  obtain ⟨kept, hsub, hev, -⟩ := hc
  exact (h.sublist hsub).evolve hev

theorem snoc (h : OnePerKey rows) {row : Request} (hnew : ∀ r ∈ rows, r.subject ≠ row.subject) :
    OnePerKey (rows ++ [row]) := by
  unfold OnePerKey
  rw [List.map_append, List.nodup_append]
  refine ⟨h, by simp, fun a ha b hb => ?_⟩
  obtain ⟨r, hr, rfl⟩ := List.mem_map.1 ha
  obtain rfl := List.mem_singleton.1 hb
  exact hnew r hr

/-- The request found for a user and a key is the only one for them. -/
theorem find?_unique (h : OnePerKey rows) {userId : Int} {key : Value} {old : Request}
    (hfound : rows.find? (isRequestFor userId key) = some old) {r : Request} (hr : r ∈ rows)
    (hfor : isRequestFor userId key r = true) : r = old := by
  have hold : isRequestFor userId key old = true := List.find?_some hfound
  refine List.inj_on_of_nodup_map h hr (List.mem_of_find?_eq_some hfound) ?_
  rw [isRequestFor_subject hfor, isRequestFor_subject hold]

/-- Without it there is none. -/
theorem find?_without (h : OnePerKey rows) {userId : Int} {key : Value} {old : Request}
    (hfound : rows.find? (isRequestFor userId key) = some old) :
    (rows.filter (·.id ≠ old.id)).find? (isRequestFor userId key) = none := by
  refine List.find?_eq_none.2 fun r hr hfor => ?_
  obtain ⟨hr, hne⟩ := List.mem_filter.1 hr
  obtain rfl := h.find?_unique hfound hr hfor
  simp at hne

end OnePerKey

/-- Where a new request is let in, no request of its user for its key is left. -/
theorem Store.find?_of_withoutExpired {userId : Int} {key stored : Value}
    {rows kept : List Request} (hu : OnePerKey rows) (hkey : Column.text key = .ok stored)
    (h : withoutExpired userId key rows = .ok kept) :
    kept.find? (isRequestFor userId stored) = none := by
  obtain ⟨stored', hstored, h⟩ := ok_of_bind h
  obtain rfl := Except.ok.inj (hkey.symm.trans hstored)
  cases hfound : rows.find? (isRequestFor userId stored) with
  | none =>
    rw [hfound] at h
    obtain rfl := pure_ok h
    exact hfound
  | some old =>
    simp only [hfound] at h
    split at h
    · obtain rfl := pure_ok h
      exact hu.find?_without hfound
    · cases h

/-- Making a request leaves one request for a user and a key. -/
theorem Store.onePerKey_addRequest {n : NewRequest} {now : Moment} {s s' : Store}
    {request : Request} (hu : OnePerKey s.requests) (h : s.addRequest n now = .ok (request, s')) :
    OnePerKey s'.requests := by
  obtain ⟨user, -, h⟩ := ok_of_bind h
  obtain ⟨_, -, h⟩ := ok_of_bind h
  obtain ⟨kept, hkept, h⟩ := ok_of_bind h
  obtain ⟨row, hrow, h⟩ := ok_of_bind h
  obtain ⟨-, rfl⟩ := Prod.mk.inj (pure_ok h)
  have hof := requestRow_ok hrow
  obtain ⟨hkey, key, htext⟩ := Column.requiredText_ok hof.key
  obtain ⟨stored, -, hreplaces⟩ := withoutExpired_ok hkept
  have hnone := find?_of_withoutExpired hu hkey hkept
  refine (hu.sublist hreplaces.sublist).snoc fun r hr hsame => ?_
  rw [htext] at hnone
  refine List.find?_eq_none.1 hnone r hr (isRequestFor_of_subject ?_)
  rw [hsame, Request.subject, hof.userId, htext]
  rfl

/-- Every event leaves one request for a user and a key. -/
theorem Event.Change.onePerKey {service : Service} {s : Session} {e : Event}
    {x : Except Failure Event.Answer × Session} (h : Event.Change service s e x)
    (hk : WellKept s.store.requests) (hu : OnePerKey s.store.requests) :
    OnePerKey x.2.store.requests := by
  rcases h.lawful hk with hcarried | ⟨context, userId, hsubmitted, -, -⟩
  · exact hu.carriedOver hcarried
  · cases h with
    | processed effect =>
      rcases effect.requests_cases with hsame | ⟨_, _, _, _, _, _, _, _, -, -, -, added, hrows⟩
      · rw [hsame]
        exact hu
      · rw [hrows]
        exact onePerKey_addRequest hu added
    | idle same =>
      rw [same.requests]
      exact hu
    | _ => cases hsubmitted

/-- Wherever operations lead, there is at most one request for a user and a key. -/
theorem Reachable.onePerKey {s : Session} (h : Reachable s) : OnePerKey s.store.requests := by
  refine h.kept (I := fun s => OnePerKey s.store.requests) (fun s hs => ?_) fun service e s hs hu => ?_
  · rw [hs]
    exact List.nodup_nil
  · exact (e.change service s).onePerKey hs.wellKept hu

end Watchgate
