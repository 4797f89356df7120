import Watchgate.Proofs.Approval.Lifecycle

/-!
# What a submission leaves alone

Apart from rows of its primary user, a submission leaves the counted requests and the requests for
approval as they are, and every other table as a whole. The one row that it may take away is an
expired request of the same user; since ids are distinct, no other request goes with it.
-/

namespace Watchgate

open Act Calendar Store

/-- From one store to the next only rows of one user changed, and these only among the counted
requests and the requests for approval. -/
structure Store.OnlyOf (userId : Int) (s s' : Store) : Prop where
  rest : s' = { s with usage := s'.usage, requests := s'.requests }
  usage : s'.usage.filter (·.userId ≠ userId) = s.usage.filter (·.userId ≠ userId)
  requests : s'.requests.filter (·.userId ≠ userId) = s.requests.filter (·.userId ≠ userId)

structure Session.OnlyOf (userId : Int) (s s' : Session) : Prop where
  store : s.store.OnlyOf userId s'.store
  distinct : (s'.store.requests.map Request.id).Nodup
  now : s'.now = s.now
  outages : s'.outages = s.outages
  network : s.network.Leaves s'.network

namespace Store

variable {s s' : Store} {userId : Int}

theorem OnlyOf.refl (userId : Int) (s : Store) : s.OnlyOf userId s := ⟨rfl, rfl, rfl⟩

theorem onlyOf_putUsage {contentType : Value} {date : Date}
    (h : s.putUsage userId contentType date = .ok ((), s')) : s.OnlyOf userId s' := by
  obtain ⟨stored, -, rfl⟩ := putUsage_ok h
  exact ⟨rfl, by simp, rfl⟩

/-- The request that gives way is the only one with its id. -/
theorem Replaces.filter_others {key : Value} {rows kept : List Request}
    (h : Replaces userId key rows kept) (hd : (rows.map Request.id).Nodup) :
    kept.filter (·.userId ≠ userId) = rows.filter (·.userId ≠ userId) := by
  cases h with
  | none => rfl
  | @expired old mem sameUser =>
    rw [List.filter_filter]
    refine List.filter_congr fun r hr => ?_
    by_cases hid : r.id = old.id
    · obtain rfl := List.inj_on_of_nodup_map hd hr mem hid
      simp [sameUser]
    · simp [hid]

theorem onlyOf_addRequest {n : NewRequest} {now : Moment} {request : Request}
    (hd : (s.requests.map Request.id).Nodup) (h : s.addRequest n now = .ok (request, s')) :
    s.OnlyOf n.userId s' ∧ (s'.requests.map Request.id).Nodup := by
  obtain ⟨kept, row, hkept, hnew, -, rfl, -⟩ := newRow_of_addRequest h
  have hkd : (kept.map Request.id).Nodup := hd.sublist (hkept.sublist.map _)
  refine ⟨⟨rfl, rfl, ?_⟩, hnew.distinct hkd⟩
  have hrow : [row].filter (·.userId ≠ n.userId) = [] := by simp [hnew.user]
  show (kept ++ [row]).filter (·.userId ≠ n.userId) = _
  rw [List.filter_append, hrow, List.append_nil]
  exact hkept.filter_others hd

end Store

namespace Gate

variable {item : Item} {context : Context} {verdicts : List Verdict} {userId : Int}

theorem user_of_countedFor {o : Outcome} (h : countedFor context o = some userId) :
    context.primaryUserId = some userId := by
  unfold countedFor at h
  split at h
  · exact h
  · cases h

theorem Effect.onlyOf {s : Session} {x : Except Failure Outcome × Session}
    (h : Effect item context verdicts s x) (hu : context.primaryUserId = some userId)
    (hd : (s.store.requests.map Request.id).Nodup) : s.OnlyOf userId x.2 := by
  cases h with
  | kept same =>
    exact ⟨same.store ▸ .refl userId s.store, same.store ▸ hd, same.now, same.outages,
      same.network⟩
  | made _ user _ added same =>
    obtain rfl := Option.some.inj (user.symm.trans hu)
    obtain ⟨honly, hd'⟩ := onlyOf_addRequest hd added
    exact ⟨same.store ▸ honly, same.store ▸ hd', same.now, same.outages, same.network⟩
  | counted _ _ _ written same counts =>
    obtain rfl := Option.some.inj ((user_of_countedFor counts).symm.trans hu)
    have hrows := putUsage_requests written
    refine ⟨same.store ▸ onlyOf_putUsage written, ?_, same.now, same.outages, same.network⟩
    rw [same.store, hrows]
    exact hd

/-- A submission changes rows of its primary user only. -/
theorem process_onlyOf {g : Gate} (hp : g.partners.Quiet) (item : Item)
    (verdicts : List Verdict) (hu : context.primaryUserId = some userId) {s : Session}
    (hd : (s.store.requests.map Request.id).Nodup) :
    s.OnlyOf userId (g.process item context verdicts s).2 :=
  (process_effect hp item context verdicts s).onlyOf hu hd

end Gate

end Watchgate
