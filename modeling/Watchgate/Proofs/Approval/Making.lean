import Watchgate.Proofs.Approval.Outcomes
import Watchgate.Proofs.Routing.Recoding

/-!
# What the gate makes requests of

Whenever a submission makes a request, the verdict in its row is, as it reads back, the one that deferred
the content: the first verdict that can be acted on, or one that the gate came to itself because of the
user or of a quota. Everything else that a submission does leaves the verdicts of the rows alone.
-/

namespace Watchgate

open Act Calendar Store

namespace Act

variable {α β : Type} {P : Verdict → Prop}

/-- Whatever requests the act makes, their verdicts satisfy `P`. -/
def Makes (x : Act α) (P : Verdict → Prop) : Prop :=
  ∀ s : Session, ∀ r ∈ (x s).2.store.requests, r ∈ s.store.requests ∨ P r.verdict

theorem KeepsTables.makes {x : Act α} (h : x.KeepsTables) : x.Makes P := by
  intro s r hr
  rw [(h s).store] at hr
  exact .inl hr

theorem makes_bind {x : Act α} {f : α → Act β} (hx : x.Makes P)
    (hf : ∀ {s a s'}, x s = (.ok a, s') → (f a).Makes P) : (x >>= f).Makes P := by
  intro s r hr
  have hfirst := hx s
  rcases bind_cases x f s with ⟨a, s', h, hb⟩ | ⟨e, s', h, hb⟩
  · rw [hb] at hr
    rw [h] at hfirst
    rcases hf h s' r hr with hr | hr
    · exact hfirst r hr
    · exact .inr hr
  · rw [hb] at hr
    rw [h] at hfirst
    exact hfirst r hr

theorem makes_addRequest {n : NewRequest} (h : P (recoded n.verdict)) : (addRequest n).Makes P := by
  intro s r hr
  unfold addRequest at hr
  rcases write_cases .addRequest none (Store.addRequest n s.now) s with
    ⟨request, store, hadd, hw⟩ | ⟨e, s', hw, hs⟩
  · rw [hw] at hr
    obtain ⟨kept, row, hkept, -, hrow, rfl, hrequest⟩ := newRow_of_addRequest hadd
    rcases List.mem_append.1 hr with hr | hr
    · exact .inl (hkept.sublist.subset hr)
    · rw [List.mem_singleton.1 hr, hrow.verdict, hrequest]
      exact .inr h
  · rw [hw, hs.store] at hr
    exact .inl hr

theorem makes_recordUsage (userId : Int) (contentType : Value) :
    (Quota.recordUsage userId contentType).Makes P := by
  intro s r hr
  rcases Quota.recordUsage_cases userId contentType s with ⟨store, hput, h⟩ | ⟨e, s', h, hs⟩
  · rw [h] at hr
    rw [← putUsage_requests hput]
    exact .inl hr
  · rw [h, hs.store] at hr
    exact .inl hr

end Act

namespace Gate

variable {P : Verdict → Prop} {g : Gate} {item : Item} {context : Context} {primary : Verdict}
  {p : Placement}

/-- The verdict with which the gate defers content that goes by `primary`, which proposes `p`. -/
inductive Defers (primary : Verdict) (p : Placement) : Verdict → Prop where
  /-- The verdict asks for approval itself. -/
  | verdict (asks : primary.action = .requireApproval) : Defers primary p primary
  | user (u : User) : Defers primary p (.requireApproval (userDeferral u p))
  | quota (status : QuotaStatus) : Defers primary p (.requireApproval (quotaDeferral status p))

theorem Defers.action {v : Verdict} (h : Defers primary p v) : v.action = .requireApproval := by
  cases h with
  | verdict asks => exact asks
  | user => rfl
  | quota => rfl

theorem Defers.proposed {v : Verdict} (h : Defers primary p v) (hp : primary.proposed = some p) :
    v.proposed = some p := by
  cases h with
  | verdict => exact hp
  | user => rfl
  | quota => rfl

theorem defers_of_reasonToWait {contentType : Value} {userId : Option Int} {s s' : Session}
    {wait : Wait} (h : reasonToWait primary p contentType userId s = (.ok (some wait), s')) :
    Defers primary p wait.verdict := by
  rcases reasonToWait_cases primary p contentType userId with
    ⟨d, hasks, hr⟩ | ⟨-, hr⟩ | ⟨u, -, hr⟩
  · rw [hr] at h
    rw [← Option.some.inj (pure_returns h).1]
    exact .verdict hasks
  · rw [hr] at h
    cases (pure_returns h).1
  · rw [hr] at h
    obtain ⟨reason, s₁, hreason, h⟩ := bind_returns h
    obtain ⟨d, rfl, hwait⟩ := Option.map_eq_some_iff.1 (pure_returns h).1
    rw [← hwait]
    rcases userReason_some hreason with ⟨u, rfl⟩ | ⟨status, rfl⟩
    · exact .user u
    · exact .quota status

theorem makes_defer (hp : g.partners.Quiet) {userId : Int} {wait : Wait}
    (h : P (recoded wait.verdict)) : (g.defer item context userId wait).Makes P := by
  refine makes_bind g.quiet_expiry.keepsTables.makes fun {_ expiresAt _} _ => ?_
  refine makes_bind (makes_addRequest h) fun {_ request _} _ => ?_
  exact (quiet_announce hp _ request).keepsTables.makes

theorem makes_route (hp : g.partners.Quiet) (contentType : Value) (placements : List Placement)
    (counted : Option Int) : (g.route item contentType placements counted).Makes P := by
  refine makes_bind (Partners.keepsTables_attemptAll hp item placements).makes fun {_ taken _} _ => ?_
  by_cases ht : taken.isEmpty = true
  · rw [if_pos ht]
    exact (quiet_pure _).keepsTables.makes
  · rw [if_neg ht]
    refine makes_bind ?_ fun _ => (quiet_pure _).keepsTables.makes
    cases counted with
    | none => exact (quiet_pure _).keepsTables.makes
    | some userId => exact makes_recordUsage userId contentType

theorem makes_receive (hp : g.partners.Quiet) (h : ∀ v, Defers primary p v → P (recoded v))
    (placements : List Placement) : (g.receive item context primary p placements).Makes P := by
  refine makes_bind (quiet_reasonToWait _ _ _ _).keepsTables.makes fun {_ reason _} hreason => ?_
  cases reason with
  | none => exact makes_route hp _ _ _
  | some wait =>
    cases context.primaryUserId with
    | none => exact (quiet_bind (quiet_note _ _) fun _ => quiet_pure _).keepsTables.makes
    | some userId => exact makes_defer hp (h _ (defers_of_reasonToWait hreason))

/-- What a submission makes is made of the verdict that deferred it, as it reads back. -/
theorem makes_process (g : Gate) (hp : g.partners.Quiet) (item : Item) (context : Context)
    (verdicts : List Verdict) :
    (g.process item context verdicts).Makes fun stored => ∃ primary p rest v,
      verdicts.filterMap actionable? = (primary, p) :: rest ∧ Defers primary p v ∧
        stored = recoded v := by
  have hway := g.process_handles item context verdicts
  generalize g.process item context verdicts = x at hway ⊢
  cases hway with
  | nothing => exact (quiet_pure _).keepsTables.makes
  | rejected => exact (quiet_bind (quiet_note _ _) fun _ => quiet_pure _).keepsTables.makes
  | synchronised => exact makes_route hp _ _ _
  | asked first =>
    refine makes_bind (quiet_liveRequest _ _).keepsTables.makes fun {_ found _} _ => ?_
    cases found with
    | some r => exact (keepsTables_honour hp item _ r).makes
    | none => exact makes_receive hp (fun v hv => ⟨_, _, _, v, first, hv, rfl⟩) _

end Gate

end Watchgate
