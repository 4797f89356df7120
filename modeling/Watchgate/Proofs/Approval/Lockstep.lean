import Watchgate.Proofs.Approval.Gate

/-!
# A submission in two sessions

A submission does the same in two sessions if the acts that it is made of do. Which acts these are is
found out here once, for any relation of sessions. Two of them are left to those who compare sessions:
asking for the live request, and making a new one.
-/

namespace Watchgate

open Act Calendar

variable {R : Session → Session → Prop}

/-- The quota of a user is looked up alike in sessions that `R` relates. -/
structure Quota.AsksAlike (R : Session → Session → Prop) (userId : Int) (contentType : Value) :
    Prop where
  today : Act.today.Lockstep R
  quota : (Act.getQuota userId contentType).Lockstep R
  usage : ∀ w, (Act.countUsage userId contentType w).Lockstep R
  oldest : ∀ {s q s'}, Act.getQuota userId contentType s = (.ok (some q), s') →
    ∀ w, (Act.oldestUsage q.userId q.contentType w).Lockstep R

theorem Quota.AsksAlike.status {userId : Int} {contentType : Value}
    (h : AsksAlike R userId contentType) : (status userId contentType).Lockstep R := by
  refine lockstep_bind_of h.quota fun {_ found _} hfound => ?_
  cases found with
  | none => exact lockstep_pure _
  | some q =>
    refine lockstep_bind h.today fun today => lockstep_bind (lockstep_ofResult _) fun p => ?_
    refine lockstep_bind (lockstep_ofResult _) fun w => lockstep_bind (h.usage w) fun usage => ?_
    have hreset : (q.resetOf p today).Lockstep R := by
      cases p with
      | weeklyRolling =>
        refine lockstep_bind (lockstep_ofResult _) fun w => ?_
        exact lockstep_bind (h.oldest hfound w) fun _ => lockstep_ofResult _
      | _ => exact lockstep_ofResult _
    have hrest : ∀ exceeded : Bool, (q.resetOf p today >>= fun reset => pure (some
        { period := q.period, limit := q.limit, usage, exceeded, reset, bypass := q.bypass
          : QuotaStatus }) : Act _).Lockstep R := fun _ =>
      lockstep_bind hreset fun _ => lockstep_pure _
    exact lockstep_ite (hrest false) (lockstep_bind (lockstep_ofResult _) hrest)

namespace Gate

/-- What a submission does apart from looking at the requests, it does alike in sessions that `R`
relates. -/
structure StepsAlike (g : Gate) (item : Item) (contentType : Value) (userId : Option Int)
    (R : Session → Session → Prop) : Prop where
  noted : ∀ level text, (note level text).Lockstep R
  now : Act.now.Lockstep R
  tried : ∀ placements, (g.partners.attemptAll item placements).Lockstep R
  user : ∀ u, userId = some u → (Act.getUser u).Lockstep R
  quota : ∀ u, userId = some u → Quota.AsksAlike R u contentType
  counted : ∀ u, userId = some u → (Quota.recordUsage u contentType).Lockstep R

namespace StepsAlike

variable {g : Gate} {item : Item} {contentType : Value} {userId : Option Int}

theorem userReason (h : g.StepsAlike item contentType userId R) {u : Int} (hu : userId = some u)
    (p : Placement) : (userReason contentType u p).Lockstep R := by
  have hquota : (userReason.quotaReason contentType u p).Lockstep R := by
    refine lockstep_ite (lockstep_pure _) (lockstep_bind (h.quota u hu).status fun status => ?_)
    cases status <;> exact lockstep_pure _
  refine lockstep_bind (h.user u hu) fun user => ?_
  cases user with
  | none => exact hquota
  | some u => exact lockstep_ite (lockstep_pure _) hquota

theorem reasonToWait (h : g.StepsAlike item contentType userId R) (primary : Verdict)
    (p : Placement) : (reasonToWait primary p contentType userId).Lockstep R := by
  rcases reasonToWait_cases primary p contentType userId with ⟨d, -, hr⟩ | ⟨-, hr⟩ | ⟨u, hu, hr⟩
  · exact hr ▸ lockstep_pure _
  · exact hr ▸ lockstep_pure _
  · exact hr ▸ lockstep_bind (h.userReason hu p) fun _ => lockstep_pure _

theorem expiry (h : g.StepsAlike item contentType userId R) : g.expiry.Lockstep R := by
  unfold Gate.expiry
  split
  · exact lockstep_pure _
  · refine lockstep_ite (lockstep_pure _) (lockstep_bind h.now fun now => ?_)
    split
    · exact lockstep_pure _
    · exact fun _ _ h => ⟨rfl, h⟩

theorem route (h : g.StepsAlike item contentType userId R) (placements : List Placement)
    {counted : Option Int} (hc : ∀ u, counted = some u → userId = some u) :
    (g.route item contentType placements counted).Lockstep R := by
  refine lockstep_bind (h.tried placements) fun taken => lockstep_ite (lockstep_pure _) ?_
  cases counted with
  | none => exact lockstep_bind (lockstep_pure _) fun _ => lockstep_pure _
  | some u => exact lockstep_bind (h.counted u (hc u rfl)) fun _ => lockstep_pure _

theorem honour (h : g.StepsAlike item contentType userId R) (r : Request) :
    (g.honour item contentType r).Lockstep R := by
  rcases g.honour_cases item contentType r with ⟨text, o, -, hb⟩ | hb
  · exact hb ▸ lockstep_bind (h.noted _ _) fun _ => lockstep_pure _
  · rw [hb]
    unfold replay
    split
    · exact lockstep_pure _
    · refine lockstep_bind (h.noted _ _) fun _ => ?_
      exact lockstep_bind (h.route _ fun _ hu => by cases hu) fun _ => lockstep_pure _

end StepsAlike

/-- A submission ends alike in both sessions if keeping it as a request does. -/
theorem StepsAlike.process {g : Gate} {item : Item} {context : Context} {verdicts : List Verdict}
    {S : Session → Session → Prop} {V : Except Failure Outcome → Except Failure Outcome → Prop}
    (hV : ∀ r, V r r) (hS : ∀ s s', R s s' → S s s')
    (h : g.StepsAlike item context.contentType context.primaryUserId R)
    (hlive : Consults context verdicts →
      (liveRequest context.primaryUserId (contentKey item context)).Lockstep R)
    (hdefer : Consults context verdicts → ∀ u, context.primaryUserId = some u →
      ∀ wait, (g.defer item context u wait).Matches R V S) :
    (g.process item context verdicts).Matches R V S := by
  have hway := g.process_handles item context verdicts
  generalize g.process item context verdicts = x at hway ⊢
  cases hway with
  | nothing => exact (lockstep_pure _).matches hV hS
  | rejected => exact (lockstep_bind (h.noted _ _) fun _ => lockstep_pure _).matches hV hS
  | synchronised => exact (h.route _ fun _ hu => by cases hu).matches hV hS
  | asked first consults =>
    refine matches_bind hV hS (hlive consults) fun {_ found _} _ => ?_
    cases found with
    | some r => exact (h.honour r).matches hV hS
    | none =>
      -- the reason to wait is found without the requests; only deferring touches them
      refine matches_bind hV hS (h.reasonToWait _ _) fun {_ reason _} _ => ?_
      cases huser : context.primaryUserId with
      | none =>
        cases reason with
        | none => exact (h.route _ fun _ hu => by cases hu).matches hV hS
        | some wait =>
          exact (lockstep_bind (h.noted _ _) fun _ => lockstep_pure _).matches hV hS
      | some u =>
        cases reason with
        | none => exact (h.route _ fun _ hu => huser.trans hu).matches hV hS
        | some wait => exact hdefer consults u huser wait

end Gate

end Watchgate
