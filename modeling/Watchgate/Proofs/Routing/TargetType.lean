import Watchgate.Proofs.Routing.Finding
import Watchgate.Service

/-!
# Routing keeps to the type of the content

Whatever rules and instances are stored, and whichever calls fail on the way, the verdicts that routing
comes to name instances of the type that serves the content. Rules for the other type are left out
before they are looked at, and where no rule places the content the instance is looked up by its type.
-/

namespace Watchgate

namespace Act

variable {α β : Type} {P : α → Prop} {Q : β → Prop}

/-- Whatever the act ends with satisfies `P`; it may fail. -/
def Ensures (x : Act α) (P : α → Prop) : Prop := ∀ ⦃s s' : Session⦄ ⦃a : α⦄, x s = (.ok a, s') → P a

theorem ensures_pure {a : α} (h : P a) : (pure a : Act α).Ensures P := by
  intro s s' b hb
  rw [← (pure_returns hb).1]
  exact h

theorem ensures_throw (e : Failure) : (throw e : Act α).Ensures P := by
  intro s s' a ha
  cases ha

theorem ensures_true (x : Act α) : x.Ensures fun _ => True := fun _ _ _ _ => trivial

theorem ensures_bind {x : Act α} {f : α → Act β} (hx : x.Ensures P)
    (hf : ∀ a, P a → (f a).Ensures Q) : (x >>= f).Ensures Q := by
  intro s s' b hb
  obtain ⟨a, s₁, ha, hb⟩ := bind_returns hb
  exact hf a (hx ha) hb

/-- What comes first may end with anything. -/
theorem ensures_after {x : Act α} {f : α → Act β} (hf : ∀ a, (f a).Ensures Q) :
    (x >>= f).Ensures Q := ensures_bind (ensures_true x) fun a _ => hf a

theorem ensures_ite {c : Prop} [Decidable c] {x y : Act α} (hx : x.Ensures P) (hy : y.Ensures P) :
    (if c then x else y).Ensures P := by
  split
  · exact hx
  · exact hy

theorem ensures_tryCatch {x : Act α} {f : Failure → Act α} (hx : x.Ensures P)
    (hf : ∀ e, (f e).Ensures P) : (tryCatch x f : Act α).Ensures P := by
  intro s s' a ha
  rw [tryCatch_apply] at ha
  rcases h : x s with ⟨e | b, s₁⟩
  · rw [h] at ha
    exact hf e ha
  · rw [h] at ha
    exact hx (h.trans ha)

theorem ensures_read {call : StoreCall} {first : Option Value} {f : Store → Except Failure α}
    (h : ∀ store a, f store = .ok a → P a) : (read call first f).Ensures P := by
  intro s s' a ha
  exact h _ _ (read_returns ha).1

theorem ensures_mapM {f : α → Act β} {l : List α} (hf : ∀ a ∈ l, (f a).Ensures Q) :
    (l.mapM f).Ensures fun bs => ∀ b ∈ bs, Q b := by
  induction l with
  | nil =>
    rw [List.mapM_nil]
    exact ensures_pure fun b hb => by cases hb
  | cons a l ih =>
    rw [List.mapM_cons]
    refine ensures_bind (hf a List.mem_cons_self) fun b hb => ?_
    refine ensures_bind (ih fun x hx => hf x (.tail _ hx)) fun bs hbs => ?_
    exact ensures_pure (List.forall_mem_cons.2 ⟨hb, hbs⟩)

end Act

open Act

/-! ## Rules and instances of a type -/

/-- The placement names an instance of the type that serves the context. -/
def Placement.Serves (context : Context) (p : Placement) : Prop :=
  p.instanceType = .text context.targetType

variable {context : Context}

theorem Rule.serves_toPlacement {r : Rule} (h : r.isActiveFor context.targetType = true) :
    r.toPlacement.Serves context := by
  unfold isActiveFor at h
  rw [Bool.and_eq_true] at h
  exact isOneOf_singleton.1 h.2

theorem Store.readInstance_type {row i : Instance} (h : readInstance row = .ok i) :
    i.type = row.type := by
  obtain ⟨p, -, rfl⟩ := ok_of_map h
  rfl

theorem Store.getInstance_type {id : Int} {type : String} (htype : type ≠ "") {s : Store}
    {i : Instance} (h : s.getInstance id (.text type) = .ok (some i)) : i.type = .text type := by
  obtain ⟨n, -, h⟩ := ok_of_bind h
  obtain ⟨rows, hrows, h⟩ := ok_of_bind h
  have htruthy : (Value.text type).truthy = true := by
    simp [Value.truthy, htype]
  have hrows : rows = sortInstances (s.instances.filter fun i => Column.same i.type (.text type)) := by
    unfold instanceRows at hrows
    rw [if_pos htruthy] at hrows
    exact (pure_ok hrows).symm
  cases hfound : rows.find? (·.id = n) with
  | none =>
    rw [hfound] at h
    cases h
  | some row =>
    rw [hfound] at h
    obtain ⟨read, hread, hi⟩ := ok_of_map h
    obtain rfl := Option.some.inj hi
    have hmem := List.mem_of_find?_eq_some hfound
    rw [hrows, sortInstances, List.mem_mergeSort, sortedBy, List.mem_mergeSort] at hmem
    rw [readInstance_type hread]
    exact Column.eq_of_same (List.mem_filter.1 hmem).2

theorem Store.getDefaultInstance_type {type : String} {s : Store} {i : Instance}
    (h : s.getDefaultInstance type = .ok (some i)) : i.type = .text type := by
  unfold getDefaultInstance at h
  split at h
  · rename_i row hfound
    obtain ⟨read, hread, hi⟩ := ok_of_map h
    obtain rfl := Option.some.inj hi
    have hrow := List.find?_some hfound
    simp only [Bool.and_eq_true] at hrow
    rw [readInstance_type hread]
    exact Column.eq_of_same hrow.1.1
  · cases h

/-! ## Selecting -/

namespace Placement

theorem mem_of_keepBetter {p : Placement} {qs kept : List Placement} (h : keepBetter p qs = .ok kept)
    {q : Placement} (hq : q ∈ kept) : q = p ∨ q ∈ qs := by
  induction qs generalizing kept with
  | nil =>
    obtain rfl : [p] = kept := Except.ok.inj h
    exact .inl (List.mem_singleton.1 hq)
  | cons a qs ih =>
    rw [keepBetter] at h
    split at h
    · obtain ⟨o, -, rfl⟩ := ok_of_map h
      rcases List.mem_cons.1 hq with rfl | hq
      · split
        · exact .inl rfl
        · exact .inr List.mem_cons_self
      · exact .inr (.tail _ hq)
    · obtain ⟨rest, hrest, rfl⟩ := ok_of_map h
      rcases List.mem_cons.1 hq with rfl | hq
      · exact .inr List.mem_cons_self
      · exact (ih hrest hq).imp_right (.tail _)

theorem mem_of_insertListed {p : Placement} {qs listed : List Placement}
    (h : insertListed p qs = .ok listed) {q : Placement} (hq : q ∈ listed) : q = p ∨ q ∈ qs := by
  induction qs generalizing listed with
  | nil =>
    obtain rfl : [p] = listed := Except.ok.inj h
    exact .inl (List.mem_singleton.1 hq)
  | cons a qs ih =>
    obtain ⟨o, -, h⟩ := ok_of_bind h
    have hlater : (do return a :: (← insertListed p qs)) = Except.ok listed →
        q = p ∨ q ∈ a :: qs := by
      intro h
      obtain ⟨rest, hrest, h⟩ := ok_of_bind h
      obtain rfl := pure_ok h
      rcases List.mem_cons.1 hq with rfl | hq
      · exact .inr List.mem_cons_self
      · exact (ih hrest hq).imp_right (.tail _)
    cases o with
    | lt =>
      obtain rfl := pure_ok h
      exact List.mem_cons.1 hq
    | eq => exact hlater h
    | gt => exact hlater h

/-- Taking up one placement after the other brings in no others. -/
theorem mem_of_foldlM {f : Placement → List Placement → Except Failure (List Placement)}
    (hf : ∀ {p qs kept}, f p qs = .ok kept → ∀ {q}, q ∈ kept → q = p ∨ q ∈ qs) :
    ∀ {ps start kept : List Placement}, ps.foldlM (fun kept p => f p kept) start = .ok kept →
      ∀ {q}, q ∈ kept → q ∈ ps ∨ q ∈ start
  | [], start, kept, h, q, hq => .inr (pure_ok h ▸ hq)
  | p :: ps, start, kept, h, q, hq => by
    rw [List.foldlM_cons] at h
    obtain ⟨next, hnext, h⟩ := ok_of_bind h
    rcases mem_of_foldlM hf h hq with hq | hq
    · exact .inl (.tail _ hq)
    · rcases hf hnext hq with rfl | hq
      · exact .inl List.mem_cons_self
      · exact .inr hq

theorem mem_of_select {ps selected : List Placement} (h : select ps = .ok selected)
    {q : Placement} (hq : q ∈ selected) : q ∈ ps := by
  obtain ⟨best, hbest, h⟩ := ok_of_bind h
  have hmem := (mem_of_foldlM mem_of_insertListed h hq).resolve_right List.not_mem_nil
  exact (mem_of_foldlM mem_of_keepBetter hbest hmem).resolve_right List.not_mem_nil

end Placement

/-! ## Runners -/

namespace Runner

/-- Whatever the runner finds serves the context. -/
def Serves (r : Runner) : Prop := ∀ item context, (r.evaluate item context).Ensures fun found =>
  ∀ ps, found = some ps → ∀ p ∈ ps, p.Serves context

theorem ensures_loadRules (ruleType : String) (context : Context) :
    (loadRules ruleType context).Ensures fun rules =>
      ∀ r ∈ rules, r.isActiveFor context.targetType = true :=
  ensures_after fun _ => ensures_pure fun _ hr => (List.mem_filter.1 hr).2

theorem ensures_tryLoadRules (name ruleType : String) (context : Context) :
    (tryLoadRules name ruleType context).Ensures fun found => ∀ rules, found = some rules →
      ∀ r ∈ rules, r.isActiveFor context.targetType = true := by
  refine ensures_tryCatch ?_ fun e => ?_
  · rw [map_eq_pure_bind]
    refine ensures_bind (ensures_loadRules ruleType context) fun rules hrules => ?_
    exact ensures_pure fun _ h => Option.some.inj h ▸ hrules
  · cases e with
    | storage f => exact ensures_after fun _ => ensures_pure fun _ h => by cases h
    | _ => exact ensures_throw _

theorem ensures_matching (e : Criteria.Evaluator) (item : Item) (context : Context)
    (rules : List Rule) :
    (matching e item context rules).Ensures fun found => ∀ r ∈ found, r ∈ rules := by
  induction rules with
  | nil => exact ensures_pure fun r hr => hr
  | cons rule rules ih =>
    refine ensures_after fun isMatch => ensures_bind ih fun rest hrest => ensures_pure ?_
    intro r hr
    split at hr
    · rcases List.mem_cons.1 hr with rfl | hr
      · exact List.mem_cons_self
      · exact .tail _ (hrest r hr)
    · exact .tail _ (hrest r hr)

theorem ensures_evaluateRules (e : Criteria.Evaluator) (item : Item) (context : Context) :
    (evaluateRules e item context).Ensures fun found =>
      ∀ ps, found = some ps → ∀ p ∈ ps, p.Serves context := by
  refine ensures_ite (ensures_pure fun _ h => by cases h) ?_
  refine ensures_bind (ensures_tryLoadRules _ _ context) fun loaded hloaded => ?_
  cases loaded with
  | none => exact ensures_pure fun _ h => by cases h
  | some rules =>
    refine ensures_bind (ensures_matching e item context rules) fun found hfound => ensures_pure ?_
    intro ps hps p hp
    split at hps
    · cases hps
    · obtain rfl := Option.some.inj hps
      obtain ⟨r, hr, rfl⟩ := List.mem_map.1 hp
      exact Rule.serves_toPlacement (hloaded rules rfl r (hfound r hr))

theorem serves_ofEvaluator (e : Criteria.Evaluator) : (ofEvaluator e).Serves :=
  ensures_evaluateRules e

theorem serves_ofPlugin (family : Criteria.Family) : (ofPlugin family).Serves := by
  intro item context
  refine ensures_after fun can => ensures_ite (ensures_pure fun _ h => by cases h) ?_
  refine ensures_after fun m => ?_
  cases m with
  | none => exact ensures_after fun _ => ensures_pure fun _ h => by cases h
  | some m => exact ensures_evaluateRules _ _ context

end Runner

/-! ## Resolving -/

namespace Router

theorem ensures_runOne {runner : Runner} (h : runner.Serves) (item : Item) (context : Context) :
    (runOne item context runner).Ensures fun ps => ∀ p ∈ ps, p.Serves context := by
  refine ensures_tryCatch (ensures_after fun can => ?_) fun e => ?_
  · refine ensures_ite (ensures_bind (h item context) fun found hfound => ensures_pure ?_) ?_
    · cases found with
      | none => exact fun p hp => by cases hp
      | some ps => exact hfound ps rfl
    · exact ensures_pure fun p hp => by cases hp
  · exact ensures_after fun _ => ensures_pure fun p hp => by cases hp

theorem ensures_collect {r : Router} (h : ∀ runner ∈ r.runList, runner.Serves) (item : Item)
    (context : Context) : (r.collect item context).Ensures fun ps => ∀ p ∈ ps, p.Serves context := by
  refine ensures_ite (ensures_throw _) ?_
  refine ensures_bind (ensures_mapM fun runner hr => ensures_runOne (h runner hr) item context)
    fun found hfound => ensures_pure fun p hp => ?_
  obtain ⟨ps, hps, hp⟩ := List.mem_flatten.1 hp
  exact hfound ps hps p hp

theorem serves_typed {p : Placement} (h : p.Serves context) : (typed context p).Serves context := by
  unfold typed
  split
  · rfl
  · exact h

theorem ensures_sift (rules : List Rule) (item : Item) (context : Context) {ps : List Placement}
    (h : ∀ p ∈ ps, p.Serves context) : (sift rules item context ps).Ensures fun sifted =>
      ∀ qs, sifted = some qs → ∀ q ∈ qs, q.Serves context := by
  induction ps with
  | nil => exact ensures_pure fun qs hqs q hq => by cases Option.some.inj hqs; cases hq
  | cons p ps ih =>
    obtain ⟨hp, hps⟩ := List.forall_mem_cons.1 h
    unfold sift
    dsimp only
    split
    · exact ensures_after fun _ => ensures_pure fun qs hqs => by cases hqs
    · exact ensures_after fun _ => ih hps
    · refine ensures_after fun isValid => ensures_bind (ih hps) fun rest hrest => ensures_pure ?_
      intro qs hqs
      split at hqs
      · obtain ⟨kept, hkept, rfl⟩ := Option.map_eq_some_iff.1 hqs
        exact List.forall_mem_cons.2 ⟨serves_typed hp, hrest kept hkept⟩
      · exact hrest qs hqs

/-- What a verdict leads to serves the context. -/
def Serving (context : Context) (vs : List Verdict) : Prop :=
  ∀ v ∈ vs, ∀ p, v.proposed = some p → p.Serves context

theorem serving_nil : Serving context [] := fun v hv => by cases hv

theorem serving_singleton {v : Verdict} (h : ∀ p, v.proposed = some p → p.Serves context) :
    Serving context [v] := by
  intro w hw
  rw [List.mem_singleton.1 hw]
  exact h

theorem serving_instance {i : Instance} (h : i.type = .text context.targetType) :
    Serving context [.route i.defaultPlacement] := by
  refine serving_singleton fun p hp => ?_
  obtain rfl := Option.some.inj hp
  exact h

theorem ensures_useDefault (context : Context) : (useDefault context).Ensures (Serving context) := by
  have hread : (Act.getDefaultInstance context.targetType).Ensures fun found =>
      ∀ i, found = some i → i.type = .text context.targetType :=
    ensures_read fun store found h i hi => Store.getDefaultInstance_type (hi ▸ h)
  refine ensures_bind hread fun found hfound => ?_
  cases found with
  | none => exact ensures_after fun _ => ensures_pure serving_nil
  | some i => exact ensures_after fun _ => ensures_pure (serving_instance (hfound i rfl))

theorem targetType_ne (context : Context) : context.targetType ≠ "" := by
  unfold Context.targetType targetTypeFor
  split <;> decide

theorem ensures_fallback (context : Context) : (fallback context).Ensures (Serving context) := by
  have hmissing : ∀ target, (fallback.missing context target).Ensures (Serving context) :=
    fun target => ensures_after fun _ => ensures_useDefault context
  unfold fallback
  split
  · rename_i target _ _
    have hread : (Act.getInstance target (.text context.targetType)).Ensures fun found =>
        ∀ i, found = some i → i.type = .text context.targetType :=
      ensures_read fun store found h i hi =>
        Store.getInstance_type (targetType_ne context) (hi ▸ h)
    refine ensures_bind hread fun found hfound => ?_
    cases found with
    | none => exact hmissing target
    | some i =>
      refine ensures_ite (ensures_after fun _ => ensures_pure ?_) (hmissing target)
      exact serving_instance (hfound i rfl)
  · exact ensures_useDefault context

theorem verdictFor_proposed (rule : Option Rule) (context : Context) (p : Placement) :
    (verdictFor rule context p).proposed = some p := by
  unfold verdictFor
  split
  · rfl
  · split <;> rfl

theorem ensures_judge {r : Router} (h : ∀ runner ∈ r.runList, runner.Serves)
    (rules active : List Rule) (item : Item) (context : Context) :
    (r.judge rules active item context).Ensures (Serving context) := by
  refine ensures_after fun item => ?_
  refine ensures_bind (ensures_collect h item context) fun found hfound => ?_
  refine ensures_bind (ensures_sift rules item context hfound) fun sifted hsifted => ?_
  cases sifted with
  | none => exact ensures_pure (serving_singleton fun p hp => by cases hp)
  | some ps =>
    have hselect : (Act.ofResult (Placement.select ps)).Ensures fun selected =>
        ∀ q ∈ selected, q ∈ ps := fun _ _ _ h => fun _ => Placement.mem_of_select (ofResult_returns h).1
    refine ensures_bind hselect fun selected hselected => ?_
    refine ensures_ite (ensures_fallback context) (ensures_after fun _ => ensures_pure ?_)
    intro v hv p hp
    obtain ⟨q, hq, rfl⟩ := List.mem_map.1 hv
    obtain rfl := Option.some.inj ((verdictFor_proposed _ context q).symm.trans hp)
    exact hsifted ps rfl q (hselected q hq)

end Router

theorem Service.runners_serve (service : Service) :
    ∀ runner ∈ service.router.runList, runner.Serves := by
  intro runner hr
  rcases Runner.mem_runList hr with hr | hr
  · obtain ⟨e, -, rfl⟩ := List.mem_map.1 hr
    exact Runner.serves_ofEvaluator e
  · change runner ∈ (if service.usesPlugins then Runner.pluginFamilies.map Runner.ofPlugin else []) at hr
    split at hr
    · obtain ⟨family, -, rfl⟩ := List.mem_map.1 hr
      exact Runner.serves_ofPlugin family
    · cases hr

/-- Whatever is stored and whatever fails, the verdicts that a submission gets lead to instances of the
type that serves its content. -/
theorem Service.resolve_serves (service : Service) (item : Item) (context : Context) :
    (service.router.resolve item context).Ensures (Router.Serving context) := by
  refine ensures_ite (ensures_after fun _ => ensures_pure Router.serving_nil) ?_
  refine ensures_after fun rules => ensures_ite (Router.ensures_fallback context) ?_
  exact Router.ensures_judge service.runners_serve _ _ item context

end Watchgate
