import Watchgate.Proofs.Media.Browsing
import Watchgate.Routing.Resolve

/-!
# Routing browses

Finding out where an item goes reads the rules and the instances, and may look up metadata. Nothing
else in the store plays a part, and no record changes. The statements are about every router whose
runners, and whose way of completing items, do no more than that; those of the service do not.
-/

namespace Watchgate

open Act Criteria

/-- Two stores with the same instances and the same rules. -/
structure Store.SameSetup (s s' : Store) : Prop where
  instances : s'.instances = s.instances
  rules : s'.rules = s.rules

namespace Act

variable {α : Type}

theorem Browses.ofInstances {x : Act α} (h : x.Browses Store.SameInstances) :
    x.Browses Store.SameSetup := h.mono fun _ _ hab => hab.instances

theorem Consults.ofInstances {x : Act α} (h : x.Consults Store.SameInstances) :
    x.Consults Store.SameSetup := h.mono fun _ _ hab => hab.instances

theorem browses_getRules : getRules.Browses Store.SameSetup :=
  .reading fun _ _ h => by
    unfold Store.getRules
    rw [h.rules]

theorem consults_getRulesOfType (type : Value) :
    (getRulesOfType type).Consults Store.SameSetup :=
  .reading fun _ _ h => by
    unfold Store.getRulesOfType
    rw [h.rules]

end Act

/-! ## Runners -/

/-- Whatever the runner is asked, it answers by browsing. -/
structure Runner.Browses (r : Runner) : Prop where
  canEvaluate : ∀ item context, (r.canEvaluate item context).Browses Store.SameSetup
  evaluate : ∀ item context, (r.evaluate item context).Browses Store.SameSetup

/-- Whatever the runner is asked, it answers without changing a record. -/
structure Runner.Quiet (r : Runner) : Prop where
  canEvaluate : ∀ item context, (r.canEvaluate item context).Quiet
  evaluate : ∀ item context, (r.evaluate item context).Quiet

namespace Runner

theorem Browses.quiet {r : Runner} (h : r.Browses) : r.Quiet :=
  ⟨fun item context => (h.canEvaluate item context).quiet,
    fun item context => (h.evaluate item context).quiet⟩

theorem consults_tryLoadRules (name ruleType : String) (context : Context) :
    (tryLoadRules name ruleType context).Consults Store.SameSetup := by
  have hload : (loadRules ruleType context).Consults Store.SameSetup :=
    .sequence (consults_getRulesOfType _) fun _ => .value _
  refine .recovery (.map _ hload) fun e => ?_
  split
  · exact .sequence (.entry _ _) fun _ => .value _
  · exact .failure _

theorem consults_hasRules (name ruleType : String) (context : Context) :
    (hasRules name ruleType context).Consults Store.SameSetup :=
  .sequence (consults_tryLoadRules name ruleType context) fun _ => .value _

theorem consults_matching (e : Evaluator) (item : Item) (context : Context) (rules : List Rule) :
    (matching e item context rules).Consults Store.SameSetup := by
  induction rules with
  | nil => exact .value _
  | cons rule rules ih => exact .sequence (.judgement _) fun _ => .sequence ih fun _ => .value _

theorem consults_evaluateRules (e : Evaluator) (item : Item) (context : Context) :
    (evaluateRules e item context).Consults Store.SameSetup := by
  refine .ite (.value _) (.sequence (consults_tryLoadRules _ _ context) fun rules => ?_)
  cases rules with
  | none => exact .value _
  | some rules => exact .sequence (consults_matching e item context rules) fun _ => .value _

theorem consults_canEvaluate (e : Evaluator) (item : Item) (context : Context) :
    ((ofEvaluator e).canEvaluate item context).Consults Store.SameSetup :=
  .ite (consults_hasRules _ _ context) (.value _)

theorem browses_ofEvaluator (e : Evaluator) : (ofEvaluator e).Browses where
  canEvaluate item context := (consults_canEvaluate e item context).browses
  evaluate item context := (consults_evaluateRules e item context).browses

theorem quiet_ofEvaluator (e : Evaluator) : (ofEvaluator e).Quiet := (browses_ofEvaluator e).quiet

theorem consults_pluginCanEvaluate (family : Family) (item : Item) (context : Context) :
    (pluginCanEvaluate family item context).Consults Store.SameSetup :=
  .ite (.value _) (consults_hasRules _ _ context)

theorem browses_ofPlugin (family : Family) : (ofPlugin family).Browses where
  canEvaluate item context := (consults_pluginCanEvaluate family item context).browses
  evaluate item context := by
    refine .sequence (consults_pluginCanEvaluate family item context).browses fun can => ?_
    refine .ite (.value _) (.sequence (Lookup.browses_metadata item _).ofInstances fun m => ?_)
    cases m with
    | none => exact .sequence (.entry _ _) fun _ => .value _
    | some m => exact (consults_evaluateRules _ _ context).browses

theorem mem_extraPlugins {evaluators plugins : List Runner} {r : Runner}
    (h : r ∈ extraPlugins evaluators plugins) : r ∈ plugins := by
  induction plugins with
  | nil => exact h
  | cons p ps ih =>
    rw [extraPlugins] at h
    split at h
    · exact List.mem_cons_of_mem _ (ih h)
    · rcases List.mem_cons.1 h with rfl | h
      · exact List.mem_cons_self
      · exact List.mem_cons_of_mem _ (ih h)

/-- Whoever runs is an evaluator or a plugin. -/
theorem mem_runList {evaluators plugins : List Runner} {r : Runner}
    (h : r ∈ runList evaluators plugins) : r ∈ evaluators ∨ r ∈ plugins := by
  rw [runList, List.mem_mergeSort, List.mem_append] at h
  rcases h with h | h
  · obtain ⟨e, he, rfl⟩ := List.mem_map.1 h
    cases hp : replacement? plugins e with
    | none => exact .inl (by simpa [hp] using he)
    | some p =>
      have := List.mem_of_find?_eq_some hp
      exact .inr (by simpa [hp] using this)
  · exact .inr (mem_extraPlugins h)

/-- Evaluators by falling priority run as they are listed where there are no plugins. -/
theorem runList_of_sorted {evaluators : List Runner}
    (h : evaluators.Pairwise fun a b => b.priority ≤ a.priority) :
    runList evaluators [] = evaluators := by
  show (evaluators.map (fun e => e) ++ []).mergeSort _ = _
  rw [List.map_id', List.append_nil]
  refine List.mergeSort_of_pairwise (h.imp fun hab => ?_)
  simpa using hab

end Runner

namespace Criteria

theorem byPriority_families : byPriority families = families :=
  List.mergeSort_of_pairwise (by decide)

/-- The evaluators in the order in which they run. -/
theorem evaluators_eq : evaluators =
    { family := conditional, leafFamilies := some fieldFamilies } ::
      fieldFamilies.map fun f => { family := f } := by
  unfold evaluators evaluatorsOf
  rw [byPriority_families]
  rfl

end Criteria

theorem Runner.runList_evaluators :
    runList (evaluators.map ofEvaluator) [] = evaluators.map ofEvaluator := by
  refine runList_of_sorted ?_
  rw [evaluators_eq]
  decide

/-! ## Routers -/

/-- A router all of whose parts browse. -/
structure Router.Browses (r : Router) : Prop where
  evaluators : ∀ e ∈ r.evaluators, e.Browses
  plugins : ∀ p ∈ r.plugins, p.Browses
  enrich : ∀ f, r.enrich = some f → ∀ item contentType,
    (f item contentType).Browses Store.SameSetup

/-- A router all of whose parts are quiet. -/
structure Router.Quiet (r : Router) : Prop where
  evaluators : ∀ e ∈ r.evaluators, e.Quiet
  plugins : ∀ p ∈ r.plugins, p.Quiet
  enrich : ∀ f, r.enrich = some f → ∀ item contentType, (f item contentType).Quiet

namespace Router

theorem Browses.quiet {r : Router} (h : r.Browses) : r.Quiet :=
  ⟨fun e he => (h.evaluators e he).quiet, fun p hp => (h.plugins p hp).quiet,
    fun f hf item contentType => (h.enrich f hf item contentType).quiet⟩

theorem Browses.of_mem_runList {r : Router} (h : r.Browses) {runner : Runner}
    (hr : runner ∈ r.runList) : runner.Browses := by
  rcases Runner.mem_runList hr with hr | hr
  · exact h.evaluators _ hr
  · exact h.plugins _ hr

theorem browses_runOne (item : Item) (context : Context) {runner : Runner} (h : runner.Browses) :
    (runOne item context runner).Browses Store.SameSetup := by
  refine .recovery ?_ fun _ => .sequence (.entry _ _) fun _ => .value _
  refine .sequence (h.canEvaluate item context) fun can => .ite ?_ (.value _)
  exact .sequence (h.evaluate item context) fun _ => .value _

theorem browses_collect {r : Router} (h : r.Browses) (item : Item) (context : Context) :
    (r.collect item context).Browses Store.SameSetup := by
  refine .ite (.failure _) (.sequence (.mapM fun runner hr => ?_) fun _ => .value _)
  exact browses_runOne item context (h.of_mem_runList hr)

theorem browses_complete {r : Router} (h : r.Browses) (active : List Rule) (item : Item)
    (context : Context) : (r.complete active item context).Browses Store.SameSetup := by
  unfold complete
  split
  · exact .ite (h.enrich _ ‹_› item _) (.value _)
  · exact .value _

theorem quiet_complete {r : Router} (h : r.Quiet) (active : List Rule) (item : Item)
    (context : Context) : (r.complete active item context).Quiet := by
  unfold complete
  split
  · exact quiet_ite (h.enrich _ ‹_› item _) (quiet_pure _)
  · exact quiet_pure _

theorem consults_isValidTarget (context : Context) (p : Placement) :
    (isValidTarget context p).Consults Store.SameSetup :=
  .sequence (consults_getInstance _ _).ofInstances fun _ =>
    .ite (.value _) (.sequence (.entry _ _) fun _ => .value _)

theorem consults_sift (rules : List Rule) (item : Item) (context : Context) (ps : List Placement) :
    (sift rules item context ps).Consults Store.SameSetup := by
  induction ps with
  | nil => exact .value _
  | cons p ps ih =>
    rw [sift]
    cases effectOf (ruleOf? rules p) with
    | reject => exact .sequence (.entry _ _) fun _ => .value _
    | pass => exact .sequence (.entry _ _) fun _ => ih
    | place =>
      refine .sequence (consults_isValidTarget context _) fun isValid => ?_
      exact .sequence ih fun rest => .value _

theorem consults_useDefault (context : Context) :
    (useDefault context).Consults Store.SameSetup := by
  refine .sequence (consults_getDefaultInstance _).ofInstances fun found => ?_
  cases found <;> exact .sequence (.entry _ _) fun _ => .value _

theorem consults_fallback (context : Context) : (fallback context).Consults Store.SameSetup := by
  have hmissing : ∀ target, (fallback.missing context target).Consults Store.SameSetup :=
    fun target => .sequence (.entry _ _) fun _ => consults_useDefault context
  unfold fallback
  split
  · refine .sequence (consults_getInstance _ _).ofInstances fun found => ?_
    cases found with
    | none => exact hmissing _
    | some i => exact .ite (.sequence (.entry _ _) fun _ => .value _) (hmissing _)
  · exact consults_useDefault context

theorem browses_judge {r : Router} (h : r.Browses) (rules active : List Rule) (item : Item)
    (context : Context) : (r.judge rules active item context).Browses Store.SameSetup := by
  refine .sequence (browses_complete h active item context) fun item => ?_
  refine .sequence (browses_collect h item context) fun found => ?_
  refine .sequence (consults_sift rules item context found).browses fun placements => ?_
  cases placements with
  | none => exact .value _
  | some placements =>
    refine .sequence (.result _) fun selected => .ite (consults_fallback context).browses ?_
    exact .sequence (.forM (fun _ => .entry _ _) selected) fun _ => .value _

/-- Resolving where an item goes browses. -/
theorem browses_resolve {r : Router} (h : r.Browses) (item : Item) (context : Context) :
    (r.resolve item context).Browses Store.SameSetup := by
  refine .ite (.sequence (.entry _ _) fun _ => .value _) ?_
  refine .sequence browses_getRules fun rules => .ite (consults_fallback context).browses ?_
  exact browses_judge h rules _ item context

end Router

end Watchgate
