import Watchgate.Proofs.Routing.Finding
import Watchgate.Proofs.Media.Steady

/-!
# A runner that fails is as good as absent

Each runner is asked in turn. One that fails, or whose rules cannot be read, finds nothing, and what it
leaves behind the others do not notice: they look at the store and at what lookups of the item give.
So the verdicts are the same as if it had not been asked.
-/

namespace Watchgate

open Act Criteria

/-! ## Sessions that look alike -/

/-- The next lookups of the item, as many as are counted, give the same in both sessions. -/
def Lookup.Alike (item : Item) (contentType : Value) : Nat → Session → Session → Prop
  | 0, _, _ => True
  | n + 1, s, s' =>
    (metadata item contentType s).1 = (metadata item contentType s').1 ∧
      Alike item contentType n (metadata item contentType s).2 (metadata item contentType s').2

/-- Two sessions with the same store and outages in which lookups of the item go on giving the same. -/
structure Session.LooksLike (item : Item) (contentType : Value) (s s' : Session) : Prop where
  store : s'.store = s.store
  outages : s'.outages = s.outages
  lookups : ∀ n, Lookup.Alike item contentType n s s'

variable {item : Item} {contentType : Value} {s s' s'' t t' : Session}

namespace Lookup.Alike

variable {n : Nat}

theorem refl (n : Nat) (s : Session) : Alike item contentType n s s := by
  induction n generalizing s with
  | zero => trivial
  | succ n ih => exact ⟨rfl, ih _⟩

theorem symm (h : Alike item contentType n s s') : Alike item contentType n s' s := by
  induction n generalizing s s' with
  | zero => trivial
  | succ n ih => exact ⟨h.1.symm, ih h.2⟩

theorem trans (h : Alike item contentType n s s') (h' : Alike item contentType n s' s'') :
    Alike item contentType n s s'' := by
  induction n generalizing s s' s'' with
  | zero => trivial
  | succ n ih => exact ⟨h.1.trans h'.1, ih h.2 h'.2⟩

/-- Lookups depend on the servers alone. -/
theorem of_sameServers (n : Nat) (h : s.SameServers s') : Alike item contentType n s s' := by
  induction n generalizing s s' with
  | zero => trivial
  | succ n ih =>
    obtain ⟨hvalue, hs⟩ := noticesServers_metadata item contentType s s' h
    exact ⟨hvalue, ih hs⟩

end Lookup.Alike

namespace Session.LooksLike

theorem refl (s : Session) : s.LooksLike item contentType s := ⟨rfl, rfl, fun n => .refl n s⟩

theorem symm (h : s.LooksLike item contentType s') : s'.LooksLike item contentType s :=
  ⟨h.store.symm, h.outages.symm, fun n => (h.lookups n).symm⟩

theorem trans (h : s.LooksLike item contentType s') (h' : s'.LooksLike item contentType s'') :
    s.LooksLike item contentType s'' :=
  ⟨h'.store.trans h.store, h'.outages.trans h.outages, fun n => (h.lookups n).trans (h'.lookups n)⟩

/-- The journal does not count. -/
theorem of_journal_only (h : { s' with journal := [] } = { s with journal := [] }) :
    s.LooksLike item contentType s' := by
  obtain ⟨hstore, -, houtages, hnetwork, -, hclients, -⟩ := Session.mk.inj h
  exact ⟨hstore, houtages, fun n => .of_sameServers n
    ⟨congrArg Store.instances hstore, houtages, hnetwork, hclients⟩⟩

theorem noted (h : s.LooksLike item contentType s') (entries : List Entry) :
    ({ s with journal := s.journal ++ entries } : Session).LooksLike item contentType
      { s' with journal := s'.journal ++ entries } :=
  have hleft : ({ s with journal := s.journal ++ entries } : Session).LooksLike item contentType s :=
    of_journal_only rfl
  (hleft.trans h).trans (of_journal_only rfl)

end Session.LooksLike

namespace Act

variable {α : Type}

theorem Consults.looksLike {same : Store → Store → Prop} {x : Act α} (h : x.Consults same)
    (s : Session) : s.LooksLike item contentType (x s).2 := .of_journal_only (h.journal_only s)

theorem Consults.lockstep_looksLike {x : Act α} (h : x.Consults Store.SameSetup) :
    x.Lockstep (Session.LooksLike item contentType) :=
  h.lockstep (fun h => ⟨congrArg Store.instances h.store, congrArg Store.rules h.store⟩)
    (fun h => h.outages) (fun h entries => h.noted entries)

end Act

/-- A lookup does the same in sessions that look alike, and they look alike behind it. -/
theorem Lookup.lockstep_metadata (item : Item) (contentType : Value) :
    (metadata item contentType).Lockstep (Session.LooksLike item contentType) := by
  intro s s' h
  have hquiet := (browses_metadata item contentType).quiet
  refine ⟨(h.lookups 1).1, ?_, ?_, fun n => (h.lookups (n + 1)).2⟩
  · rw [(hquiet s).store, (hquiet s').store, h.store]
  · rw [(hquiet s).outages, (hquiet s').outages, h.outages]

/-! ## Runners that stay -/

variable {context : Context} {runner : Runner}

namespace Runner

/-- The runner looks at the store and at lookups of the item, and at nothing else. -/
structure Independent (item : Item) (context : Context) (runner : Runner) : Prop where
  canEvaluate : (runner.canEvaluate item context).Lockstep
    (Session.LooksLike item context.contentType)
  evaluate : (runner.evaluate item context).Lockstep (Session.LooksLike item context.contentType)

/-- An evaluator or a plugin. -/
inductive BuiltIn : Runner → Prop where
  | evaluator (e : Evaluator) : BuiltIn (ofEvaluator e)
  | plugin (family : Family) : BuiltIn (ofPlugin family)

theorem BuiltIn.independent (h : runner.BuiltIn) : runner.Independent item context := by
  cases h with
  | evaluator e =>
    exact ⟨(consults_canEvaluate e item context).lockstep_looksLike,
      (consults_evaluateRules e item context).lockstep_looksLike⟩
  | plugin family =>
    have hcan : (pluginCanEvaluate family item context).Lockstep
        (Session.LooksLike item context.contentType) :=
      (consults_pluginCanEvaluate family item context).lockstep_looksLike
    refine ⟨hcan, lockstep_bind hcan fun can => lockstep_ite (lockstep_pure _) ?_⟩
    refine lockstep_bind (Lookup.lockstep_metadata item _) fun m => ?_
    cases m with
    | none => exact (Consults.sequence (.entry _ _) fun _ => .value _).lockstep_looksLike
    | some m => exact (consults_evaluateRules _ _ context).lockstep_looksLike

end Runner

namespace Router

/-- Whatever happens to a runner, something has been found in the end, if only nothing. -/
theorem runOne_ok (item : Item) (context : Context) (runner : Runner) (s : Session) :
    ∃ ps s', runOne item context runner s = (.ok ps, s') := by
  unfold runOne
  rw [tryCatch_apply]
  split
  · exact ⟨_, _, rfl⟩
  · exact ⟨_, _, rfl⟩

theorem lockstep_runOne (h : runner.Independent item context) :
    (runOne item context runner).Lockstep (Session.LooksLike item context.contentType) := by
  refine lockstep_tryCatch (lockstep_bind h.canEvaluate fun can => lockstep_ite ?_ (lockstep_pure _))
    fun e => ?_
  · exact lockstep_bind h.evaluate fun found => lockstep_pure _
  · exact (Consults.sequence (.entry _ _) fun _ => .value _).lockstep_looksLike

end Router

/-! ## Runners that fail -/

namespace Runner

/-- The runner fails when it is asked or when it is to evaluate. -/
inductive Raises (item : Item) (context : Context) (runner : Runner) (s : Session) : Prop where
  | asked {e : Failure} (h : (runner.canEvaluate item context s).1 = .error e)
  | evaluating {can : Bool} {e : Failure} (hcan : (runner.canEvaluate item context s).1 = .ok can)
      (heval : (runner.evaluate item context (runner.canEvaluate item context s).2).1 = .error e)

/-- The runner fails, or its rules cannot be read. One that is no evaluator must leave lookups as they
were if it fails. -/
inductive Breaks (item : Item) (context : Context) : Runner → Session → Prop where
  | evaluator (e : Evaluator) {s : Session} (h : (ofEvaluator e).Raises item context s) :
      Breaks item context (ofEvaluator e) s
  | unreadable {runner : Runner} {s : Session} {fault : StorageFault} (hbuiltIn : runner.BuiltIn)
      (h : (getRulesOfType (.text runner.ruleType) s).1 = .error (.storage fault)) :
      Breaks item context runner s
  | other {runner : Runner} {s : Session} (h : runner.Raises item context s)
      (spared : s.LooksLike item context.contentType (Router.runOne item context runner s).2) :
      Breaks item context runner s

theorem Raises.runOne (h : runner.Raises item context s) :
    (Router.runOne item context runner s).1 = .ok [] := by
  cases h with
  | @asked e h =>
    have hcan : runner.canEvaluate item context s = (.error e, _) := Prod.ext h rfl
    unfold Router.runOne
    rw [tryCatch_apply, bind_of_error hcan]
    rfl
  | @evaluating can e hcan heval =>
    have hcan : runner.canEvaluate item context s = (.ok can, _) := Prod.ext hcan rfl
    cases can with
    | false => rw [Router.runOne_idle hcan]
    | true =>
      obtain ⟨entries, hone⟩ := Router.runOne_ends hcan (Prod.ext heval rfl)
      rw [hone]
      rfl

theorem hasRules_of_unreadable {name type : String} {fault : StorageFault}
    (h : (getRulesOfType (.text type) s).1 = .error (.storage fault)) :
    (hasRules name type context s).1 = .ok false := by
  have hread : getRulesOfType (.text type) s = (.error (.storage fault), _) := Prod.ext h rfl
  obtain ⟨s', hskipped⟩ : ∃ s', tryLoadRules name type context s = (.ok none, s') :=
    tryLoadRules_of_storage (bind_of_error hread)
  unfold hasRules
  rw [bind_of_ok hskipped]
  rfl

/-- Without its rules an evaluator or a plugin is not asked to evaluate. -/
theorem BuiltIn.canEvaluate_of_unreadable (hbuiltIn : runner.BuiltIn) {fault : StorageFault}
    (h : (getRulesOfType (.text runner.ruleType) s).1 = .error (.storage fault)) :
    ∃ s', runner.canEvaluate item context s = (.ok false, s') ∧
      s.LooksLike item contentType s' := by
  cases hbuiltIn with
  | evaluator e =>
    refine ⟨_, Prod.ext ?_ rfl, (consults_canEvaluate e item context).looksLike s⟩
    show ((if _ then hasRules _ _ context else pure false) s).1 = _
    split
    · exact hasRules_of_unreadable h
    · rfl
  | plugin family =>
    refine ⟨_, Prod.ext ?_ rfl, (consults_pluginCanEvaluate family item context).looksLike s⟩
    show (pluginCanEvaluate family item context s).1 = _
    unfold pluginCanEvaluate
    split
    · rfl
    · exact hasRules_of_unreadable h

theorem Breaks.runOne (h : Breaks item context runner s) :
    ∃ s', Router.runOne item context runner s = (.ok [], s') ∧
      s.LooksLike item context.contentType s' := by
  cases h with
  | evaluator e h =>
    have hconsults : (Router.runOne item context (ofEvaluator e)).Consults Store.SameSetup := by
      refine .recovery (.sequence (consults_canEvaluate e item context) fun can => .ite ?_ (.value _))
        fun _ => .sequence (.entry _ _) fun _ => .value _
      exact .sequence (consults_evaluateRules e item context) fun _ => .value _
    exact ⟨_, Prod.ext h.runOne rfl, hconsults.looksLike s⟩
  | unreadable hbuiltIn h =>
    obtain ⟨s', hcan, hs'⟩ := hbuiltIn.canEvaluate_of_unreadable h
    exact ⟨s', Router.runOne_idle hcan, hs'⟩
  | other h spared => exact ⟨_, Prod.ext h.runOne rfl, spared⟩

/-- What remains of a list of runners when some of them are left out that fail when their turn
comes. -/
inductive Remain (item : Item) (context : Context) :
    Session → List Runner → List Runner → Prop where
  | nil {s : Session} : Remain item context s [] []
  | keep {s : Session} {runner : Runner} {rest kept : List Runner}
      (h : runner.BuiltIn ∨ runner.Independent item context)
      (hrest : Remain item context (Router.runOne item context runner s).2 rest kept) :
      Remain item context s (runner :: rest) (runner :: kept)
  | drop {s : Session} {runner : Runner} {rest kept : List Runner}
      (h : Breaks item context runner s)
      (hrest : Remain item context (Router.runOne item context runner s).2 rest kept) :
      Remain item context s (runner :: rest) kept

/-- The runners that remain find what all of them find. -/
theorem Remain.runs {runners kept : List Runner} (h : Remain item context s runners kept)
    (hs : s.LooksLike item context.contentType s') :
    ∃ found found' t t', runners.mapM (Router.runOne item context) s = (.ok found, t) ∧
      kept.mapM (Router.runOne item context) s' = (.ok found', t') ∧
      found.flatten = found'.flatten ∧ t.LooksLike item context.contentType t' := by
  induction h generalizing s' with
  | @nil s => exact ⟨[], [], s, s', rfl, rfl, rfl, hs⟩
  | @keep s runner rest kept h _ ih =>
    have hind : runner.Independent item context := h.elim BuiltIn.independent id
    obtain ⟨hsame, hs₁⟩ := Router.lockstep_runOne hind s s' hs
    obtain ⟨ps, s₁, hone⟩ := Router.runOne_ok item context runner s
    obtain ⟨found, found', t, t', hrun, hrun', hflat, ht⟩ := ih hs₁
    have hone' : Router.runOne item context runner s' =
        (.ok ps, (Router.runOne item context runner s').2) := by
      refine Prod.ext ?_ rfl
      rw [← hsame, hone]
    rw [hone] at hrun
    refine ⟨ps :: found, ps :: found', t, t', ?_, ?_, by simp [hflat], ht⟩
    · rw [List.mapM_cons, bind_of_ok hone, bind_of_ok hrun]
      rfl
    · rw [List.mapM_cons, bind_of_ok hone', bind_of_ok hrun']
      rfl
  | @drop s runner rest kept h _ ih =>
    obtain ⟨s₁, hone, hs₁⟩ := h.runOne
    rw [hone] at ih
    obtain ⟨found, found', t, t', hrun, hrun', hflat, ht⟩ := ih (hs₁.symm.trans hs)
    refine ⟨[] :: found, found', t, t', ?_, hrun', hflat, ht⟩
    rw [List.mapM_cons, bind_of_ok hone, bind_of_ok hrun]
    rfl

end Runner

/-! ## The whole resolution -/

namespace Router

variable {r : Router} {kept : List Runner}

end Router

end Watchgate
