import Watchgate.Proofs.Routing.Finding

/-!
# What resolving comes to

A resolution completes the item, runs the list of runners, and settles what they found. Where the calls
to the store succeed, the verdicts are those that follow from the rules that were found; and where the
evaluators run alone and none of their rules goes wrong, those are the rules that match.
-/

namespace Watchgate

open Act Criteria

namespace Criteria

theorem ruleType_mem {e : Evaluator} (he : e ∈ evaluators) : e.family.ruleType ∈ ruleTypes := by
  rw [evaluators_eq] at he
  rcases List.mem_cons.1 he with rfl | he
  · exact List.mem_cons_self
  · obtain ⟨f, hf, rfl⟩ := List.mem_map.1 he
    exact .tail _ (List.mem_map_of_mem hf)

end Criteria

/-- The evaluators run without plugins, and there is somebody to run them. -/
structure Router.Alone (r : Router) : Prop where
  evaluators : r.evaluators = Criteria.evaluators.map Runner.ofEvaluator
  plugins : r.plugins = []
  pool : r.isParallel = true → 0 < r.workers

namespace Router

variable {context : Context} {item : Item} {s : Session} {rules : List Rule}

theorem Alone.runList_eq {r : Router} (h : r.Alone) :
    r.runList = Criteria.evaluators.map Runner.ofEvaluator := by
  unfold runList
  rw [h.evaluators, h.plugins, Runner.runList_evaluators]

/-- What is collected is what the runners find, one after the other. -/
theorem collect_of_runs {r : Router} {mk : Evaluator → Runner} {l : List Evaluator}
    {g : Evaluator → List Rule} (hlist : r.runList = l.map mk)
    (hpool : r.isParallel = true → 0 < r.workers) {s s' : Session}
    (hruns : (l.map mk).mapM (runOne item context) s
      = (.ok (l.map fun e => (g e).map Rule.toPlacement), s')) :
    r.collect item context s = (.ok ((l.flatMap g).map Rule.toPlacement), s') := by
  have hworks : (r.isParallel && decide (1 < r.runList.length) && decide (r.workers ≤ 0)) = false := by
    cases hp : r.isParallel with
    | false => rfl
    | true =>
      have := hpool hp
      have hnot : ¬ r.workers ≤ 0 := by omega
      simp [hnot]
  unfold collect
  simp only [hworks, Bool.false_eq_true, if_false]
  rw [hlist, bind_of_ok hruns, List.map_flatMap, List.flatMap_def]
  rfl

theorem Alone.collect_tells {r : Router} (h : r.Alone) (hans : s.Answers context)
    (hrules : s.store.getRules = .ok rules) (item : Item) {s₁ : Session} (hs : s.SameTables s₁) :
    ∃ s₂, r.collect item context s₁ = (.ok ((Criteria.evaluators.flatMap fun e =>
      e.found rules item context).map Rule.toPlacement), s₂) ∧ s.SameTables s₂ := by
  have hone : ∀ e ∈ Criteria.evaluators, ∀ (_ : Nat) s', s.SameTables s' → ∃ s'',
      runOne item context (Runner.ofEvaluator e) s'
        = (.ok ((e.found rules item context).map Rule.toPlacement), s'') ∧ s.SameTables s'' := by
    intro e he _ s' hs'
    obtain ⟨entries, hone⟩ := tells_runOne_ofEvaluator hans hrules (ruleType_mem he) item hs'
    exact ⟨_, hone, hs'.trans (s'.sameRecords_journal entries).toSameTables⟩
  obtain ⟨s₂, hruns, hs₂⟩ := mapM_within (l := Criteria.evaluators) (m := Runner.ofEvaluator)
    (f := runOne item context) (g := fun e => (e.found rules item context).map Rule.toPlacement)
    (k := fun _ => 0) (I := fun _ s' => s.SameTables s') hone hs
  exact ⟨s₂, collect_of_runs h.runList_eq h.pool hruns, hs₂⟩

/-- Content of a kind that is not known goes nowhere. -/
theorem resolve_unknown (r : Router) (h : context.knowsContentType = false) (item : Item) (s : Session) :
    (r.resolve item context s).1 = .ok [] := by
  unfold resolve
  rw [h]
  rfl

/-- However the rules were found, the verdicts follow from them. -/
theorem resolve_of_search {r : Router} (hans : s.Answers context) (hkeyed : s.store.RulesKeyed)
    (hknown : context.knowsContentType = true) (hrules : s.store.getRules = .ok rules)
    {fs : List Rule} (hfs : ∀ f ∈ fs, f ∈ rules ∧ f.isActiveFor context.targetType = true)
    (hsearch : rules.filter (·.isActiveFor context.targetType) ≠ [] → ∃ item' s₁ s₂,
      r.complete (rules.filter (·.isActiveFor context.targetType)) item context s = (.ok item', s₁) ∧
      r.collect item' context s₁ = (.ok (fs.map Rule.toPlacement), s₂) ∧ s.SameTables s₂) :
    ∃ vs, (r.resolve item context s).1 = .ok vs ∧ Resolved s.store context (· ∈ fs) vs := by
  have hread : getRules s = (.ok rules, s) := by
    obtain ⟨rules', h⟩ := hans.rules
    obtain rfl := Except.ok.inj ((read_returns h).1.symm.trans hrules)
    exact h
  unfold resolve
  simp only [hknown, Bool.not_true, Bool.false_eq_true, if_false]
  rw [bind_of_ok hread]
  by_cases hactive : rules.filter (·.isActiveFor context.targetType) = []
  · have hnone : ∀ f, f ∉ fs := by
      intro f hf
      obtain ⟨hmem, hf⟩ := hfs f hf
      have hin : f ∈ rules.filter (·.isActiveFor context.targetType) := List.mem_filter.2 ⟨hmem, hf⟩
      rw [hactive] at hin
      cases hin
    simp only [hactive, List.isEmpty_nil, if_true]
    refine ⟨_, (fallback_gives hans (.refl s)).value, .unplaced ?_ ?_⟩
    · exact fun f hf => absurd hf (hnone f)
    · exact fun f hf => hnone f hf.1
  · obtain ⟨item', s₁, s₂, hcomplete, hcollect, hs₂⟩ := hsearch hactive
    have hempty : (rules.filter (·.isActiveFor context.targetType)).isEmpty = false := by
      simpa using hactive
    simp only [hempty, Bool.false_eq_true, if_false]
    rw [judge_eq, bind_of_ok hcomplete, bind_of_ok hcollect]
    have htargets : ∀ f ∈ fs, ∃ i,
        getInstance f.targetId (.text context.targetType) s = (.ok i, s) := by
      intro f hf
      obtain ⟨row, hrow, hreadrow⟩ := Store.row_of_mem_getRules hrules (hfs f hf).1
      obtain ⟨p, -, rfl⟩ := Store.readRule_ok hreadrow
      exact hans.target row hrow
    obtain ⟨vs, hvs, hres⟩ := settle_gives (hkeyed.eq_of_id hrules) item' hfs htargets hans hs₂
    exact ⟨vs, hvs.value, hres⟩

end Router

/-! ## The rules that match -/

/-- The item with the metadata that the rules in use ask for. -/
def Router.completed (r : Router) (item : Item) (context : Context) (s : Session) :
    Except Failure Item := do
  let rules ← s.store.getRules
  (r.complete (rules.filter (·.isActiveFor context.targetType)) item context s).1

/-- The rule is in use, its family has data to compare, and the comparison holds. -/
def Rule.Matches (store : Store) (context : Context) (item : Item) (r : Rule) : Prop :=
  (∃ rules, store.getRules = .ok rules ∧ r ∈ rules) ∧ r.isActiveFor context.targetType = true ∧
    ∃ e ∈ evaluators, r.type = .text e.family.ruleType ∧ e.family.hasData item context = true ∧
      e.answer item context r = .ok true

/-- No rule in use goes wrong where its family has data to compare. -/
def Store.Calm (store : Store) (context : Context) (item : Item) : Prop :=
  ∀ rules, store.getRules = .ok rules → ∀ e ∈ evaluators, e.family.hasData item context = true →
    ∀ r ∈ Rule.inUse rules e.family.ruleType context, ∃ b, e.answer item context r = .ok b

theorem Store.Calm.of_check {store : Store} {context : Context} {item : Item} {rules : List Rule}
    (hrules : store.getRules = .ok rules)
    (hcheck : (evaluators.all fun e => !e.family.hasData item context ||
      (Rule.inUse rules e.family.ruleType context).all fun r =>
        (e.answer item context r).toBool) = true) : store.Calm context item := by
  intro rules' hrules' e he hdata rule hrule
  obtain rfl := Except.ok.inj (hrules'.symm.trans hrules)
  have hall := List.all_eq_true.1 hcheck e he
  rw [hdata, Bool.not_true, Bool.false_or] at hall
  have hanswer := List.all_eq_true.1 hall rule hrule
  cases h : e.answer item context rule with
  | ok b => exact ⟨b, rfl⟩
  | error f => simp [h, Except.toBool] at hanswer

theorem Store.Calm.mem_found {store : Store} {context : Context} {item : Item} {rules : List Rule}
    (hcalm : store.Calm context item) (hrules : store.getRules = .ok rules) (r : Rule) :
    r ∈ evaluators.flatMap (fun e => e.found rules item context) ↔ r.Matches store context item := by
  have hfound : ∀ e ∈ evaluators, r ∈ e.found rules item context ↔
      e.family.hasData item context = true ∧ r ∈ Rule.inUse rules e.family.ruleType context ∧
        e.answer item context r = .ok true :=
    fun e he => Evaluator.mem_found (hcalm rules hrules e he) r
  rw [List.mem_flatMap]
  constructor
  · rintro ⟨e, he, hr⟩
    obtain ⟨hdata, hin, hyes⟩ := (hfound e he).1 hr
    obtain ⟨hmem, htype, hactive⟩ := Rule.mem_inUse.1 hin
    exact ⟨⟨rules, hrules, hmem⟩, hactive, e, he, htype, hdata, hyes⟩
  · rintro ⟨⟨rules', hrules', hmem⟩, hactive, e, he, htype, hdata, hyes⟩
    obtain rfl := Except.ok.inj (hrules'.symm.trans hrules)
    exact ⟨e, he, (hfound e he).2 ⟨hdata, Rule.mem_inUse.2 ⟨hmem, htype, hactive⟩, hyes⟩⟩

namespace Router

variable {context : Context} {item item' : Item} {s : Session}

/-- Where no rule goes wrong, routing finds the rules that match the completed item. -/
theorem Alone.resolve_matching {r : Router} (halone : r.Alone) (hquiet : r.Quiet)
    (hans : s.Answers context) (hkeyed : s.store.RulesKeyed)
    (hknown : context.knowsContentType = true)
    (hcomplete : r.completed item context s = .ok item')
    (hcalm : s.store.Calm context item') :
    ∃ vs, (r.resolve item context s).1 = .ok vs ∧
      Resolved s.store context (Rule.Matches s.store context item') vs := by
  obtain ⟨rules, hread⟩ := hans.rules
  have hrules : s.store.getRules = .ok rules := (read_returns hread).1
  have hfs : ∀ f ∈ Criteria.evaluators.flatMap (fun e => e.found rules item' context),
      f ∈ rules ∧ f.isActiveFor context.targetType = true := by
    intro f hf
    obtain ⟨e, -, hf⟩ := List.mem_flatMap.1 hf
    exact Evaluator.mem_rules_of_found hf
  obtain ⟨vs, hvs, hres⟩ := resolve_of_search hans hkeyed hknown hrules hfs fun _ => by
    have hdone : (r.complete (rules.filter (·.isActiveFor context.targetType)) item context s).1
        = .ok item' := by
      rw [completed, hrules] at hcomplete
      exact hcomplete
    have hs₁ := (quiet_complete hquiet (rules.filter (·.isActiveFor context.targetType)) item context
      s).toSameTables
    obtain ⟨s₂, hcollect, hs₂⟩ := halone.collect_tells hans hrules item' hs₁
    exact ⟨item', _, s₂, Prod.ext hdone rfl, hcollect, hs₂⟩
  exact ⟨vs, hvs, hres.congr (hcalm.mem_found hrules)⟩

/-- What routing comes to, where no call to the store fails and no rule goes wrong: it ends with the
verdicts that follow from the rules that match the completed item, and with no others. -/
theorem resolve_eq_ok_iff {r : Router} (halone : r.Alone) (hquiet : r.Quiet) (hans : s.Answers context)
    (hkeyed : s.store.RulesKeyed) (hknown : context.knowsContentType = true)
    (hcomplete : r.completed item context s = .ok item')
    (hcalm : s.store.Calm context item') :
    (∃ vs, (r.resolve item context s).1 = .ok vs) ∧ ∀ vs, (r.resolve item context s).1 = .ok vs ↔
      Resolved s.store context (Rule.Matches s.store context item') vs := by
  obtain ⟨vs, hvs, hres⟩ := halone.resolve_matching hquiet hans hkeyed hknown hcomplete hcalm
  refine ⟨⟨vs, hvs⟩, fun vs' => ?_⟩
  constructor
  · intro h
    obtain rfl := Except.ok.inj (hvs.symm.trans h)
    exact hres
  · intro h
    rw [h.unique hres]
    exact hvs

/-- For instance, of two rules for the same target that match, the one with the higher order decides. -/
theorem resolve_eq_ok_iff_two_rules :
    let r : Router := {
      evaluators := Criteria.evaluators.map Runner.ofEvaluator, enrich := some Lookup.enrich }
    let drama (id order : Int) (genre : String) : Rule := {
      id, name := .text genre, type := .text "genre", targetType := .text "radarr", targetId := 2, order
      criteria := .map [("genre", .text genre)] }
    let s : Session := {
      now := .ofDate ⟨738959⟩
      store := {
        instances := [{ id := 2, type := .text "radarr" }]
        rules := [drama 1 50 "Drama", drama 2 60 "drama", drama 3 70 "Comedy"] } }
    let item : Item := { title := .text "Dune", genres := [.text "DRAMA"] }
    let context : Context := { contentType := .text "movie" }
    (r.resolve item context s).1 = .ok [.route (drama 2 60 "drama").toPlacement] ∧
      Resolved s.store context (Rule.Matches s.store context item)
        [.route (drama 2 60 "drama").toPlacement] := by
  intro r drama s item context
  have halone : r.Alone := ⟨rfl, rfl, nofun⟩
  have hquiet : r.Quiet := {
    evaluators := by
      intro e he
      obtain ⟨e, -, rfl⟩ := List.mem_map.1 he
      exact Runner.quiet_ofEvaluator e
    plugins := nofun
    enrich := by
      intro f hf item contentType
      obtain rfl := Option.some.inj hf
      exact Lookup.quiet_enrich item contentType }
  have hrules : s.store.getRules = .ok s.store.rules := by cbv
  have htarget : ∀ rule ∈ s.store.rules, rule.targetId = 2 := by
    simp [s, drama]
  have hans : s.Answers context := {
    rules := ⟨_, read_of_ok rfl hrules⟩
    rulesOfType := fun type _ => ⟨_, read_of_ok rfl (Store.getRulesOfType_eq hrules type)⟩
    target := by
      intro rule hrule
      rw [htarget rule hrule]
      exact ⟨some { id := 2, type := .text "radarr" }, read_of_ok rfl (by cbv)⟩
    syncTarget := fun _ h => (by cases h)
    standard := ⟨none, rfl⟩ }
  have hcalm : s.store.Calm context item := .of_check hrules (by cbv)
  have hcomplete : r.completed item context s = .ok item := by
    rw [Router.completed, hrules]
    rfl
  have hkeyed : s.store.RulesKeyed := by
    change [1, 2, 3].Nodup
    decide
  have hvalue : (r.resolve item context s).1 = .ok [.route (drama 2 60 "drama").toPlacement] := by
    cbv
  exact ⟨hvalue, ((resolve_eq_ok_iff halone hquiet hans hkeyed rfl hcomplete hcalm).2 _).1 hvalue⟩

end Router

end Watchgate
