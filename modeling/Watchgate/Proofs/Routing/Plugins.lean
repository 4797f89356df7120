import Watchgate.Proofs.Criteria.Data
import Watchgate.Proofs.Media.Steady
import Watchgate.Service

/-!
# Plugins and completed items

With plugins the years and languages of items are looked up by the runners that need them; without
plugins an item is completed before anybody runs. As long as all lookups of an item give the same, both
ways find the same rules one after the other, and so they come to the same verdicts.
-/

namespace Watchgate

open Act Criteria

namespace Runner

/-- Whether a plugin takes the place of an evaluator. -/
def isReplaced (e : Evaluator) : Bool := pluginFamilies.any (·.ruleType = e.family.ruleType)

/-- The runner for an evaluator where plugins are used. -/
def withPlugins (e : Evaluator) : Runner :=
  if isReplaced e then ofPlugin e.family else ofEvaluator e

theorem runList_plugins :
    runList (evaluators.map ofEvaluator) (pluginFamilies.map ofPlugin) = evaluators.map withPlugins := by
  have hchosen : (evaluators.map ofEvaluator).map
      (fun e => (replacement? (pluginFamilies.map ofPlugin) e).getD e) = evaluators.map withPlugins := by
    rw [evaluators_eq]
    rfl
  have hextra : extraPlugins (evaluators.map ofEvaluator) (pluginFamilies.map ofPlugin) = [] := by
    rw [evaluators_eq]
    rfl
  unfold runList
  simp only [hchosen, hextra, List.append_nil]
  refine List.mergeSort_of_pairwise ?_
  rw [evaluators_eq]
  decide

end Runner

namespace Criteria.Evaluator

/-- The rules that a plugin finds for an item whose lookups give `m`. -/
def foundLookedUp (f : Family) (rules : List Rule) (m : Option Metadata) (item : Item)
    (context : Context) : List Rule :=
  if item.guids.isEmpty then []
  else match m with
    | none => []
    | some m => found { family := f } rules (item.withMetadata m) context

theorem foundLookedUp_of_none_inUse {f : Family} {rules : List Rule} {context : Context}
    (h : Rule.inUse rules f.ruleType context = []) (m : Option Metadata) (item : Item) :
    foundLookedUp f rules m item context = [] := by
  unfold foundLookedUp
  split
  · rfl
  · cases m with
    | none => rfl
    | some m => exact found_of_none_inUse (e := { family := f }) h _

/-- The rules that an evaluator, or the plugin in its place, finds. -/
def foundWithPlugins (e : Evaluator) (rules : List Rule) (m : Option Metadata) (item : Item)
    (context : Context) : List Rule :=
  if Runner.isReplaced e then foundLookedUp e.family rules m item context
  else e.found rules item context

/-- How many lookups an evaluator, or the plugin in its place, makes. -/
def lookups (rules : List Rule) (item : Item) (context : Context) (e : Evaluator) : Nat :=
  if Runner.isReplaced e && !item.guids.isEmpty
    && !(Rule.inUse rules e.family.ruleType context).isEmpty then 1 else 0

end Criteria.Evaluator

namespace Router

open Lookup

variable {context : Context} {item : Item} {s s' : Session} {rules : List Rule} {m : Option Metadata}

theorem evaluateRules_ends (hans : s.Answers context) (hrules : s.store.getRules = .ok rules)
    {e : Evaluator} (htype : e.family.ruleType ∈ ruleTypes) (item : Item) (hs : s.SameTables s') :
    ∃ r entries, Runner.evaluateRules e item context s' = (r, { s' with journal := entries }) ∧
      r.toOption.join.getD [] = (e.found rules item context).map Rule.toPlacement := by
  cases hdata : e.family.hasData item context with
  | true =>
    obtain ⟨entries, heval⟩ := Runner.tells_evaluateRules hans hrules htype hdata hs
    refine ⟨_, entries, heval, ?_⟩
    rw [join_evaluated, Evaluator.found, if_pos hdata]
  | false =>
    refine ⟨.ok none, s'.journal, Runner.evaluateRules_of_no_data hdata s', ?_⟩
    rw [Evaluator.found_of_no_data hdata]
    rfl

theorem evaluate_ofPlugin (hans : s.Answers context) (hrules : s.store.getRules = .ok rules)
    {f : Family} (htype : f.ruleType ∈ ruleTypes) (hguids : item.guids.isEmpty = false)
    (hinUse : (Rule.inUse rules f.ruleType context).isEmpty = false) (hs : s.SameTables s') {n : Nat}
    (hsteady : Steady item context.contentType m (n + 1) s') :
    ∃ r s'', Runner.pluginEvaluate f item context s' = (r, s'') ∧
      r.toOption.join.getD [] = (Evaluator.foundLookedUp f rules m item context).map Rule.toPlacement ∧
      s.SameTables s'' ∧ Steady item context.contentType m n s'' := by
  obtain ⟨entries, hhas⟩ := Runner.tells_hasRules hans hrules htype (Runner.pluginName f) hs
  rw [hinUse] at hhas
  have hcan : Runner.pluginCanEvaluate f item context s'
      = (.ok true, { s' with journal := entries }) := by
    unfold Runner.pluginCanEvaluate
    rw [hguids]
    exact hhas
  obtain ⟨hvalue, hleft⟩ := hsteady.journal entries
  obtain ⟨s₂, hlookup⟩ : ∃ s₂, metadata item context.contentType { s' with journal := entries }
      = (.ok m, s₂) := ⟨_, Prod.ext hvalue rfl⟩
  rw [hlookup] at hleft
  have hs₂ : s.SameTables s₂ := (hs.trans (s'.sameRecords_journal entries).toSameTables).trans
    ((browses_metadata item context.contentType).quiet.of_eq hlookup).toSameTables
  unfold Runner.pluginEvaluate Evaluator.foundLookedUp
  rw [bind_of_ok hcan, hguids]
  simp only [Bool.not_true, Bool.false_eq_true, if_false]
  rw [bind_of_ok hlookup]
  cases m with
  | none =>
    refine ⟨.ok none, _, rfl, rfl, hs₂.trans (s₂.sameRecords_journal _).toSameTables, ?_⟩
    exact hleft.journal _
  | some m =>
    obtain ⟨r, entries', heval, hfound⟩ :=
      evaluateRules_ends hans hrules (e := { family := f }) htype (item.withMetadata m) hs₂
    refine ⟨r, _, heval, hfound, hs₂.trans (s₂.sameRecords_journal _).toSameTables, ?_⟩
    exact hleft.journal _

/-- A plugin makes a lookup if it has something to look for, and finds its rules by what that gives. -/
theorem runOne_ofPlugin (hans : s.Answers context) (hrules : s.store.getRules = .ok rules) {f : Family}
    (htype : f.ruleType ∈ ruleTypes) (hs : s.SameTables s') {n : Nat}
    (hsteady : Steady item context.contentType m
      ((if !item.guids.isEmpty && !(Rule.inUse rules f.ruleType context).isEmpty then 1 else 0) + n) s') :
    ∃ s'', runOne item context (Runner.ofPlugin f) s'
        = (.ok ((Evaluator.foundLookedUp f rules m item context).map Rule.toPlacement), s'') ∧
      s.SameTables s'' ∧ Steady item context.contentType m n s'' := by
  have hcan : (Runner.ofPlugin f).canEvaluate item context
      = if item.guids.isEmpty then pure false
        else Runner.hasRules (Runner.pluginName f) f.ruleType context := rfl
  cases hguids : item.guids.isEmpty with
  | true =>
    rw [hguids, if_pos rfl] at hcan
    have hnone : Evaluator.foundLookedUp f rules m item context = [] := if_pos hguids
    rw [hnone]
    refine ⟨s', runOne_idle (by rw [hcan]; rfl), hs, ?_⟩
    simpa [hguids] using hsteady
  | false =>
    rw [hguids, if_neg Bool.false_ne_true] at hcan
    obtain ⟨entries, hhas⟩ := Runner.tells_hasRules hans hrules htype (Runner.pluginName f) hs
    rw [← hcan] at hhas
    have hs₁ := hs.trans (s'.sameRecords_journal entries).toSameTables
    cases hinUse : (Rule.inUse rules f.ruleType context).isEmpty with
    | true =>
      rw [hinUse] at hhas
      have hnone : Evaluator.foundLookedUp f rules m item context = [] :=
        Evaluator.foundLookedUp_of_none_inUse (List.isEmpty_iff.1 hinUse) m item
      have hsteady : Steady item context.contentType m n s' := by simpa [hguids, hinUse] using hsteady
      rw [hnone]
      exact ⟨_, runOne_idle hhas, hs₁, hsteady.journal entries⟩
    | false =>
      rw [hinUse] at hhas
      have hsteady : Steady item context.contentType m (n + 1) s' := by
        simpa [hguids, hinUse, Nat.add_comm] using hsteady
      obtain ⟨r, s₂, heval, hfound, hs₂, hleft⟩ :=
        evaluate_ofPlugin hans hrules htype hguids hinUse hs₁ (hsteady.journal entries)
      obtain ⟨entries', hone⟩ := runOne_ends hhas heval
      rw [hfound] at hone
      exact ⟨_, hone, hs₂.trans (s₂.sameRecords_journal entries').toSameTables, hleft.journal entries'⟩

theorem runOne_withPlugins (hans : s.Answers context) (hrules : s.store.getRules = .ok rules)
    {e : Evaluator} (htype : e.family.ruleType ∈ ruleTypes) (hs : s.SameTables s') {n : Nat}
    (hsteady : Steady item context.contentType m (e.lookups rules item context + n) s') :
    ∃ s'', runOne item context (Runner.withPlugins e) s'
        = (.ok ((e.foundWithPlugins rules m item context).map Rule.toPlacement), s'') ∧
      s.SameTables s'' ∧ Steady item context.contentType m n s'' := by
  unfold Runner.withPlugins Evaluator.foundWithPlugins
  cases hreplaced : Runner.isReplaced e with
  | true =>
    refine runOne_ofPlugin hans hrules htype hs ?_
    simpa [Evaluator.lookups, hreplaced] using hsteady
  | false =>
    obtain ⟨entries, hone⟩ := tells_runOne_ofEvaluator hans hrules htype item hs
    refine ⟨_, hone, hs.trans (s'.sameRecords_journal entries).toSameTables, ?_⟩
    have hsteady : Steady item context.contentType m n s' := by
      simpa [Evaluator.lookups, hreplaced] using hsteady
    exact hsteady.journal entries

end Router

/-! ## Both ways find the same rules -/

namespace Router

open Lookup

/-- How many lookups a resolution makes: one to complete the item if the rules in use ask for that, and
one for each plugin that has rules in use and identifiers to look for. -/
def lookups (r : Router) (active : List Rule) (item : Item) : Nat :=
  (if r.needsMetadata active then 1 else 0) +
    (if item.guids.isEmpty then []
      else r.plugins.filter fun p => active.any (·.type.isOneOf [p.ruleType])).length

variable {context : Context} {item : Item} {s : Session} {rules : List Rule} {m : Option Metadata}

/-- The item after an enrichment with what lookups give. -/
def completedBy (r : Router) (active : List Rule) (m : Option Metadata) (item : Item) : Item :=
  if r.needsMetadata active then completedWith item m else item

theorem steady_completedWith {m' : Option Metadata} {n : Nat} :
    Steady (completedWith item m') context.contentType m n s ↔
      Steady item context.contentType m n s := by
  induction n generalizing s with
  | zero => exact Iff.rfl
  | succ n ih =>
    unfold Steady
    rw [metadata_completedWith, ih]

theorem complete_steady {r : Router} (henrich : r.enrich = some Lookup.enrich)
    (hitem : item.metadata = none) {active : List Rule} {n : Nat}
    (hsteady : Steady item context.contentType m ((if r.needsMetadata active then 1 else 0) + n) s) :
    ∃ s₁, r.complete active item context s = (.ok (r.completedBy active m item), s₁) ∧
      s.SameTables s₁ ∧ Steady (r.completedBy active m item) context.contentType m n s₁ := by
  unfold complete completedBy
  rw [henrich, hitem]
  cases hneeds : r.needsMetadata active with
  | false =>
    refine ⟨s, rfl, .refl s, ?_⟩
    simpa [hneeds] using hsteady
  | true =>
    have hsteady : Steady item context.contentType m (n + 1) s := by
      simpa [hneeds, Nat.add_comm] using hsteady
    obtain ⟨hvalue, hleft⟩ := hsteady
    have hlookup : metadata item context.contentType s
        = (.ok m, (metadata item context.contentType s).2) := Prod.ext hvalue rfl
    refine ⟨(metadata item context.contentType s).2, ?_, ?_, steady_completedWith.2 hleft⟩
    · simp only [if_true]
      rw [enrich_eq]
      exact map_of_eq _ hlookup
    · exact ((browses_metadata item context.contentType).quiet s).toSameTables

end Router

namespace Criteria.Evaluator

open Lookup

variable {context : Context} {item : Item} {rules : List Rule} {m : Option Metadata}

/-- A plugin finds what its evaluator finds in the completed item. -/
theorem foundLookedUp_eq {f : Family}
    (hnone : ∀ it : Item, it.metadata = none → f.hasData it context = false)
    (hsame : ∀ (it it' : Item) (m : Metadata),
      f.SeesSame context (completedWith it (some m)) (it'.withMetadata m))
    (hitem : item.metadata = none) {item' : Item} (hguids : item'.guids = item.guids)
    (hm : item.guids = [] → m = none) :
    foundLookedUp f rules m item' context
      = found { family := f } rules (completedWith item m) context := by
  unfold foundLookedUp
  cases m with
  | none =>
    rw [ite_self]
    exact (found_of_no_data (e := { family := f }) (hnone item hitem) rules).symm
  | some m =>
    have hsome : item'.guids.isEmpty = false := by
      rw [hguids, List.isEmpty_eq_false_iff]
      intro h
      cases hm h
    rw [hsome]
    exact found_congr (hsame item item' m) rules

theorem cases_of_isReplaced {e : Evaluator} (he : e ∈ evaluators) (h : Runner.isReplaced e = true) :
    e = { family := year } ∨ e = { family := language } := by
  rw [evaluators_eq] at he
  simp only [fieldFamilies, List.map_cons, List.map_nil, List.mem_cons, List.not_mem_nil,
    or_false] at he
  rcases he with rfl | rfl | rfl | rfl | rfl | rfl | rfl
  · exact absurd h (by decide)
  · exact absurd h (by decide)
  · exact absurd h (by decide)
  · exact .inl rfl
  · exact absurd h (by decide)
  · exact .inr rfl
  · exact absurd h (by decide)

theorem seesSame_year_withMetadata (it it' : Item) (m : Metadata) :
    year.SeesSame context (completedWith it (some m)) (it'.withMetadata m) := by
  refine Family.seesSame_year ?_
  simp only [completedWith]
  split <;> rfl

theorem seesSame_language_withMetadata (it it' : Item) (m : Metadata) :
    language.SeesSame context (completedWith it (some m)) (it'.withMetadata m) := by
  refine Family.seesSame_language ?_
  simp only [completedWith]
  split <;> rfl

theorem genres_completedBy (r : Router) (active : List Rule) (m : Option Metadata) (item : Item) :
    (r.completedBy active m item).genres = item.genres := by
  unfold Router.completedBy
  split
  · exact genres_completedWith item m
  · rfl

theorem guids_completedBy (r : Router) (active : List Rule) (m : Option Metadata) (item : Item) :
    (r.completedBy active m item).guids = item.guids := by
  unfold Router.completedBy
  split
  · cases m <;> rfl
  · rfl

theorem ruleType_not_mem_plugins {e : Evaluator} (h : Runner.isReplaced e = false) :
    e.family.ruleType ∉ (Runner.pluginFamilies.map Runner.ofPlugin).map Runner.ruleType := by
  intro hmem
  rw [List.map_map] at hmem
  obtain ⟨f, hf, heq⟩ := List.mem_map.1 hmem
  have hreplaced : Runner.isReplaced e = true := List.any_eq_true.2 ⟨f, hf, decide_eq_true heq⟩
  rw [h] at hreplaced
  cases hreplaced

/-- Whether the year and the language are looked up by plugins or before anybody runs, the evaluators
and the plugins in their places find the same. -/
theorem foundWithPlugins_eq {plain plugged : Router} (hplain : plain.plugins = [])
    (hplugged : plugged.plugins = Runner.pluginFamilies.map Runner.ofPlugin)
    (hitem : item.metadata = none)
    (hm : plain.needsMetadata (rules.filter (·.isActiveFor context.targetType)) = true →
      item.guids = [] → m = none) {e : Evaluator} (he : e ∈ evaluators) :
    e.foundWithPlugins rules m
        (plugged.completedBy (rules.filter (·.isActiveFor context.targetType)) m item) context
      = e.found rules
        (plain.completedBy (rules.filter (·.isActiveFor context.targetType)) m item) context := by
  generalize hactive : rules.filter (·.isActiveFor context.targetType) = active at hm ⊢
  by_cases hin : Rule.inUse rules e.family.ruleType context = []
  · rw [found_of_none_inUse hin]
    unfold foundWithPlugins
    split
    · exact foundLookedUp_of_none_inUse hin m _
    · exact found_of_none_inUse hin _
  have hgenres : (plugged.completedBy active m item).genres = (plain.completedBy active m item).genres := by
    rw [genres_completedBy, genres_completedBy]
  rcases cases_of_mem he with rfl | rfl | hmetadata
  · exact found_congr (Family.seesSame_genre hgenres) rules
  · exact found_congr (Family.seesSame_user context _ _) rules
  have hneeds : plain.needsMetadata active = true := by
    rw [← hactive]
    exact needsMetadata_of_inUse hmetadata (by simp [hplain]) hin
  have hcompleted : plain.completedBy active m item = completedWith item m := if_pos hneeds
  cases hreplaced : Runner.isReplaced e with
  | false =>
    have hnot : e.family.ruleType ∉ plugged.plugins.map Runner.ruleType := by
      rw [hplugged]
      exact ruleType_not_mem_plugins hreplaced
    have hneeds' : plugged.needsMetadata active = true := by
      rw [← hactive]
      exact needsMetadata_of_inUse hmetadata hnot hin
    have hcompleted' : plugged.completedBy active m item = completedWith item m := if_pos hneeds'
    rw [hcompleted, hcompleted', foundWithPlugins, if_neg (by simp [hreplaced])]
  | true =>
    rw [hcompleted, foundWithPlugins, if_pos hreplaced]
    have hguids := guids_completedBy plugged active m item
    rcases cases_of_isReplaced he hreplaced with rfl | rfl
    · refine foundLookedUp_eq (fun it h => ?_) seesSame_year_withMetadata hitem hguids (hm hneeds)
      simp [year, Year.year?, h]
    · refine foundLookedUp_eq (fun it h => ?_) seesSame_language_withMetadata hitem hguids (hm hneeds)
      simp [language, Language.language?, h]

end Criteria.Evaluator

namespace Router

open Lookup

variable {context : Context} {item : Item} {s : Session} {rules : List Rule} {m : Option Metadata}

theorem not_isEmpty_inUse (rules : List Rule) (type : String) (context : Context) :
    (!(Rule.inUse rules type context).isEmpty)
      = (rules.filter (·.isActiveFor context.targetType)).any (·.type.isOneOf [type]) := by
  rw [Bool.eq_iff_iff, Bool.not_eq_true', List.isEmpty_eq_false_iff_exists_mem, List.any_eq_true]
  simp only [Rule.mem_inUse, List.mem_filter, Rule.isOneOf_singleton]
  constructor
  · rintro ⟨r, hmem, htype, hactive⟩
    exact ⟨r, ⟨hmem, hactive⟩, htype⟩
  · rintro ⟨r, ⟨hmem, hactive⟩, htype⟩
    exact ⟨r, hmem, htype, hactive⟩

/-- The evaluators make the lookups of the plugins in their places. -/
theorem sum_lookups (rules : List Rule) {item item' : Item} (hguids : item'.guids = item.guids) :
    (Criteria.evaluators.map fun e => e.lookups rules item' context).foldr (· + ·) 0 =
      (if item.guids.isEmpty then []
        else (Runner.pluginFamilies.map Runner.ofPlugin).filter fun p =>
          (rules.filter (·.isActiveFor context.targetType)).any (·.type.isOneOf [p.ruleType])).length := by
  unfold Evaluator.lookups
  simp only [hguids, not_isEmpty_inUse]
  rw [evaluators_eq]
  generalize rules.filter (·.isActiveFor context.targetType) = active
  cases item.guids.isEmpty with
  | true => simp [fieldFamilies]
  | false =>
    have hyear : (Runner.ofPlugin year).ruleType = year.ruleType := rfl
    have hlanguage : (Runner.ofPlugin language).ruleType = language.ruleType := rfl
    simp only [Runner.pluginFamilies, List.map_cons, List.map_nil, List.filter_cons, List.filter_nil,
      hyear, hlanguage, fieldFamilies]
    cases active.any fun x => x.type.isOneOf [year.ruleType] <;>
      cases active.any fun x => x.type.isOneOf [language.ruleType] <;> rfl

theorem collect_plugins {r : Router} (hlist : r.runList = Criteria.evaluators.map Runner.withPlugins)
    (hpool : r.isParallel = true → 0 < r.workers) (hans : s.Answers context)
    (hrules : s.store.getRules = .ok rules) {s₁ : Session} (hs : s.SameTables s₁)
    (hsteady : Steady item context.contentType m
      ((Criteria.evaluators.map fun e => e.lookups rules item context).foldr (· + ·) 0) s₁) :
    ∃ s₂, r.collect item context s₁ = (.ok ((Criteria.evaluators.flatMap fun e =>
      e.foundWithPlugins rules m item context).map Rule.toPlacement), s₂) ∧ s.SameTables s₂ := by
  have hone : ∀ e ∈ Criteria.evaluators, ∀ n s',
      (s.SameTables s' ∧ Steady item context.contentType m (e.lookups rules item context + n) s') →
      ∃ s'', runOne item context (Runner.withPlugins e) s'
        = (.ok ((e.foundWithPlugins rules m item context).map Rule.toPlacement), s'') ∧
          s.SameTables s'' ∧ Steady item context.contentType m n s'' := by
    rintro e he n s' ⟨hs', hleft⟩
    exact runOne_withPlugins hans hrules (ruleType_mem he) hs' hleft
  obtain ⟨s₂, hruns, hs₂, -⟩ := mapM_within (l := Criteria.evaluators) (m := Runner.withPlugins)
    (f := runOne item context)
    (g := fun e => (e.foundWithPlugins rules m item context).map Rule.toPlacement)
    (k := fun e => e.lookups rules item context)
    (I := fun n s' => s.SameTables s' ∧ Steady item context.contentType m n s') hone ⟨hs, hsteady⟩
  exact ⟨s₂, collect_of_runs hlist hpool hruns, hs₂⟩

/-- A resolution without plugins makes at most one lookup. -/
theorem Alone.search_steady {r : Router} (halone : r.Alone) (henrich : r.enrich = some Lookup.enrich)
    (hans : s.Answers context) (hrules : s.store.getRules = .ok rules) (hitem : item.metadata = none)
    {active : List Rule} (hsteady : Steady item context.contentType m (r.lookups active item) s) :
    ∃ item' s₁ s₂, r.complete active item context s = (.ok item', s₁) ∧
      r.collect item' context s₁ = (.ok ((Criteria.evaluators.flatMap fun e =>
        e.found rules (r.completedBy active m item) context).map Rule.toPlacement), s₂) ∧
      s.SameTables s₂ := by
  obtain ⟨s₁, hcomplete, hs₁, -⟩ := complete_steady henrich hitem hsteady
  obtain ⟨s₂, hcollect, hs₂⟩ := halone.collect_tells hans hrules (r.completedBy active m item) hs₁
  exact ⟨_, s₁, s₂, hcomplete, hcollect, hs₂⟩

theorem search_plugins {r : Router} (hplugins : r.plugins = Runner.pluginFamilies.map Runner.ofPlugin)
    (hlist : r.runList = Criteria.evaluators.map Runner.withPlugins)
    (hpool : r.isParallel = true → 0 < r.workers) (henrich : r.enrich = some Lookup.enrich)
    (hans : s.Answers context) (hrules : s.store.getRules = .ok rules) (hitem : item.metadata = none)
    (hsteady : Steady item context.contentType m
      (r.lookups (rules.filter (·.isActiveFor context.targetType)) item) s) :
    ∃ item' s₁ s₂,
      r.complete (rules.filter (·.isActiveFor context.targetType)) item context s = (.ok item', s₁) ∧
      r.collect item' context s₁ = (.ok ((Criteria.evaluators.flatMap fun e =>
        e.foundWithPlugins rules m
          (r.completedBy (rules.filter (·.isActiveFor context.targetType)) m item) context).map
            Rule.toPlacement), s₂) ∧
      s.SameTables s₂ := by
  obtain ⟨s₁, hcomplete, hs₁, hleft⟩ := complete_steady henrich hitem hsteady
  rw [hplugins, ← sum_lookups rules (Evaluator.guids_completedBy r _ m item)] at hleft
  obtain ⟨s₂, hcollect, hs₂⟩ := collect_plugins hlist hpool hans hrules hs₁ hleft
  exact ⟨_, s₁, s₂, hcomplete, hcollect, hs₂⟩

end Router

namespace Service

open Lookup

variable {context : Context} {item : Item} {s : Session} {m : Option Metadata}

/-- An item that comes without metadata is routed alike with plugins and without them, if no call to
the store fails and each lookup that is made gives the same, or each gives nothing. -/
theorem resolve_usesPlugins (service : Service) (hpool : service.isParallel = true → 0 < service.workers)
    (hans : s.Answers context) (hkeyed : s.store.RulesKeyed) (hitem : item.metadata = none)
    (hsteady : ∀ usesPlugins rules, s.store.getRules = .ok rules →
      Steady item context.contentType m (({ service with usesPlugins }).router.lookups
        (rules.filter (·.isActiveFor context.targetType)) item) s) :
    ∃ vs, (({ service with usesPlugins := true }).router.resolve item context s).1 = .ok vs ∧
      (({ service with usesPlugins := false }).router.resolve item context s).1 = .ok vs := by
  cases hknown : context.knowsContentType with
  | false => exact ⟨[], Router.resolve_unknown _ hknown item s, Router.resolve_unknown _ hknown item s⟩
  | true =>
    obtain ⟨rules, hread⟩ := hans.rules
    have hrules : s.store.getRules = .ok rules := (read_returns hread).1
    have hplain := hsteady false rules hrules
    have hplugged := hsteady true rules hrules
    have halone : ({ service with usesPlugins := false }).router.Alone := ⟨rfl, rfl, hpool⟩
    -- without identifiers there is no lookup by plugins, and the item is completed with nothing
    have hm : ({ service with usesPlugins := false }).router.needsMetadata
        (rules.filter (·.isActiveFor context.targetType)) = true → item.guids = [] → m = none := by
      intro hneeds hguids
      rw [Router.lookups, if_pos hneeds, Nat.add_comm] at hplain
      exact metadata_of_no_guids hguids hplain.1
    have hfs : ∀ f ∈ Criteria.evaluators.flatMap (fun e => e.found rules
        (({ service with usesPlugins := false }).router.completedBy
          (rules.filter (·.isActiveFor context.targetType)) m item) context),
        f ∈ rules ∧ f.isActiveFor context.targetType = true := by
      intro f hf
      obtain ⟨e, -, hf⟩ := List.mem_flatMap.1 hf
      exact Evaluator.mem_rules_of_found hf
    have hsame : (Criteria.evaluators.flatMap fun e => e.foundWithPlugins rules m
        (({ service with usesPlugins := true }).router.completedBy
          (rules.filter (·.isActiveFor context.targetType)) m item) context)
        = Criteria.evaluators.flatMap fun e => e.found rules
          (({ service with usesPlugins := false }).router.completedBy
            (rules.filter (·.isActiveFor context.targetType)) m item) context := by
      refine List.flatMap_congr fun e he => ?_
      exact Evaluator.foundWithPlugins_eq rfl rfl hitem hm he
    have hlist : ({ service with usesPlugins := true }).router.runList
        = Criteria.evaluators.map Runner.withPlugins := Runner.runList_plugins
    have hsearch := Router.search_plugins rfl hlist hpool rfl hans hrules hitem hplugged
    rw [hsame] at hsearch
    obtain ⟨vs, hvs, hres⟩ := Router.resolve_of_search hans hkeyed hknown hrules hfs fun _ => hsearch
    obtain ⟨vs', hvs', hres'⟩ := Router.resolve_of_search hans hkeyed hknown hrules hfs fun _ =>
      halone.search_steady rfl hans hrules hitem hplain
    rw [hres'.unique hres] at hvs'
    exact ⟨vs, hvs, hvs'⟩

/-- For instance, with plugins a film is looked up once for its certification and once for its year,
and without plugins only once. -/
theorem resolve_usesPlugins_two_rules :
    let item : Item := { title := .text "Dune", guids := ["tmdb:841"] }
    let context : Context := { contentType := .text "movie" }
    let rule (id : Int) (type : String) (v : Value) : Rule := {
      id, name := .text type, type := .text type, targetType := .text "radarr", targetId := id
      criteria := .map [(type, v)] }
    let s : Session := {
      now := .ofDate ⟨738959⟩
      network := [("GET http://radarr/api/v3/movie/lookup/tmdb",
        [.answer 200 "OK" "\x7b\"year\": 1984, \"certification\": \"PG\"\x7d"])]
      store := {
        instances := [{ id := 1, type := .text "radarr", baseUrl := "http://radarr", isDefault := true }]
        rules := [rule 1 "year" (.int 1984), rule 2 "certification" (.text "PG")] } }
    ∃ vs, (({ usesPlugins := true } : Service).router.resolve item context s).1 = .ok vs ∧
      (({ usesPlugins := false } : Service).router.resolve item context s).1 = .ok vs := by
  intro item context rule s
  have hrules : s.store.getRules = .ok s.store.rules := by cbv
  have hans : s.Answers context := {
    rules := ⟨_, read_of_ok rfl hrules⟩
    rulesOfType := fun type _ => ⟨_, read_of_ok rfl (Store.getRulesOfType_eq hrules type)⟩
    target := by
      intro r hr
      have htarget : r.targetId = 1 ∨ r.targetId = 2 := by
        rcases List.mem_cons.1 hr with rfl | hr
        · exact .inl rfl
        · rw [List.mem_singleton.1 hr]
          exact .inr rfl
      rcases htarget with h | h <;> rw [h]
      · exact ⟨s.store.instances.head?, read_of_ok rfl (by cbv)⟩
      · exact ⟨none, read_of_ok rfl (by cbv)⟩
    syncTarget := fun _ h => (by cases h)
    standard := ⟨_, rfl⟩ }
  have hkeyed : s.store.RulesKeyed := by
    change [1, 2].Nodup
    decide
  have htwo : Steady item context.contentType
      (some { year := .int 1984, certification := .text "PG" }) 2 s := by
    refine ⟨?_, ?_, trivial⟩ <;> cbv
  have hsteady : ∀ usesPlugins rules, s.store.getRules = .ok rules →
      Steady item context.contentType (some { year := .int 1984, certification := .text "PG" })
        (({ usesPlugins } : Service).router.lookups
          (rules.filter (·.isActiveFor context.targetType)) item) s := by
    intro usesPlugins rules hread
    obtain rfl := Except.ok.inj (hread.symm.trans hrules)
    cases usesPlugins with
    | true => exact htwo
    | false => exact ⟨htwo.1, trivial⟩
  exact resolve_usesPlugins {} (fun h => by cases h) hans hkeyed rfl hsteady

end Service

end Watchgate
