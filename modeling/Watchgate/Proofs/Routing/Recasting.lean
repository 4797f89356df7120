import Watchgate.Proofs.Criteria.Shorthand
import Watchgate.Proofs.Media.Steady
import Watchgate.Proofs.Service.Events

/-!
# Rules with their shorthands as conditions

Some rules of a store are replaced by conditional rules whose conditions say what their shorthands say.
The rules are then found by another evaluator, at another place in the list, and the item may be
completed where it was not before. As long as no rule goes wrong, the verdicts are the same.
-/

namespace Watchgate

open Act Criteria

namespace Rule

theorem recast_withProfile (chosen : Int → Bool) (r : Rule) (p : Value) :
    ({ r with qualityProfile := p }).recast chosen = { r.recast chosen with qualityProfile := p } := by
  have hleaf : ({ r with qualityProfile := p }).shorthandLeaf? = r.shorthandLeaf? := rfl
  unfold recast
  rw [hleaf]
  cases chosen r.id with
  | false => rfl
  | true => cases r.shorthandLeaf? <;> rfl

variable (chosen : Int → Bool) (r : Rule)

@[simp] theorem id_recast : (r.recast chosen).id = r.id := by rw [recast_eq]

@[simp] theorem order_recast : (r.recast chosen).order = r.order := by rw [recast_eq]

@[simp] theorem targetId_recast : (r.recast chosen).targetId = r.targetId := by rw [recast_eq]

theorem action_recast : (r.recast chosen).action = r.action := by rw [recast_eq]

theorem isActiveFor_recast (targetType : String) :
    (r.recast chosen).isActiveFor targetType = r.isActiveFor targetType := by
  rw [recast_eq]
  rfl

theorem verdict_recast (context : Context) : (r.recast chosen).verdict context = r.verdict context := by
  rw [recast_eq]
  rfl

theorem outranks_recast (a b : Rule) :
    (a.recast chosen).Outranks (b.recast chosen) ↔ a.Outranks b := by
  simp [Outranks]

end Rule

namespace Store

/-- The store with the shorthands of some of its rules as conditions. -/
def recast (chosen : Int → Bool) (store : Store) : Store :=
  { store with rules := store.rules.map (Rule.recast chosen) }

variable {chosen : Int → Bool} {store : Store} {rules : List Rule}

theorem readRule_recast {row r : Rule} (h : readRule row = .ok r) :
    readRule (row.recast chosen) = .ok (r.recast chosen) := by
  obtain ⟨p, hp, rfl⟩ := readRule_ok h
  have hprofile : (row.recast chosen).qualityProfile = row.qualityProfile := by rw [Rule.recast_eq]
  have hrule := Rule.recast_withProfile chosen row p
  unfold readRule
  rw [hprofile, hp, hrule]
  rfl

theorem getRules_recast (chosen : Int → Bool) (h : store.getRules = .ok rules) :
    (store.recast chosen).getRules = .ok (rules.map (Rule.recast chosen)) := by
  have hsorted : sortedBy Rule.id (store.rules.map (Rule.recast chosen))
      = (sortedBy Rule.id store.rules).map (Rule.recast chosen) := by
    unfold sortedBy
    exact (List.map_mergeSort fun a _ b _ => by simp).symm
  unfold getRules recast
  rw [hsorted]
  have hread : ∀ row r, readRule row = .ok r →
      readRule (row.recast chosen) = .ok (r.recast chosen) := fun _ _ => readRule_recast
  exact mapM_map hread h

theorem RulesKeyed.recast (h : store.RulesKeyed) (chosen : Int → Bool) :
    (store.recast chosen).RulesKeyed := by
  have hids : (store.rules.map (Rule.recast chosen)).map Rule.id = store.rules.map Rule.id := by
    rw [List.map_map]
    exact List.map_congr_left fun r _ => Rule.id_recast chosen r
  unfold RulesKeyed
  change ((store.rules.map (Rule.recast chosen)).map Rule.id).Nodup
  rw [hids]
  exact h

end Store

/-- The session with the shorthands of some of its rules as conditions. -/
def Session.recast (chosen : Int → Bool) (s : Session) : Session :=
  { s with store := s.store.recast chosen }

theorem Session.sameServers_recast (chosen : Int → Bool) (s : Session) :
    s.SameServers (s.recast chosen) := ⟨rfl, rfl, rfl, rfl⟩

theorem Session.Answers.recast {s : Session} {context : Context} (h : s.Answers context)
    (chosen : Int → Bool) : (s.recast chosen).Answers context := by
  obtain ⟨rules, hread⟩ := h.rules
  have hrules := Store.getRules_recast chosen (read_returns hread).1
  constructor
  · exact ⟨_, read_elsewhere hread rfl hrules⟩
  · intro type htype
    obtain ⟨typed, htyped⟩ := h.rulesOfType type htype
    exact ⟨_, read_elsewhere htyped rfl (Store.getRulesOfType_eq hrules type)⟩
  · intro rule hrule
    obtain ⟨row, hrow, rfl⟩ := List.mem_map.1 hrule
    obtain ⟨i, hi⟩ := h.target row hrow
    rw [Rule.targetId_recast]
    exact ⟨i, read_elsewhere hi rfl (read_returns hi).1⟩
  · intro id hid
    obtain ⟨i, hi⟩ := h.syncTarget id hid
    exact ⟨i, read_elsewhere hi rfl (read_returns hi).1⟩
  · obtain ⟨i, hi⟩ := h.standard
    exact ⟨i, read_elsewhere hi rfl (read_returns hi).1⟩

section Verdicts

variable {store : Store} {context : Context} {P P' : Rule → Prop} {chosen : Int → Bool}

theorem Rule.rejects_recast (r : Rule) : (r.recast chosen).Rejects ↔ r.Rejects := by
  unfold Rule.Rejects
  rw [Rule.action_recast]

/-- The replacements of the rules that place an item are the replacements that place it. -/
theorem Rule.places_recast (hP : ∀ r', P' r' ↔ ∃ r, P r ∧ r.recast chosen = r') (r' : Rule) :
    r'.Places (store.recast chosen) context P' ↔
      ∃ r : Rule, r.Places store context P ∧ r.recast chosen = r' := by
  have hrest : ∀ r : Rule, (¬ (r.recast chosen).Passes ∧
      (r.recast chosen).Reaches (store.recast chosen) context) ↔
      (¬ r.Passes ∧ r.Reaches store context) := by
    intro r
    unfold Rule.Passes Rule.Reaches
    rw [Rule.action_recast, Rule.targetId_recast]
    rfl
  constructor
  · rintro ⟨hr', hplaces⟩
    obtain ⟨r, hr, rfl⟩ := (hP r').1 hr'
    exact ⟨r, ⟨hr, (hrest r).1 hplaces⟩, rfl⟩
  · rintro ⟨r, ⟨hr, hplaces⟩, rfl⟩
    exact ⟨(hP _).2 ⟨r, hr, rfl⟩, (hrest r).2 hplaces⟩

/-- A replacement wins against the replacements of the rules that the rule wins against. -/
theorem Rule.wins_recast (hids : ∀ a b, P a → P b → a.id = b.id → a = b)
    (hP : ∀ r', P' r' ↔ ∃ r, P r ∧ r.recast chosen = r') (r' : Rule) :
    Wins P' r' ↔ ∃ r, Wins P r ∧ r.recast chosen = r' := by
  constructor
  · rintro ⟨hr', hbest⟩
    obtain ⟨r, hr, rfl⟩ := (hP r').1 hr'
    refine ⟨r, ⟨hr, ?_⟩, rfl⟩
    intro q hq htarget
    rcases hbest (q.recast chosen) ((hP _).2 ⟨q, hq, rfl⟩) (by simpa using htarget) with heq | hrank
    · have hid : q.id = r.id := by
        rw [← Rule.id_recast chosen q, heq, Rule.id_recast]
      exact .inl (hids q r hq hr hid)
    · exact .inr ((Rule.outranks_recast chosen r q).1 hrank)
  · rintro ⟨r, ⟨hr, hbest⟩, rfl⟩
    refine ⟨(hP _).2 ⟨r, hr, rfl⟩, ?_⟩
    intro q' hq' htarget
    obtain ⟨q, hq, rfl⟩ := (hP q').1 hq'
    rcases hbest q hq (by simpa using htarget) with rfl | hrank
    · exact .inl rfl
    · exact .inr ((Rule.outranks_recast chosen r q).2 hrank)

/-- The verdicts do not tell a rule from its replacement. -/
theorem Resolved.recast {vs : List Verdict} (h : Resolved store context P vs) (chosen : Int → Bool)
    (hids : ∀ a b, P a → P b → a.id = b.id → a = b)
    (hP : ∀ r', P' r' ↔ ∃ r, P r ∧ r.recast chosen = r') :
    Resolved (store.recast chosen) context P' vs := by
  have hplaces : ∀ r' : Rule, r'.Places (store.recast chosen) context P' ↔
      ∃ r : Rule, r.Places store context P ∧ r.recast chosen = r' := Rule.places_recast hP
  have haccepted : (∀ r, P r → ¬ r.Rejects) → ∀ r, P' r → ¬ r.Rejects := by
    intro hacc r' hr'
    obtain ⟨r, hr, rfl⟩ := (hP r').1 hr'
    rw [Rule.rejects_recast]
    exact hacc r hr
  cases h with
  | rejected r hr hrej =>
    exact .rejected _ ((hP _).2 ⟨r, hr, rfl⟩) ((Rule.rejects_recast r).2 hrej)
  | unplaced hacc hnone =>
    refine .unplaced (haccepted hacc) ?_
    intro r' hr'
    obtain ⟨r, hr, -⟩ := (hplaces r').1 hr'
    exact hnone r hr
  | placed ws hacc hne hranked hwins =>
    have hverdicts : ws.map (Rule.verdict context)
        = (ws.map (Rule.recast chosen)).map (Rule.verdict context) := by
      rw [List.map_map]
      exact List.map_congr_left fun r _ => (Rule.verdict_recast chosen r context).symm
    rw [hverdicts]
    refine .placed _ (haccepted hacc) (by simpa using hne) ?_ ?_
    · refine List.pairwise_map.2 (hranked.imp ?_)
      intro a b hab
      exact (Rule.outranks_recast chosen a b).2 hab
    · intro r'
      have hidsPlaced : ∀ a b : Rule, a.Places store context P → b.Places store context P →
          a.id = b.id → a = b := fun a b ha hb => hids a b ha.1 hb.1
      rw [List.mem_map, Rule.wins_recast hidsPlaced hplaces]
      simp only [hwins]

end Verdicts

/-! ## The item as it is completed -/

section Completion

variable {router : Router} {context : Context} {item item' : Item} {s : Session} {rules : List Rule}
  {chosen : Int → Bool}

theorem active_recast (rules : List Rule) (targetType : String) :
    (rules.map (Rule.recast chosen)).filter (·.isActiveFor targetType)
      = (rules.filter (·.isActiveFor targetType)).map (Rule.recast chosen) := by
  rw [List.filter_map]
  refine congrArg _ (List.filter_congr fun r _ => ?_)
  exact Rule.isActiveFor_recast chosen r targetType

/-- A rule that asks for metadata still does so when its shorthand has become a condition. -/
theorem Router.needsMetadata_recast (hplugins : router.plugins = []) {active : List Rule}
    (h : router.needsMetadata active = true) :
    router.needsMetadata (active.map (Rule.recast chosen)) = true := by
  have hnone : ∀ v : Value, v.isOneOf (router.plugins.map Runner.ruleType) = false := by
    intro v
    rw [hplugins]
    cases v <;> rfl
  unfold Router.needsMetadata at h ⊢
  simp only [hnone, Bool.not_false, Bool.and_true] at h ⊢
  obtain ⟨r, hr, htype⟩ := List.any_eq_true.1 h
  refine List.any_eq_true.2 ⟨_, List.mem_map_of_mem hr, ?_⟩
  rcases Rule.recast_cases chosen r with heq | ⟨f, leaf, -, heq⟩
  · rw [heq]
    exact htype
  · rw [heq]
    rfl

theorem Router.complete_eq (henrich : router.enrich = some Lookup.enrich) (active : List Rule)
    (item : Item) (context : Context) :
    router.complete active item context = if item.metadata.isNone && router.needsMetadata active
      then Lookup.enrich item context.contentType else pure item := by
  unfold Router.complete
  rw [henrich]
  cases item.metadata with
  | some m => rfl
  | none => cases router.needsMetadata active <;> rfl

theorem Lookup.genres_of_enrich {contentType : Value}
    (h : (Lookup.enrich item contentType s).1 = .ok item') : item'.genres = item.genres := by
  rw [enrich_eq, map_apply] at h
  rcases hm : metadata item contentType s with ⟨_ | m, s₁⟩
  · rw [hm] at h
    cases h
  · rw [hm] at h
    obtain rfl := Except.ok.inj h
    exact genres_completedWith item m

/-- An item may be completed only where shorthands have become conditions; but if the rules asked for
that before, it is completed to the same item. -/
theorem Router.completed_recast (chosen : Int → Bool) (hplugins : router.plugins = [])
    (henrich : router.enrich = some Lookup.enrich) (hrules : s.store.getRules = .ok rules)
    (hlookup : item.metadata = none → ∃ it, (Lookup.enrich item context.contentType s).1 = .ok it)
    (hcomplete : router.completed item context s = .ok item') :
    ∃ item'', router.completed item context (s.recast chosen) = .ok item'' ∧
      item''.genres = item'.genres ∧
      (router.needsMetadata (rules.filter (·.isActiveFor context.targetType)) = true →
        item'' = item') := by
  have hsame := Lookup.noticesServers_enrich item context.contentType s _
    (Session.sameServers_recast chosen s)
  have hrecast : (s.recast chosen).store.getRules = .ok (rules.map (Rule.recast chosen)) :=
    Store.getRules_recast chosen hrules
  unfold Router.completed at hcomplete ⊢
  rw [hrules] at hcomplete
  rw [hrecast]
  change (router.complete (rules.filter _) item context s).1 = _ at hcomplete
  change ∃ item'', (router.complete ((rules.map (Rule.recast chosen)).filter _) item context _).1 = _ ∧ _
  rw [active_recast]
  generalize rules.filter (·.isActiveFor context.targetType) = active at hcomplete ⊢
  rw [Router.complete_eq henrich] at hcomplete ⊢
  cases hitem : item.metadata with
  | some m =>
    rw [hitem] at hcomplete
    obtain rfl : item = item' := Except.ok.inj hcomplete
    exact ⟨item, rfl, rfl, fun _ => rfl⟩
  | none =>
    rw [hitem] at hcomplete
    cases hneeds : router.needsMetadata active with
    | true =>
      rw [hneeds] at hcomplete
      rw [Router.needsMetadata_recast hplugins hneeds]
      exact ⟨item', hsame.1.symm.trans hcomplete, rfl, fun _ => rfl⟩
    | false =>
      rw [hneeds] at hcomplete
      obtain rfl : item = item' := Except.ok.inj hcomplete
      cases router.needsMetadata (active.map (Rule.recast chosen)) with
      | false => exact ⟨item, rfl, rfl, nofun⟩
      | true =>
        obtain ⟨it, hit⟩ := hlookup hitem
        exact ⟨it, hsame.1.symm.trans hit, Lookup.genres_of_enrich hit, nofun⟩

end Completion

/-! ## The rules that match -/

section Matching

variable {context : Context} {item item' : Item} {store : Store} {rules : List Rule}
  {chosen : Int → Bool}

/-- What the rules in use compare is the same in two items. -/
structure SameForRules (rules : List Rule) (context : Context) (item item' : Item) : Prop where
  fields : ∀ f ∈ fieldFamilies, Rule.inUse rules f.ruleType context ≠ [] →
    f.SeesSame context item item'
  conditions : Rule.inUse rules conditional.ruleType context ≠ [] → item' = item

theorem SameForRules.evaluator (h : SameForRules rules context item item') {e : Evaluator}
    (he : e ∈ evaluators) {r : Rule} (hr : r ∈ Rule.inUse rules e.family.ruleType context) :
    e.family.hasData item' context = e.family.hasData item context ∧
      e.answer item' context r = e.answer item context r := by
  have hsome := List.ne_nil_of_mem hr
  rw [evaluators_eq] at he
  rcases List.mem_cons.1 he with rfl | he
  · rw [h.conditions hsome]
    exact ⟨rfl, rfl⟩
  · obtain ⟨f, hf, rfl⟩ := List.mem_map.1 he
    have hsees := h.fields f hf hsome
    exact ⟨hsees.hasData, Evaluator.answer_congr hsees r⟩

/-- A rule holds if the family of its type has data and the comparison holds. -/
def Rule.Holds (r : Rule) (context : Context) (item : Item) : Prop :=
  ∃ e ∈ evaluators, r.type = .text e.family.ruleType ∧ e.family.hasData item context = true ∧
    e.answer item context r = .ok true

/-- No comparison of the rule goes wrong on the item. -/
def Rule.GoesWell (r : Rule) (context : Context) (item : Item) : Prop :=
  ∀ e ∈ evaluators, r.type = .text e.family.ruleType → e.family.hasData item context = true →
    ∃ b, e.answer item context r = .ok b

theorem SameForRules.goesWell (h : SameForRules rules context item item') {r : Rule} (hr : r ∈ rules)
    (hactive : r.isActiveFor context.targetType = true) (hwell : r.GoesWell context item) :
    r.GoesWell context item' := by
  intro e he htype hdata
  obtain ⟨hhas, hanswer⟩ := h.evaluator he (Rule.mem_inUse.2 ⟨hr, htype, hactive⟩)
  rw [hhas] at hdata
  rw [hanswer]
  exact hwell e he htype hdata

theorem SameForRules.holds (h : SameForRules rules context item item') {r : Rule} (hr : r ∈ rules)
    (hactive : r.isActiveFor context.targetType = true) :
    r.Holds context item' ↔ r.Holds context item := by
  have hsees : ∀ e ∈ evaluators, r.type = .text e.family.ruleType →
      e.family.hasData item' context = e.family.hasData item context ∧
        e.answer item' context r = e.answer item context r :=
    fun e he htype => h.evaluator he (Rule.mem_inUse.2 ⟨hr, htype, hactive⟩)
  constructor
  · rintro ⟨e, he, htype, hdata, hyes⟩
    obtain ⟨hhas, hanswer⟩ := hsees e he htype
    exact ⟨e, he, htype, hhas ▸ hdata, hanswer ▸ hyes⟩
  · rintro ⟨e, he, htype, hdata, hyes⟩
    obtain ⟨hhas, hanswer⟩ := hsees e he htype
    exact ⟨e, he, htype, hhas ▸ hdata, hanswer ▸ hyes⟩

/-- The condition that a shorthand stands for goes well and holds where the rule does. -/
theorem Rule.Abbreviates.holds {r : Rule} {f : Family} {leaf : Leaf} (h : r.Abbreviates f leaf)
    (hsees : f.SeesSame context item item') (hwell : r.GoesWell context item) :
    (r.withCondition (.leaf leaf false)).GoesWell context item' ∧
      ((r.withCondition (.leaf leaf false)).Holds context item' ↔ r.Holds context item) := by
  have hfamily := evaluator_mem h.family
  obtain ⟨b, hb, hiff⟩ := Evaluator.answer_recast h hsees (hwell _ hfamily h.type)
  have honly : ∀ e ∈ evaluators, Value.text conditional.ruleType = .text e.family.ruleType →
      e = conditionEvaluator := fun e he htype =>
    evaluator_eq_of_ruleType he conditionEvaluator_mem (Value.text.inj htype).symm
  constructor
  · intro e he htype _
    rw [honly e he htype]
    exact ⟨b, hb⟩
  · constructor
    · rintro ⟨e, he, htype, -, hyes⟩
      rw [honly e he htype, hb] at hyes
      obtain ⟨hdata, hyes⟩ := hiff.1 (Except.ok.inj hyes)
      exact ⟨_, hfamily, h.type, hdata, hyes⟩
    · rintro ⟨e, he, htype, hdata, hyes⟩
      obtain rfl : e = { family := f } := evaluator_eq_of_ruleType he hfamily
        (Value.text.inj (htype.symm.trans h.type))
      rw [hiff.2 ⟨hdata, hyes⟩] at hb
      exact ⟨conditionEvaluator, conditionEvaluator_mem, rfl, rfl, hb⟩

/-- A rule in use and its replacement: the replacement does not go wrong either, and it holds where the
rule holds. -/
theorem Rule.holds_recast (chosen : Int → Bool) (hsame : SameForRules rules context item item')
    {r : Rule} (hr : r ∈ rules) (hactive : r.isActiveFor context.targetType = true)
    (hwell : r.GoesWell context item) :
    (r.recast chosen).GoesWell context item' ∧
      ((r.recast chosen).Holds context item' ↔ r.Holds context item) := by
  rcases Rule.recast_cases chosen r with heq | ⟨f, leaf, habbr, heq⟩
  · rw [heq]
    exact ⟨hsame.goesWell hr hactive hwell, hsame.holds hr hactive⟩
  · rw [heq]
    exact habbr.holds (hsame.fields f habbr.family
      (List.ne_nil_of_mem (Rule.mem_inUse.2 ⟨hr, habbr.type, hactive⟩))) hwell

theorem Store.Calm.rule (hcalm : store.Calm context item) (hrules : store.getRules = .ok rules)
    {r : Rule} (hr : r ∈ rules) (hactive : r.isActiveFor context.targetType = true) :
    r.GoesWell context item := by
  intro e he htype hdata
  exact hcalm rules hrules e he hdata r (Rule.mem_inUse.2 ⟨hr, htype, hactive⟩)

theorem Store.Calm.recast (hcalm : store.Calm context item) (hrules : store.getRules = .ok rules)
    (hsame : SameForRules rules context item item') : (store.recast chosen).Calm context item' := by
  intro rules' hrules' e he hdata r' hr'
  obtain rfl := Except.ok.inj (hrules'.symm.trans (Store.getRules_recast chosen hrules))
  obtain ⟨hmem, htype, hactive⟩ := Rule.mem_inUse.1 hr'
  obtain ⟨r, hr, rfl⟩ := List.mem_map.1 hmem
  rw [Rule.isActiveFor_recast] at hactive
  exact (Rule.holds_recast chosen hsame hr hactive (hcalm.rule hrules hr hactive)).1 e he htype hdata

/-- The rules that match are the replacements of those that matched. -/
theorem Rule.matches_recast (hcalm : store.Calm context item) (hrules : store.getRules = .ok rules)
    (hsame : SameForRules rules context item item') (r' : Rule) :
    r'.Matches (store.recast chosen) context item' ↔
      ∃ r : Rule, r.Matches store context item ∧ r.recast chosen = r' := by
  constructor
  · rintro ⟨⟨rules', hrules', hmem⟩, hactive, hholds⟩
    obtain rfl := Except.ok.inj (hrules'.symm.trans (Store.getRules_recast chosen hrules))
    obtain ⟨r, hr, rfl⟩ := List.mem_map.1 hmem
    rw [Rule.isActiveFor_recast] at hactive
    have hiff := (Rule.holds_recast chosen hsame hr hactive (hcalm.rule hrules hr hactive)).2
    exact ⟨r, ⟨⟨rules, hrules, hr⟩, hactive, hiff.1 hholds⟩, rfl⟩
  · rintro ⟨r, ⟨⟨rules', hrules', hr⟩, hactive, hholds⟩, rfl⟩
    obtain rfl := Except.ok.inj (hrules'.symm.trans hrules)
    have hiff := (Rule.holds_recast chosen hsame hr hactive (hcalm.rule hrules hr hactive)).2
    refine ⟨⟨_, Store.getRules_recast chosen hrules, List.mem_map_of_mem hr⟩, ?_, hiff.2 hholds⟩
    rw [Rule.isActiveFor_recast]
    exact hactive

end Matching

/-- Completing an item only after shorthands have become conditions changes nothing that the rules in
use compare. -/
theorem SameForRules.of_completed {router : Router} {context : Context} {item item' : Item}
    {rules : List Rule} (hplugins : router.plugins = []) (hgenres : item'.genres = item.genres)
    (hneeds : router.needsMetadata (rules.filter (·.isActiveFor context.targetType)) = true →
      item' = item) : SameForRules rules context item item' := by
  have hmetadata : ∀ type ∈ Router.metadataFamilies, Rule.inUse rules type context ≠ [] →
      item' = item := fun type htype hin =>
    hneeds (needsMetadata_of_inUse htype (by simp [hplugins]) hin)
  constructor
  · intro f hf hin
    rcases Evaluator.cases_of_mem (evaluator_mem hf) with h | h | h
    · obtain rfl : f = genre := congrArg Evaluator.family h
      exact Family.seesSame_genre hgenres
    · obtain rfl : f = user := congrArg Evaluator.family h
      exact Family.seesSame_user context item item'
    · rw [hmetadata f.ruleType h hin]
      exact .refl f context item
  · exact hmetadata conditional.ruleType (by decide)

namespace Service

variable {context : Context} {item item' : Item} {s : Session}

/-- Without plugins it makes no difference to the verdicts which of the rules with a shorthand are
written as conditional rules, if no call to the store and no lookup fails and no rule goes wrong. -/
theorem resolve_recast (service : Service) (hplugins : service.usesPlugins = false)
    (hpool : service.isParallel = true → 0 < service.workers) (hans : s.Answers context)
    (hkeyed : s.store.RulesKeyed)
    (hlookup : item.metadata = none → ∃ it, (Lookup.enrich item context.contentType s).1 = .ok it)
    (hcomplete : service.router.completed item context s = .ok item')
    (hcalm : s.store.Calm context item') (chosen : Int → Bool) :
    ∃ vs, (service.router.resolve item context s).1 = .ok vs ∧
      (service.router.resolve item context (s.recast chosen)).1 = .ok vs := by
  cases hknown : context.knowsContentType with
  | false =>
    exact ⟨[], Router.resolve_unknown _ hknown item s, Router.resolve_unknown _ hknown item _⟩
  | true =>
    have hnoPlugins : service.router.plugins = [] := by
      change service.plugins = []
      rw [Service.plugins, hplugins]
      rfl
    have halone : service.router.Alone := ⟨rfl, hnoPlugins, hpool⟩
    have hquiet := service.quiet_router
    obtain ⟨rules, hread⟩ := hans.rules
    have hrules : s.store.getRules = .ok rules := (read_returns hread).1
    obtain ⟨item'', hcomplete', hgenres, hneeds⟩ := Router.completed_recast chosen hnoPlugins rfl
      hrules hlookup hcomplete
    have hsame := SameForRules.of_completed hnoPlugins hgenres hneeds
    obtain ⟨vs, hvs, hres⟩ := halone.resolve_matching hquiet hans hkeyed hknown hcomplete hcalm
    obtain ⟨vs', hvs', hres'⟩ := halone.resolve_matching hquiet (hans.recast chosen)
      (hkeyed.recast chosen) hknown hcomplete' (hcalm.recast hrules hsame)
    have hids : ∀ a b : Rule, a.Matches s.store context item' → b.Matches s.store context item' →
        a.id = b.id → a = b := by
      rintro a b ⟨⟨ra, hra, ha⟩, -⟩ ⟨⟨rb, hrb, hb⟩, -⟩ hid
      obtain rfl := Except.ok.inj (hra.symm.trans hrules)
      obtain rfl := Except.ok.inj (hrb.symm.trans hrules)
      exact hkeyed.eq_of_id hrules a ha b hb hid
    have hrecast := hres.recast chosen hids (Rule.matches_recast hcalm hrules hsame)
    rw [hres'.unique hrecast] at hvs'
    exact ⟨vs, hvs, hvs'⟩

/-- For instance, a rule for a genre is written as a condition, and the film is looked up only then. -/
theorem resolve_recast_one_of_two :
    let item : Item := { title := .text "Dune", guids := ["tmdb:841"], genres := [.text "Drama"] }
    let context : Context := { contentType := .text "movie" }
    let rule (id order : Int) (genre : String) : Rule := {
      id, name := .text genre, type := .text "genre", targetType := .text "radarr", targetId := 1, order
      criteria := .map [("genre", .text genre)] }
    let s : Session := {
      now := .ofDate ⟨738959⟩
      network := [("GET http://radarr/api/v3/movie/lookup/tmdb", [.answer 200 "OK" "\x7b\"year\": 1984\x7d"])]
      store := {
        instances := [{ id := 1, type := .text "radarr", baseUrl := "http://radarr" }]
        rules := [rule 1 60 "drama", rule 2 50 "Drama"] } }
    ∃ vs, (({} : Service).router.resolve item context s).1 = .ok vs ∧
      (({} : Service).router.resolve item context (s.recast fun id => id = 1)).1 = .ok vs := by
  intro item context rule s
  have hrules : s.store.getRules = .ok s.store.rules := by cbv
  have htarget : ∀ r ∈ s.store.rules, r.targetId = 1 := by
    simp [s, rule]
  have hans : s.Answers context := {
    rules := ⟨_, read_of_ok rfl hrules⟩
    rulesOfType := fun type _ => ⟨_, read_of_ok rfl (Store.getRulesOfType_eq hrules type)⟩
    target := by
      intro r hr
      rw [htarget r hr]
      exact ⟨s.store.instances.head?, read_of_ok rfl (by cbv)⟩
    syncTarget := fun _ h => (by cases h)
    standard := ⟨_, rfl⟩ }
  have hkeyed : s.store.RulesKeyed := by
    change [1, 2].Nodup
    decide
  have hlookup : ∃ it, (Lookup.enrich item context.contentType s).1 = .ok it :=
    ⟨item.withMetadata { year := .int 1984, genres := [.text "Drama"] }, by cbv⟩
  have hcomplete : ({} : Service).router.completed item context s = .ok item := by
    rw [Router.completed, hrules]
    rfl
  have hcalm : s.store.Calm context item := .of_check hrules (by cbv)
  exact resolve_recast {} rfl (fun h => by cases h) hans hkeyed (fun _ => hlookup) hcomplete hcalm _

end Service

end Watchgate
