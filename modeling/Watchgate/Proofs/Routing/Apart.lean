import Watchgate.Proofs.Criteria.Faults
import Mathlib.Tactic.FinCases

/-!
# Rules apart

What an evaluator makes of the rules in the store is what it makes of each of them alone, put together by
rising id, unless one of them goes wrong: then nothing is found at all. A rule goes wrong if its profile
cannot be read, or if its criteria cannot be judged. All other criteria that make no sense only keep their
own rule from matching.

One step is a row in front of others (`inRows_cons`), a run is a whole table (`inRows_ok_iff`).
-/

namespace Watchgate

open Act Criteria

namespace Criteria.Evaluator

variable {e : Evaluator} {item : Item} {context : Context} {row : Rule} {rows found : List Rule}

/-! ## Rules that were read -/

/-- What an evaluator finds in one rule. -/
def inRule (e : Evaluator) (item : Item) (context : Context) (r : Rule) :
    Except Failure (List Rule) :=
  if r.isActiveFor context.targetType then do
    let isMatch ← e.answer item context r
    return if isMatch then [r] else []
  else return []

theorem inRule_ok {r : Rule} (h : e.inRule item context r = .ok found) :
    found = [] ∨ r.isActiveFor context.targetType = true ∧ e.answer item context r = .ok true ∧
      found = [r] := by
  unfold inRule at h
  by_cases hactive : r.isActiveFor context.targetType = true
  · rw [if_pos hactive] at h
    obtain ⟨isMatch, hanswer, h⟩ := ok_of_bind h
    cases isMatch with
    | false => exact .inl (pure_ok h).symm
    | true => exact .inr ⟨hactive, hanswer, (pure_ok h).symm⟩
  · rw [if_neg hactive] at h
    exact .inl (pure_ok h).symm

theorem inRule_fails {r : Rule} {failure : Failure} (h : e.inRule item context r = .error failure) :
    r.isActiveFor context.targetType = true ∧ e.answer item context r = .error failure := by
  unfold inRule at h
  by_cases hactive : r.isActiveFor context.targetType = true
  · rw [if_pos hactive] at h
    rcases error_of_bind h with hanswer | ⟨isMatch, -, h⟩
    · exact ⟨hactive, hanswer⟩
    · cases h
  · rw [if_neg hactive] at h
    cases h

theorem matched_active_singleton (r : Rule) :
    e.matched item context ([r].filter (·.isActiveFor context.targetType)) = e.inRule item context r := by
  unfold inRule
  by_cases hactive : r.isActiveFor context.targetType = true
  · rw [List.filter_cons, if_pos hactive, if_pos hactive, List.filter_nil, matched]
    cases e.answer item context r with
    | error failure => rfl
    | ok isMatch => cases isMatch <;> rfl
  · rw [List.filter_cons, if_neg hactive, if_neg hactive]
    rfl

theorem matched_active_cons {r : Rule} {rules : List Rule} :
    e.matched item context ((r :: rules).filter (·.isActiveFor context.targetType)) = .ok found ↔
      ∃ head tail, e.inRule item context r = .ok head ∧
        e.matched item context (rules.filter (·.isActiveFor context.targetType)) = .ok tail ∧
        found = head ++ tail := by
  unfold inRule
  rw [List.filter_cons]
  by_cases hactive : r.isActiveFor context.targetType = true
  · rw [if_pos hactive, if_pos hactive]
    constructor
    · intro h
      obtain ⟨isMatch, hanswer, h⟩ := ok_of_bind h
      obtain ⟨tail, htail, h⟩ := ok_of_bind h
      obtain rfl := pure_ok h
      rw [hanswer]
      refine ⟨if isMatch then [r] else [], tail, rfl, htail, ?_⟩
      cases isMatch <;> rfl
    · rintro ⟨head, tail, hhead, htail, rfl⟩
      obtain ⟨isMatch, hanswer, hhead⟩ := ok_of_bind hhead
      obtain rfl := pure_ok hhead
      rw [matched, hanswer, htail]
      cases isMatch <;> rfl
  · rw [if_neg hactive, if_neg hactive]
    constructor
    · intro h
      exact ⟨[], found, rfl, h, rfl⟩
    · rintro ⟨head, tail, hhead, htail, rfl⟩
      obtain rfl := pure_ok hhead
      exact htail

/-! ## Rows of the table -/

/-- What an evaluator finds in one row of the table of rules. -/
def inRow (e : Evaluator) (item : Item) (context : Context) (row : Rule) :
    Except Failure (List Rule) :=
  if row.type.isOneOf [e.family.ruleType] then Store.readRule row >>= e.inRule item context
  else .ok []

/-- What an evaluator finds in several rows, all of which are read before one is judged. -/
def inRows (e : Evaluator) (item : Item) (context : Context) (rows : List Rule) :
    Except Failure (List Rule) := do
  let rules ← (rows.filter fun row => row.type.isOneOf [e.family.ruleType]).mapM Store.readRule
  e.matched item context (rules.filter (·.isActiveFor context.targetType))

theorem inRows_singleton (row : Rule) :
    e.inRows item context [row] = e.inRow item context row := by
  unfold inRows inRow
  by_cases htype : row.type.isOneOf [e.family.ruleType] = true
  · rw [List.filter_cons, if_pos htype, if_pos htype, List.filter_nil]
    cases hr : Store.readRule row with
    | error failure =>
      rw [List.mapM_cons, hr]
      rfl
    | ok r =>
      have hnone : ([] : List Rule).mapM Store.readRule = .ok [] := rfl
      rw [mapM_ok_of_cons hr hnone]
      exact matched_active_singleton r
  · rw [List.filter_cons, if_neg htype, if_neg htype]
    rfl

/-- A row in front of others adds what it gives alone, and spoils all if it goes wrong. -/
theorem inRows_cons : e.inRows item context (row :: rows) = .ok found ↔ ∃ head tail,
    e.inRow item context row = .ok head ∧ e.inRows item context rows = .ok tail ∧
      found = head ++ tail := by
  -- only success is compared: which failure comes first depends on the rows behind
  unfold inRows inRow
  rw [List.filter_cons]
  by_cases htype : row.type.isOneOf [e.family.ruleType] = true
  · rw [if_pos htype, if_pos htype]
    constructor
    · intro h
      obtain ⟨rules, hrules, h⟩ := ok_of_bind h
      obtain ⟨r, rest, hr, hrest, rfl⟩ := mapM_ok_cons hrules
      rw [hr, hrest]
      exact matched_active_cons.1 h
    · rintro ⟨head, tail, hhead, htail, rfl⟩
      obtain ⟨r, hr, hhead⟩ := ok_of_bind hhead
      obtain ⟨rest, hrest, htail⟩ := ok_of_bind htail
      rw [mapM_ok_of_cons hr hrest]
      exact matched_active_cons.2 ⟨head, tail, hhead, htail, rfl⟩
  · rw [if_neg htype, if_neg htype]
    constructor
    · intro h
      exact ⟨[], found, rfl, h, rfl⟩
    · rintro ⟨head, tail, hhead, htail, rfl⟩
      obtain rfl := Except.ok.inj hhead
      exact htail

/-- Several rows give what each of them gives, and fail if one of them does. -/
theorem inRows_ok_iff : e.inRows item context rows = .ok found ↔
    ∃ parts, rows.mapM (e.inRow item context) = .ok parts ∧ found = parts.flatten := by
  induction rows generalizing found with
  | nil =>
    constructor
    · intro h
      obtain rfl : [] = found := Except.ok.inj h
      exact ⟨[], rfl, rfl⟩
    · rintro ⟨parts, hparts, rfl⟩
      obtain rfl : [] = parts := pure_ok hparts
      rfl
  | cons row rows ih =>
    rw [inRows_cons]
    constructor
    · rintro ⟨head, tail, hhead, htail, rfl⟩
      obtain ⟨parts, hparts, rfl⟩ := ih.1 htail
      exact ⟨head :: parts, mapM_ok_of_cons hhead hparts, rfl⟩
    · rintro ⟨parts, hparts, rfl⟩
      obtain ⟨head, tail, hhead, htail, rfl⟩ := mapM_ok_cons hparts
      exact ⟨head, tail.flatten, hhead, ih.2 ⟨tail, htail, rfl⟩, rfl⟩

theorem inRow_ok (h : e.inRow item context row = .ok found) :
    found = [] ∨ ∃ r, Store.readRule row = .ok r ∧ r.type = .text e.family.ruleType ∧
      r.isActiveFor context.targetType = true ∧ e.answer item context r = .ok true ∧ found = [r] := by
  unfold inRow at h
  by_cases htype : row.type.isOneOf [e.family.ruleType] = true
  · rw [if_pos htype] at h
    obtain ⟨r, hr, h⟩ := ok_of_bind h
    refine (inRule_ok h).imp_right fun hfound => ⟨r, hr, ?_, hfound⟩
    obtain ⟨p, -, rfl⟩ := Store.readRule_ok hr
    exact Rule.isOneOf_singleton.1 htype
  · rw [if_neg htype] at h
    exact .inl (Except.ok.inj h).symm

theorem inRow_of_void (hvoid : e.Void row) (h : e.inRow item context row = .ok found) :
    found = [] := by
  rcases inRow_ok h with hnone | ⟨r, hr, -, -, hanswer, -⟩
  · exact hnone
  · obtain ⟨p, -, rfl⟩ := Store.readRule_ok hr
    exact absurd hanswer (answer_of_void (hvoid.of_criteria rfl))

/-- Only two things can go wrong with a row: its profile and its criteria. -/
theorem inRow_fails (he : e ∈ evaluators) (hmap : ∃ entries, row.criteria = .map entries)
    {failure : Failure} (h : e.inRow item context row = .error failure) :
    row.type = .text e.family.ruleType ∧ (Store.readRule row = .error failure ∨
      row.isActiveFor context.targetType = true ∧ e.Hindrance row failure) := by
  unfold inRow at h
  by_cases htype : row.type.isOneOf [e.family.ruleType] = true
  · rw [if_pos htype] at h
    refine ⟨Rule.isOneOf_singleton.1 htype, ?_⟩
    rcases error_of_bind h with hr | ⟨r, hr, h⟩
    · exact .inl hr
    · obtain ⟨hactive, hanswer⟩ := inRule_fails h
      obtain ⟨p, -, rfl⟩ := Store.readRule_ok hr
      exact .inr ⟨hactive, (answer_fails he hmap hanswer).of_criteria rfl⟩
  · rw [if_neg htype] at h
    cases h

end Criteria.Evaluator

namespace Session

/-- The session with other rules in the store. -/
def withRules (s : Session) (rules : List Rule) : Session :=
  { s with store := { s.store with rules } }

/-- Rules of a type are read, or the store says why not. -/
def ReadsOrRefuses (s : Session) (type : String) : Prop :=
  ∀ failure, s.outage? .getRulesOfType (some (.text type)) = some failure →
    ∃ fault, failure = .storage fault

end Session

namespace Runner

variable {e : Evaluator} {item : Item} {context : Context} {s : Session}

/-- The placements as they are answered: none where there are none. -/
def listed (ps : List Placement) : Option (List Placement) := if ps.isEmpty then none else some ps

/-- The placements that were answered. -/
def placements (answer : Except Failure (Option (List Placement))) : List Placement :=
  answer.toOption.join.getD []

theorem evaluateRules_of_outage {fault : StorageFault}
    (h : s.outage? .getRulesOfType (some (.text e.family.ruleType)) = some (.storage fault)) :
    (evaluateRules e item context s).1 = .ok none := by
  have hread : getRulesOfType (.text e.family.ruleType) s = (.error (.storage fault), s) := by
    unfold getRulesOfType Act.read
    rw [h]
  have hload : loadRules e.family.ruleType context s = (.error (.storage fault), s) :=
    bind_of_error hread
  obtain ⟨s', hskipped⟩ : ∃ s', tryLoadRules e.family.name e.family.ruleType context s = (.ok none, s') :=
    tryLoadRules_of_storage hload
  unfold evaluateRules
  split
  · rfl
  · rw [bind_of_ok hskipped]
    rfl

theorem evaluateRules_of_read (hdata : e.family.hasData item context = true)
    (h : s.outage? .getRulesOfType (some (.text e.family.ruleType)) = none) :
    (evaluateRules e item context s).1 =
      (e.inRows item context (Store.sortedBy Rule.id s.store.rules)).map fun found =>
        listed (found.map Rule.toPlacement) := by
  unfold Evaluator.inRows
  rw [← Store.getRulesOfType_text]
  cases hrules : s.store.getRulesOfType (.text e.family.ruleType) with
  | error failure =>
    obtain ⟨fault, rfl⟩ := Store.getRulesOfType_fails hrules
    have hread : getRulesOfType (.text e.family.ruleType) s = (.error (.value fault), s) := by
      unfold getRulesOfType Act.read
      rw [h]
      simp only [hrules]
      rfl
    unfold evaluateRules
    simp only [hdata, Bool.not_true, Bool.false_eq_true, if_false]
    rw [bind_of_error (tryLoadRules_of_value (bind_of_error hread))]
    rfl
  | ok rules =>
    have hread : getRulesOfType (.text e.family.ruleType) s = (.ok rules, s) := by
      unfold getRulesOfType Act.read
      rw [h]
      simp only [hrules]
    obtain ⟨entries, heval⟩ :=
      evaluateRules_of_loaded hdata (tryLoadRules_of_ok (bind_of_ok hread))
    rw [heval, ok_bind]
    cases e.matched item context (rules.filter (·.isActiveFor context.targetType)) with
    | error failure => rfl
    | ok found => cases found <;> rfl

/-- What an evaluator makes of a row that has the table of rules for itself. -/
def evaluatesAlone (e : Evaluator) (item : Item) (context : Context) (s : Session) (row : Rule) :
    Except Failure (Option (List Placement)) :=
  (evaluateRules e item context (s.withRules [row])).1

@[simp] theorem placements_listed (ps : List Placement) : placements (.ok (listed ps)) = ps := by
  cases ps <;> rfl

@[simp] theorem getD_listed (ps : List Placement) : (listed ps).getD [] = ps := by
  cases ps <;> rfl

/-- Whether an evaluator gets to judge rules: there is data to compare, and rules can be read. -/
def reachesRules (e : Evaluator) (item : Item) (context : Context) (s : Session) : Bool :=
  e.family.hasData item context &&
    (s.outage? .getRulesOfType (some (.text e.family.ruleType))).isNone

variable (hs : s.ReadsOrRefuses e.family.ruleType)

include hs

theorem evaluateRules_eq (rules : List Rule) : (evaluateRules e item context (s.withRules rules)).1 =
    if reachesRules e item context s then
      (e.inRows item context (Store.sortedBy Rule.id rules)).map fun found =>
        listed (found.map Rule.toPlacement)
    else .ok none := by
  unfold reachesRules
  cases hdata : e.family.hasData item context with
  | false => exact congrArg Prod.fst (evaluateRules_of_no_data hdata _)
  | true =>
    cases hread : s.outage? .getRulesOfType (some (.text e.family.ruleType)) with
    | some failure =>
      obtain ⟨fault, rfl⟩ := hs failure hread
      exact evaluateRules_of_outage hread
    | none => exact evaluateRules_of_read hdata hread

theorem evaluatesAlone_eq (row : Rule) : evaluatesAlone e item context s row =
    if reachesRules e item context s then
      (e.inRow item context row).map fun found => listed (found.map Rule.toPlacement)
    else .ok none := by
  unfold evaluatesAlone
  rw [evaluateRules_eq hs, Store.sortedBy, List.mergeSort_singleton, Evaluator.inRows_singleton]

/-- The whole table is judged exactly where each row is. -/
theorem evaluateRules_ok_iff : (∃ answer, (evaluateRules e item context s).1 = .ok answer) ↔
    ∀ row ∈ s.store.rules, ∃ answer, evaluatesAlone e item context s row = .ok answer := by
  have hwhole : (evaluateRules e item context s).1 = _ := evaluateRules_eq hs s.store.rules
  simp only [evaluatesAlone_eq hs]
  rw [hwhole]
  by_cases hreach : reachesRules e item context s = true
  case neg =>
    simp only [hreach, Bool.false_eq_true, if_false]
    exact ⟨fun _ _ _ => ⟨none, rfl⟩, fun _ => ⟨none, rfl⟩⟩
  simp only [hreach, if_true]
  constructor
  · rintro ⟨answer, hanswer⟩ row hrow
    obtain ⟨found, hfound, -⟩ := ok_of_map hanswer
    obtain ⟨parts, hparts, -⟩ := Evaluator.inRows_ok_iff.1 hfound
    obtain ⟨part, -, hpart⟩ :=
      exists_mem_of_mapM_ok hparts ((Store.perm_sortedBy Rule.id s.store.rules).mem_iff.2 hrow)
    exact ⟨_, congrArg (Except.map _) hpart⟩
  · intro hrows
    obtain ⟨parts, hparts⟩ := exists_mapM_ok (f := e.inRow item context)
      (l := Store.sortedBy Rule.id s.store.rules) fun row hrow => by
        obtain ⟨answer, hanswer⟩ := hrows row ((Store.perm_sortedBy Rule.id _).mem_iff.1 hrow)
        obtain ⟨part, hpart, -⟩ := ok_of_map hanswer
        exact ⟨part, hpart⟩
    exact ⟨_, congrArg (Except.map _) (Evaluator.inRows_ok_iff.2 ⟨parts, hparts, rfl⟩)⟩

/-- What is found in the whole table is what is found in its rows, by rising id. -/
theorem evaluateRules_flatMap {answer : Option (List Placement)}
    (h : (evaluateRules e item context s).1 = .ok answer) :
    answer = listed ((Store.sortedBy Rule.id s.store.rules).flatMap fun row =>
      placements (evaluatesAlone e item context s row)) := by
  have hwhole : (evaluateRules e item context s).1 = _ := evaluateRules_eq hs s.store.rules
  simp only [evaluatesAlone_eq hs]
  rw [hwhole] at h
  by_cases hreach : reachesRules e item context s = true
  case neg =>
    simp only [hreach, Bool.false_eq_true, if_false] at h ⊢
    obtain rfl : none = answer := Except.ok.inj h
    have hnone : ((Store.sortedBy Rule.id s.store.rules).flatMap fun _ => placements (.ok none)) = [] :=
      List.flatMap_eq_nil_iff.2 fun _ _ => rfl
    rw [hnone]
    rfl
  simp only [hreach, if_true] at h ⊢
  obtain ⟨found, hfound, rfl⟩ := ok_of_map h
  obtain ⟨parts, hparts, rfl⟩ := Evaluator.inRows_ok_iff.1 hfound
  have heach : parts.map (·.map Rule.toPlacement) =
      (Store.sortedBy Rule.id s.store.rules).map fun row => placements
        ((e.inRow item context row).map fun found => listed (found.map Rule.toPlacement)) := by
    refine map_of_mapM_ok (fun row _ part hpart => ?_) hparts
    rw [hpart]
    exact (placements_listed _).symm
  rw [List.map_flatten, heach, List.flatMap_def]

theorem row_of_evaluatesAlone {row : Rule} {ps : List Placement}
    (h : evaluatesAlone e item context s row = .ok (some ps)) :
    ∃ r, Store.readRule row = .ok r ∧ r.type = .text e.family.ruleType ∧
      r.isActiveFor context.targetType = true ∧ ps = [r.toPlacement] := by
  rw [evaluatesAlone_eq hs] at h
  split at h
  · obtain ⟨found, hfound, hlisted⟩ := ok_of_map h
    rcases Evaluator.inRow_ok hfound with rfl | ⟨r, hr, htype, hactive, -, rfl⟩
    · cases hlisted
    · exact ⟨r, hr, htype, hactive, (Option.some.inj hlisted).symm⟩
  · cases h

theorem evaluatesAlone_of_void {row : Rule} (hvoid : e.Void row) (ps : List Placement) :
    evaluatesAlone e item context s row ≠ .ok (some ps) := by
  intro h
  rw [evaluatesAlone_eq hs] at h
  split at h
  · obtain ⟨found, hfound, hlisted⟩ := ok_of_map h
    obtain rfl := Evaluator.inRow_of_void hvoid hfound
    cases hlisted
  · cases h

theorem evaluatesAlone_fails (he : e ∈ evaluators) {row : Rule}
    (hmap : ∃ entries, row.criteria = .map entries) {failure : Failure}
    (h : evaluatesAlone e item context s row = .error failure) :
    row.type = .text e.family.ruleType ∧ (Store.readRule row = .error failure ∨
      row.isActiveFor context.targetType = true ∧ e.Hindrance row failure) := by
  rw [evaluatesAlone_eq hs] at h
  split at h
  · exact Evaluator.inRow_fails he hmap (error_of_map h)
  · cases h

theorem placements_evaluatesAlone (row : Rule) :
    placements (evaluatesAlone e item context s row) = [] ∨ ∃ r : Rule, r.id = row.id ∧
      placements (evaluatesAlone e item context s row) = [r.toPlacement] := by
  cases halone : evaluatesAlone e item context s row with
  | error failure => exact .inl rfl
  | ok found =>
    cases found with
    | none => exact .inl rfl
    | some ps =>
      obtain ⟨r, hr, -, -, rfl⟩ := row_of_evaluatesAlone hs halone
      exact .inr ⟨r, Store.readRule_id hr, rfl⟩

/-- What is answered stands in the order of the rules' ids. -/
theorem evaluateRules_rising (hkeyed : s.store.RulesKeyed) {answer : Option (List Placement)}
    (h : (evaluateRules e item context s).1 = .ok answer) :
    (answer.getD []).Pairwise fun p q => ∃ i j, p.ruleId = .int i ∧ q.ruleId = .int j ∧ i < j := by
  obtain rfl := evaluateRules_flatMap hs h
  rw [getD_listed, List.pairwise_flatMap]
  constructor
  · intro row _
    rcases placements_evaluatesAlone hs row with hnone | ⟨r, -, hone⟩
    · rw [hnone]
      exact .nil
    · rw [hone]
      exact List.pairwise_singleton _ _
  · refine (Store.sortedBy_strict hkeyed).imp fun {row row'} hlt p hp q hq => ?_
    have hid : ∀ row, ∀ p ∈ placements (evaluatesAlone e item context s row),
        p.ruleId = .int row.id := by
      intro row p hp
      rcases placements_evaluatesAlone hs row with hnone | ⟨r, hr, hone⟩
      · rw [hnone] at hp
        cases hp
      · rw [hone] at hp
        obtain rfl := List.mem_singleton.1 hp
        exact congrArg Value.int hr
    exact ⟨row.id, row'.id, hid row p hp, hid row' q hq, hlt⟩

omit hs

/-- Where each rule can be judged alone, all of them can be judged together; the placements are those of
each rule alone, in the order of the rules' ids, and a rule with criteria that say nothing has none. What
cannot be judged is a rule of the type whose profile cannot be read, or an active one with one of the
hindrances; it alone goes wrong in the same way. -/
theorem evaluateRules_rule_by_rule (he : e ∈ evaluators) (item : Item) (context : Context)
    (hkeyed : s.store.RulesKeyed) (hmapped : s.store.CriteriaMapped)
    (hs : s.ReadsOrRefuses e.family.ruleType) :
    ((∃ answer, (evaluateRules e item context s).1 = .ok answer) ↔
      ∀ row ∈ s.store.rules, ∃ answer, evaluatesAlone e item context s row = .ok answer) ∧
    (∀ answer, (evaluateRules e item context s).1 = .ok answer →
      answer = listed ((Store.sortedBy Rule.id s.store.rules).flatMap fun row =>
        placements (evaluatesAlone e item context s row)) ∧
      (answer.getD []).Pairwise fun p q => ∃ i j, p.ruleId = .int i ∧ q.ruleId = .int j ∧ i < j) ∧
    ∀ row ∈ s.store.rules,
      (∀ ps, evaluatesAlone e item context s row = .ok (some ps) →
        ∃ r, Store.readRule row = .ok r ∧ r.type = .text e.family.ruleType ∧
          r.isActiveFor context.targetType = true ∧ ps = [r.toPlacement]) ∧
      (e.Void row → ∀ ps, evaluatesAlone e item context s row ≠ .ok (some ps)) ∧
      ∀ failure, evaluatesAlone e item context s row = .error failure →
        row.type = .text e.family.ruleType ∧ (Store.readRule row = .error failure ∨
          row.isActiveFor context.targetType = true ∧ e.Hindrance row failure) := by
  refine ⟨evaluateRules_ok_iff hs, fun answer h => ?_, fun row hrow => ?_⟩
  · exact ⟨evaluateRules_flatMap hs h, evaluateRules_rising hs hkeyed h⟩
  · exact ⟨fun ps => row_of_evaluatesAlone hs, evaluatesAlone_of_void hs,
      fun failure => evaluatesAlone_fails hs he (hmapped row hrow)⟩

/-- For instance, a rule without a user, one with an unknown operator, and one that lists no names do
not keep a fourth from its placement. -/
theorem evaluateRules_rule_by_rule_fourth_of_four :
    let rule (id : Int) (criteria : Entries) : Rule := {
      id, name := .text "Users", type := .text "user", targetType := .text "radarr", targetId := 2
      criteria := .map criteria }
    let s : Session := {
      now := .ofDate ⟨738959⟩
      store := { rules := [
        rule 4 [("users", .list [.text "ann"])],
        rule 1 [],
        rule 2 [("user", .text "ann"), ("operator", .text "resembles")],
        rule 3 [("users", .list [.bool true, .list [], .null])]] } }
    let item : Item := { title := .text "Dune" }
    let context : Context := { contentType := .text "movie", userName := .one (.text "Ann") }
    s.store.RulesKeyed ∧ s.store.CriteriaMapped ∧ s.ReadsOrRefuses "user" ∧
      (∀ ps, evaluatesAlone { family := user } item context s (rule 1 []) ≠ .ok (some ps)) ∧
      (evaluateRules { family := user } item context s).1
        = .ok (some [(rule 4 [("users", .list [.text "ann"])]).toPlacement]) := by
  intro rule s item context
  have hkeyed : s.store.RulesKeyed := by
    change [4, 1, 2, 3].Nodup
    decide
  have hmapped : s.store.CriteriaMapped := by
    intro row hrow
    fin_cases hrow <;> exact ⟨_, rfl⟩
  have hs : s.ReadsOrRefuses "user" := by
    intro failure h
    cases h
  obtain ⟨hsucceeds, hanswers, hrows⟩ := evaluateRules_rule_by_rule
    (evaluator_mem (f := user) (by simp [fieldFamilies])) item context hkeyed hmapped hs
  have halone : ∀ row ∈ s.store.rules,
      ∃ answer, evaluatesAlone { family := user } item context s row = .ok answer := by
    simp only [s, List.forall_mem_cons]
    refine ⟨⟨some [(rule 4 [("users", .list [.text "ann"])]).toPlacement], ?_⟩, ⟨none, ?_⟩, ⟨none, ?_⟩,
      ⟨none, ?_⟩, List.forall_mem_nil _⟩
    all_goals cbv
  obtain ⟨answer, hanswer⟩ := hsucceeds.2 halone
  have hvoid : ({ family := user } : Evaluator).Void (rule 1 []) := .valueless rfl rfl
  have hfirst : rule 1 [] ∈ s.store.rules := .tail _ (.head _)
  refine ⟨hkeyed, hmapped, hs, (hrows (rule 1 []) hfirst).2.1 hvoid, ?_⟩
  rw [hanswer, (hanswers answer hanswer).1]
  cbv

/-- A name of digits that write no number hides another rule. -/
theorem evaluateRules_hidden_by_digits :
    let rule (id : Int) (name : String) : Rule := {
      id, name := .text name, type := .text "user", targetType := .text "radarr", targetId := 2
      criteria := .map [("users", .list [.text name])] }
    let s : Session := {
      now := .ofDate ⟨738959⟩
      store := { rules := [rule 1 "²", rule 2 "ann"] } }
    let item : Item := { title := .text "Dune" }
    let context : Context := { contentType := .text "movie", userName := .one (.text "Ann") }
    evaluatesAlone { family := user } item context s (rule 2 "ann")
        = .ok (some [(rule 2 "ann").toPlacement]) ∧
      (evaluateRules { family := user } item context s).1 = .error (.value (.notInteger "²")) := by
  intro rule s item context
  exact ⟨by cbv, by cbv⟩

end Runner

end Watchgate
