import Watchgate.Proofs.Routing.Decision
import Watchgate.Proofs.Store.RuleTable

/-!
# What the families find

Each evaluator runs over the rules of its type that are in use. It finds those that match; where there
is nothing to compare, or where one of its rules goes wrong, it finds nothing. Runners and the list in
which they run are brought down to this.
-/

namespace Watchgate

open Act Criteria

namespace Rule

/-- The rules of a type that are in use for a context. -/
def inUse (rules : List Rule) (type : String) (context : Context) : List Rule :=
  (rules.filter fun r => r.type.isOneOf [type]).filter (·.isActiveFor context.targetType)

theorem isOneOf_singleton {v : Value} {t : String} : v.isOneOf [t] = true ↔ v = .text t := by
  cases v <;> simp [Value.isOneOf]

theorem mem_inUse {rules : List Rule} {type : String} {context : Context} {r : Rule} :
    r ∈ inUse rules type context ↔
      r ∈ rules ∧ r.type = .text type ∧ r.isActiveFor context.targetType = true := by
  unfold inUse
  rw [List.mem_filter, List.mem_filter, isOneOf_singleton, and_assoc]

end Rule

namespace Criteria.Evaluator

/-- Whether a rule matches, or what goes wrong. -/
def answer (e : Evaluator) (item : Item) (context : Context) (rule : Rule) : Except Failure Bool :=
  (e.matchesRule rule item context).run.value

/-- The rules that match, unless one goes wrong. -/
def matched (e : Evaluator) (item : Item) (context : Context) : List Rule → Except Failure (List Rule)
  | [] => .ok []
  | rule :: rules => do
    let isMatch ← e.answer item context rule
    let rest ← e.matched item context rules
    return if isMatch then rule :: rest else rest

/-- The rules that an evaluator finds. -/
def found (e : Evaluator) (rules : List Rule) (item : Item) (context : Context) : List Rule :=
  if e.family.hasData item context then
    (e.matched item context (Rule.inUse rules e.family.ruleType context)).toOption.getD []
  else []

variable {e : Evaluator} {item : Item} {context : Context}

theorem mem_of_matched {rules found : List Rule} (h : e.matched item context rules = .ok found)
    (r : Rule) : r ∈ found ↔ r ∈ rules ∧ e.answer item context r = .ok true := by
  induction rules generalizing found with
  | nil =>
    obtain rfl : [] = found := Except.ok.inj h
    simp
  | cons rule rules ih =>
    obtain ⟨isMatch, hanswer, h⟩ := ok_of_bind h
    obtain ⟨rest, hrest, h⟩ := ok_of_bind h
    obtain rfl := pure_ok h
    have hrest := ih hrest
    cases isMatch with
    | true =>
      simp only [if_true, List.mem_cons, hrest]
      constructor
      · rintro (rfl | ⟨hr, hyes⟩)
        · exact ⟨.inl rfl, hanswer⟩
        · exact ⟨.inr hr, hyes⟩
      · rintro ⟨rfl | hr, hyes⟩
        · exact .inl rfl
        · exact .inr ⟨hr, hyes⟩
    | false =>
      simp only [Bool.false_eq_true, if_false, List.mem_cons, hrest]
      constructor
      · rintro ⟨hr, hyes⟩
        exact ⟨.inr hr, hyes⟩
      · rintro ⟨rfl | hr, hyes⟩
        · rw [hanswer] at hyes
          cases hyes
        · exact ⟨hr, hyes⟩

theorem matched_of_calm {rules : List Rule} (h : ∀ r ∈ rules, ∃ b, e.answer item context r = .ok b) :
    ∃ found, e.matched item context rules = .ok found := by
  induction rules with
  | nil => exact ⟨[], rfl⟩
  | cons rule rules ih =>
    obtain ⟨b, hb⟩ := h rule List.mem_cons_self
    obtain ⟨rest, hrest⟩ := ih fun r hr => h r (.tail _ hr)
    exact ⟨_, by rw [matched, hb, hrest]; rfl⟩

theorem mem_rules_of_found {rules : List Rule} {r : Rule} (h : r ∈ e.found rules item context) :
    r ∈ rules ∧ r.isActiveFor context.targetType = true := by
  unfold found at h
  split at h
  · cases hm : e.matched item context (Rule.inUse rules e.family.ruleType context) with
    | error f =>
      rw [hm] at h
      cases h
    | ok fs =>
      rw [hm] at h
      obtain ⟨hr, -, hactive⟩ := Rule.mem_inUse.1 ((mem_of_matched hm r).1 h).1
      exact ⟨hr, hactive⟩
  · cases h

/-- Where no rule goes wrong, what is found is what matches. -/
theorem mem_found {rules : List Rule}
    (h : e.family.hasData item context = true → ∀ r ∈ Rule.inUse rules e.family.ruleType context,
      ∃ b, e.answer item context r = .ok b) (r : Rule) :
    r ∈ e.found rules item context ↔ e.family.hasData item context = true ∧
      r ∈ Rule.inUse rules e.family.ruleType context ∧ e.answer item context r = .ok true := by
  unfold found
  by_cases hdata : e.family.hasData item context = true
  · obtain ⟨fs, hm⟩ := matched_of_calm (h hdata)
    rw [if_pos hdata, hm, and_iff_right hdata]
    exact mem_of_matched hm r
  · rw [if_neg hdata]
    simp [hdata]

end Criteria.Evaluator

namespace Runner

variable {context : Context} {s s' : Session} {rules : List Rule}

theorem tryLoadRules_of_ok {name type : String} (h : loadRules type context s = (.ok rules, s')) :
    tryLoadRules name type context s = (.ok (some rules), s') := by
  unfold tryLoadRules
  rw [tryCatch_apply, map_of_eq some h]
  rfl

/-- A failure of the store is noted, and there are no rules. -/
theorem tryLoadRules_of_storage {name type : String} {fault : StorageFault}
    (h : loadRules type context s = (.error (.storage fault), s')) :
    ∃ s'', tryLoadRules name type context s = (.ok none, s'') := by
  unfold tryLoadRules
  rw [tryCatch_apply, map_of_eq some h]
  exact ⟨_, rfl⟩

theorem tryLoadRules_of_value {name type : String} {fault : ValueFault}
    (h : loadRules type context s = (.error (.value fault), s')) :
    tryLoadRules name type context s = (.error (.value fault), s') := by
  unfold tryLoadRules
  rw [tryCatch_apply, map_of_eq some h]
  rfl

theorem tells_tryLoadRules (hans : s.Answers context) (hrules : s.store.getRules = .ok rules)
    {type : String} (htype : type ∈ ruleTypes) (name : String) (hs : s.SameTables s') :
    (tryLoadRules name type context).Tells s' (.ok (some (Rule.inUse rules type context))) := by
  obtain ⟨typed, htyped⟩ := hans.rulesOfType type htype
  have hstore : s.store.getRulesOfType (.text type) = .ok typed := (read_returns htyped).1
  obtain rfl := Except.ok.inj (hstore.symm.trans (Store.getRulesOfType_eq hrules type))
  obtain ⟨entries, hread⟩ := tells_read htyped hs
  exact ⟨entries, tryLoadRules_of_ok (bind_of_ok hread)⟩

theorem tells_hasRules (hans : s.Answers context) (hrules : s.store.getRules = .ok rules)
    {type : String} (htype : type ∈ ruleTypes) (name : String) (hs : s.SameTables s') :
    (hasRules name type context).Tells s' (.ok !(Rule.inUse rules type context).isEmpty) := by
  refine (tells_tryLoadRules hans hrules htype name hs).bind
    (g := fun o => .ok (o.any fun rules => !rules.isEmpty)) fun o entries _ => ?_
  exact tells_pure _ _

theorem tells_matching (e : Evaluator) (item : Item) (context : Context) (rules : List Rule)
    (s : Session) : (matching e item context rules).Tells s (e.matched item context rules) := by
  induction rules generalizing s with
  | nil => exact tells_pure _ s
  | cons rule rules ih =>
    refine (tells_ofJudgement _ s).bind fun isMatch entries _ => ?_
    exact (ih _).bind fun rest entries' _ => tells_pure _ _

theorem evaluateRules_of_no_data {e : Evaluator} {item : Item}
    (hdata : e.family.hasData item context = false) (s : Session) :
    evaluateRules e item context s = (.ok none, s) := by
  unfold evaluateRules
  rw [hdata]
  rfl

theorem evaluateRules_of_loaded {e : Evaluator} {item : Item}
    (hdata : e.family.hasData item context = true)
    (hload : tryLoadRules e.family.name e.family.ruleType context s = (.ok (some rules), s')) :
    ∃ entries, evaluateRules e item context s = (e.matched item context rules >>= fun found =>
      .ok (if found.isEmpty then none else some (found.map Rule.toPlacement)),
        { s' with journal := entries }) := by
  obtain ⟨entries, hends⟩ := (tells_matching e item context rules s').bind
    (f := fun found => pure (if found.isEmpty then none else some (found.map Rule.toPlacement)))
    fun found _ _ => tells_pure _ _
  refine ⟨entries, ?_⟩
  unfold evaluateRules
  simp only [hdata, Bool.not_true, Bool.false_eq_true, if_false]
  rw [bind_of_ok hload]
  exact hends

theorem tells_evaluateRules (hans : s.Answers context) (hrules : s.store.getRules = .ok rules)
    {e : Evaluator} (htype : e.family.ruleType ∈ ruleTypes) {item : Item}
    (hdata : e.family.hasData item context = true) (hs : s.SameTables s') :
    (evaluateRules e item context).Tells s'
      (e.matched item context (Rule.inUse rules e.family.ruleType context) >>= fun found =>
        .ok (if found.isEmpty then none else some (found.map Rule.toPlacement))) := by
  obtain ⟨entries, hload⟩ := tells_tryLoadRules hans hrules htype e.family.name hs
  obtain ⟨entries', heval⟩ := evaluateRules_of_loaded hdata hload
  exact ⟨entries', heval⟩

end Runner

namespace Router

variable {item : Item} {context : Context}

theorem runOne_idle {runner : Runner} {s s₁ : Session}
    (hcan : runner.canEvaluate item context s = (.ok false, s₁)) :
    runOne item context runner s = (.ok [], s₁) := by
  unfold runOne
  rw [tryCatch_apply, bind_of_ok hcan]
  rfl

/-- A runner finds what its evaluation gives; one that goes wrong finds nothing. -/
theorem runOne_ends {runner : Runner} {s s₁ s₂ : Session} {r : Except Failure (Option (List Placement))}
    (hcan : runner.canEvaluate item context s = (.ok true, s₁))
    (heval : runner.evaluate item context s₁ = (r, s₂)) :
    ∃ entries, runOne item context runner s
      = (.ok (r.toOption.join.getD []), { s₂ with journal := entries }) := by
  unfold runOne
  rw [tryCatch_apply, bind_of_ok hcan]
  cases r with
  | error e =>
    simp only [if_true]
    rw [bind_of_error heval]
    exact ⟨_, rfl⟩
  | ok o =>
    simp only [if_true]
    rw [bind_of_ok heval]
    exact ⟨s₂.journal, rfl⟩

/-- What is left of an evaluation of rules is what is found. -/
theorem join_evaluated (matched : Except Failure (List Rule)) :
    (matched >>= fun found => Except.ok
      (if found.isEmpty then none else some (found.map Rule.toPlacement))).toOption.join.getD []
        = (matched.toOption.getD []).map Rule.toPlacement := by
  rcases matched with _ | _ | ⟨r, found⟩ <;> rfl

variable {s s' : Session} {rules : List Rule}

/-- An evaluator finds its rules and does no more than write into the journal. -/
theorem tells_runOne_ofEvaluator (hans : s.Answers context) (hrules : s.store.getRules = .ok rules)
    {e : Evaluator} (htype : e.family.ruleType ∈ ruleTypes) (item : Item) (hs : s.SameTables s') :
    (runOne item context (Runner.ofEvaluator e)).Tells s'
      (.ok ((e.found rules item context).map Rule.toPlacement)) := by
  unfold Evaluator.found
  by_cases hdata : e.family.hasData item context = true
  · have hcan : (Runner.ofEvaluator e).canEvaluate item context
        = Runner.hasRules e.family.name e.family.ruleType context := if_pos hdata
    obtain ⟨entries, hhas⟩ := Runner.tells_hasRules hans hrules htype e.family.name hs
    rw [← hcan] at hhas
    rw [if_pos hdata]
    cases hempty : (Rule.inUse rules e.family.ruleType context).isEmpty with
    | true =>
      rw [hempty] at hhas
      rw [List.isEmpty_iff.1 hempty]
      exact ⟨entries, runOne_idle hhas⟩
    | false =>
      rw [hempty] at hhas
      have hs' := hs.trans (s'.sameRecords_journal entries).toSameTables
      obtain ⟨entries', heval⟩ := Runner.tells_evaluateRules hans hrules htype hdata hs'
      obtain ⟨entries'', hone⟩ := runOne_ends hhas heval
      rw [join_evaluated] at hone
      exact ⟨entries'', hone⟩
  · have hcan : (Runner.ofEvaluator e).canEvaluate item context = pure false := if_neg hdata
    rw [if_neg hdata]
    exact ⟨s'.journal, runOne_idle (by rw [hcan]; rfl)⟩

end Router

end Watchgate
