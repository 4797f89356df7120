import Watchgate.Proofs.Routing.Browsing
import Watchgate.Proofs.Routing.Ranking
import Watchgate.Proofs.Session.Answers

/-!
# What the matching rules decide

`Resolved` says which verdicts follow from a set of matching rules: a rejection if one of them
rejects; otherwise one verdict for each target that can be reached, from the rule that wins there;
and where no rule places the item, the instance that is being synchronised or the default one. The
set of matching rules determines the verdicts. Routing reaches them from whatever list of rules its
runners found, in any order and with repetitions.
-/

namespace Watchgate

open Act

namespace Rule

/-- A match refuses the item. -/
def Rejects (r : Rule) : Prop := r.action = .text "reject"

/-- A match leaves the item to other rules. -/
def Passes (r : Rule) : Prop := r.action = .text "continue"

/-- The target exists with the type that serves the context, and it is in use. -/
def Reaches (store : Store) (context : Context) (r : Rule) : Prop :=
  ∃ i, store.getInstance r.targetId (.text context.targetType) = .ok (some i) ∧ i.enabled = true

/-- A matching rule that places the item at a target that can be reached. -/
def Places (store : Store) (context : Context) (P : Rule → Prop) (r : Rule) : Prop :=
  P r ∧ ¬ r.Passes ∧ r.Reaches store context

/-- The verdict of a rule that wins at its target. Approval is asked for if the rule wants it,
except while synchronising. -/
def verdict (context : Context) (r : Rule) : Verdict :=
  if r.alwaysRequireApproval && !context.syncing then
    .requireApproval {
      reason := r.approvalReason.orElse (.text ("Rule '" ++ r.name.display ++ "' requires approval"))
      triggeredBy := .text
        (match r.approvalTrigger with
          | .text "content_criteria" => "content_criteria"
          | _ => "router_rule")
      facts := [("ruleId", .int r.id), ("ruleName", r.name)]
      proposed := some r.toPlacement }
  else .route r.toPlacement

end Rule

/-- The instance that is being synchronised, if there is one and it is in use. -/
def Store.syncInstance (store : Store) (context : Context) : Option Instance :=
  if context.syncing then
    context.syncTarget.bind fun id =>
      (store.getInstance id (.text context.targetType)).toOption.join.filter Instance.enabled
  else none

/-- Where an item goes that no rule places. -/
def Store.standIn (store : Store) (context : Context) : Option Instance :=
  (store.syncInstance context).or (store.getDefaultInstance context.targetType).toOption.join

open Rule in
/-- The verdicts that follow from the rules that match. -/
inductive Resolved (store : Store) (context : Context) (P : Rule → Prop) : List Verdict → Prop
  | rejected (r : Rule) (hr : P r) (rejects : r.Rejects) : Resolved store context P [.reject]
  | placed (ws : List Rule) (accepted : ∀ r, P r → ¬ r.Rejects) (some_placed : ws ≠ [])
      (ranked : ws.Pairwise Outranks) (winners : ∀ r, r ∈ ws ↔ Wins (Places store context P) r) :
      Resolved store context P (ws.map (verdict context))
  | unplaced (accepted : ∀ r, P r → ¬ r.Rejects) (none_placed : ∀ r, ¬ Places store context P r) :
      Resolved store context P
        ((store.standIn context).toList.map fun i => .route i.defaultPlacement)

namespace Resolved

open Rule

variable {store : Store} {context : Context} {P P' : Rule → Prop} {vs vs' : List Verdict}

/-- The rules that match determine the verdicts. -/
theorem unique (h : Resolved store context P vs) (h' : Resolved store context P vs') : vs = vs' := by
  cases h with
  | rejected r hr hrej =>
    cases h' with
    | rejected => rfl
    | placed _ hacc => exact absurd hrej (hacc r hr)
    | unplaced hacc => exact absurd hrej (hacc r hr)
  | placed ws hacc hne hranked hwins =>
    cases h' with
    | rejected r hr hrej => exact absurd hrej (hacc r hr)
    | placed ws' _ _ hranked' hwins' =>
      rw [eq_of_ranked hranked hranked' fun r => (hwins r).trans (hwins' r).symm]
    | unplaced _ hnone =>
      obtain ⟨w, hw⟩ := List.exists_mem_of_ne_nil ws hne
      exact absurd ((hwins w).1 hw).1 (hnone w)
  | unplaced hacc hnone =>
    cases h' with
    | rejected r hr hrej => exact absurd hrej (hacc r hr)
    | placed ws _ hne _ hwins =>
      obtain ⟨w, hw⟩ := List.exists_mem_of_ne_nil ws hne
      exact absurd ((hwins w).1 hw).1 (hnone w)
    | unplaced => rfl

theorem congr (h : Resolved store context P vs) (hP : ∀ r, P r ↔ P' r) :
    Resolved store context P' vs := by
  obtain rfl : P = P' := funext fun r => propext (hP r)
  exact h

end Resolved

namespace Router

theorem effectOf_some (r : Rule) :
    (effectOf (some r) = .reject ↔ r.Rejects) ∧
      (effectOf (some r) = .pass ↔ r.Passes) ∧
      (effectOf (some r) = .place ↔ ¬ r.Rejects ∧ ¬ r.Passes) := by
  have hone : ∀ w, r.action.isOneOf [w] = true ↔ r.action = .text w := by
    intro w
    cases r.action <;> simp [Value.isOneOf]
  have hnot : r.action.isOneOf ["reject"] = true → r.action.isOneOf ["continue"] = false := by
    intro hrej
    rw [(hone _).1 hrej]
    rfl
  unfold effectOf Rule.Rejects Rule.Passes
  simp only [← hone]
  by_cases hrej : r.action.isOneOf ["reject"] = true
  · simp [hrej, hnot hrej]
  · by_cases hpass : r.action.isOneOf ["continue"] = true <;> simp [hrej, hpass]

theorem ruleOf?_toPlacement {rules : List Rule} (hids : ∀ a ∈ rules, ∀ b ∈ rules, a.id = b.id → a = b)
    {r : Rule} (hr : r ∈ rules) : ruleOf? rules r.toPlacement = some r := by
  have hagrees : ∀ rule : Rule, r.toPlacement.ruleId.agrees (.int rule.id) = decide (r.id = rule.id) := by
    intro rule
    simp [Rule.toPlacement, Value.agrees, Value.compareNumbers?, Value.wholeNumber?]
  unfold ruleOf?
  cases hfind : rules.find? fun rule => r.toPlacement.ruleId.agrees (.int rule.id) with
  | none =>
    have := List.find?_eq_none.1 hfind r hr
    simp [hagrees] at this
  | some rule =>
    have hrule := List.mem_of_find?_eq_some hfind
    have hid : r.id = rule.id := by simpa [hagrees] using List.find?_some hfind
    rw [hids rule hrule r hr hid.symm]

theorem typed_toPlacement {r : Rule} {context : Context}
    (h : r.isActiveFor context.targetType = true) : typed context r.toPlacement = r.toPlacement := by
  have htype : r.targetType.isNull = false := by
    simp only [Rule.isActiveFor, Bool.and_eq_true] at h
    cases ht : r.targetType <;> simp_all [Value.isOneOf, Value.isNull]
  have hnull : r.toPlacement.instanceType.isNull = false := htype
  simp [typed, hnull]

theorem verdictFor_toPlacement (context : Context) (r : Rule) :
    verdictFor (some r) context r.toPlacement = r.verdict context := by
  have htrigger : (if r.approvalTrigger.isOneOf ["content_criteria"] then "content_criteria"
      else "router_rule") = match r.approvalTrigger with
        | .text "content_criteria" => "content_criteria"
        | _ => "router_rule" := by
    cases r.approvalTrigger with
    | text s => by_cases hs : s = "content_criteria" <;> simp [Value.isOneOf, hs]
    | _ => rfl
  unfold verdictFor Rule.verdict
  rw [← htrigger]
  cases happroval : r.alwaysRequireApproval <;> cases hsync : context.syncing <;>
    simp [happroval]

variable {context : Context} {s : Session}

theorem isValidTarget_gives {p : Placement} {found : Option Instance}
    (h : getInstance p.instanceId (.text context.targetType) s = (.ok found, s))
    {s' : Session} (hs : s.SameTables s') :
    (isValidTarget context p).Gives s' (found.any Instance.enabled) := by
  refine (gives_read h hs).bind fun s₁ _ => ?_
  cases hf : found.any Instance.enabled with
  | true => exact gives_pure _ _
  | false => exact (gives_note _ _ _).bind fun s₂ _ => gives_pure _ _

/-- What sifting the placements of rules gives: nothing if one of the rules rejects, otherwise the
placements of those that place the item. -/
inductive Sifted (store : Store) (context : Context) (fs : List Rule) :
    Option (List Placement) → Prop
  | rejected (r : Rule) (hr : r ∈ fs) (rejects : r.Rejects) : Sifted store context fs none
  | kept (ps : List Rule) (accepted : ∀ r ∈ fs, ¬ r.Rejects)
      (mem : ∀ r, r ∈ ps ↔ r.Places store context (· ∈ fs)) :
      Sifted store context fs (some (ps.map Rule.toPlacement))

theorem Sifted.pass {store : Store} {r : Rule} {fs : List Rule} {o : Option (List Placement)}
    (h : Sifted store context fs o) (hpass : r.Passes) : Sifted store context (r :: fs) o := by
  cases h with
  | rejected x hx hrej => exact .rejected x (.tail _ hx) hrej
  | kept ps hacc hmem =>
    refine .kept ps (fun x hx => ?_) fun x => (hmem x).trans ?_
    · rcases List.mem_cons.1 hx with rfl | hx
      · intro hrej
        rw [Rule.Rejects, hpass] at hrej
        simp at hrej
      · exact hacc x hx
    · constructor
      · rintro ⟨hx, hrest⟩
        exact ⟨.tail _ hx, hrest⟩
      · rintro ⟨hx, hnot, hreach⟩
        rcases List.mem_cons.1 hx with rfl | hx
        · exact absurd hpass hnot
        · exact ⟨hx, hnot, hreach⟩

theorem Sifted.place {r : Rule} {fs : List Rule} {o : Option (List Placement)}
    {found : Option Instance} (h : Sifted s.store context fs o)
    (hrej : ¬ r.Rejects) (hpass : ¬ r.Passes)
    (hfound : s.store.getInstance r.targetId (.text context.targetType) = .ok found) :
    Sifted s.store context (r :: fs)
      (if found.any Instance.enabled then o.map (r.toPlacement :: ·) else o) := by
  have hreach : r.Reaches s.store context ↔ found.any Instance.enabled = true := by
    unfold Rule.Reaches
    rw [hfound]
    cases found <;> simp
  cases h with
  | rejected x hx hx' =>
    have : (if found.any Instance.enabled then
        (none : Option (List Placement)).map (r.toPlacement :: ·) else none) = none := by
      split <;> rfl
    rw [this]
    exact .rejected x (.tail _ hx) hx'
  | kept ps hacc hmem =>
    have hacc' : ∀ x ∈ r :: fs, ¬ x.Rejects := by
      intro x hx
      rcases List.mem_cons.1 hx with rfl | hx
      · exact hrej
      · exact hacc x hx
    by_cases hf : found.any Instance.enabled = true
    · rw [if_pos hf]
      refine .kept (r :: ps) hacc' fun x => ?_
      rw [List.mem_cons, hmem]
      simp only [Rule.Places, List.mem_cons]
      constructor
      · rintro (rfl | ⟨hx, hrest⟩)
        · exact ⟨.inl rfl, hpass, hreach.2 hf⟩
        · exact ⟨.inr hx, hrest⟩
      · rintro ⟨rfl | hx, hrest⟩
        · exact .inl rfl
        · exact .inr ⟨hx, hrest⟩
    · rw [if_neg hf]
      refine .kept ps hacc' fun x => (hmem x).trans ?_
      simp only [Rule.Places, List.mem_cons]
      constructor
      · rintro ⟨hx, hrest⟩
        exact ⟨.inr hx, hrest⟩
      · rintro ⟨rfl | hx, hnot, hr⟩
        · exact absurd (hreach.1 hr) hf
        · exact ⟨hx, hnot, hr⟩

theorem sift_gives {rules : List Rule} (hids : ∀ a ∈ rules, ∀ b ∈ rules, a.id = b.id → a = b)
    (item : Item) {fs : List Rule}
    (hfs : ∀ r ∈ fs, r ∈ rules ∧ r.isActiveFor context.targetType = true)
    (hread : ∀ r ∈ fs, ∃ i, getInstance r.targetId (.text context.targetType) s = (.ok i, s)) :
    ∃ o, Sifted s.store context fs o ∧ ∀ s', s.SameTables s' →
      (sift rules item context (fs.map Rule.toPlacement)).Gives s' o := by
  induction fs with
  | nil => exact ⟨some [], .kept [] (by simp) (by simp [Rule.Places]), fun s' _ => gives_pure _ s'⟩
  | cons r fs ih =>
    obtain ⟨hr, hactive⟩ := hfs r List.mem_cons_self
    obtain ⟨found, hfound⟩ := hread r List.mem_cons_self
    obtain ⟨o, ho, hgives⟩ := ih (fun x hx => hfs x (.tail _ hx)) fun x hx => hread x (.tail _ hx)
    rw [List.map_cons, sift, ruleOf?_toPlacement hids hr, typed_toPlacement hactive]
    obtain ⟨hrej, hpass, hplace⟩ := effectOf_some r
    cases heffect : effectOf (some r) with
    | reject =>
      refine ⟨none, .rejected r List.mem_cons_self (hrej.1 heffect), fun s' _ => ?_⟩
      exact (gives_note _ _ _).bind fun s₁ _ => gives_pure _ _
    | pass =>
      refine ⟨o, ho.pass (hpass.1 heffect), fun s' hs => ?_⟩
      exact (gives_note _ _ _).bind fun s₁ hs₁ => hgives s₁ (hs.trans hs₁.toSameTables)
    | place =>
      obtain ⟨hnrej, hnpass⟩ := hplace.1 heffect
      refine ⟨_, ho.place hnrej hnpass (read_returns hfound).1, fun s' hs => ?_⟩
      refine (isValidTarget_gives hfound hs).bind fun s₁ hs₁ => ?_
      exact (hgives s₁ (hs.trans hs₁.toSameTables)).bind fun s₂ _ => gives_pure _ s₂

/-! ## Where an item goes that no rule places -/

theorem useDefault_gives (h : ∃ i, getDefaultInstance context.targetType s = (.ok i, s))
    {s' : Session} (hs : s.SameTables s') :
    (useDefault context).Gives s'
      ((s.store.getDefaultInstance context.targetType).toOption.join.toList.map
        fun i => .route i.defaultPlacement) := by
  obtain ⟨found, hfound⟩ := h
  have hstore : s.store.getDefaultInstance context.targetType = .ok found := (read_returns hfound).1
  rw [hstore]
  refine (gives_read hfound hs).bind fun s₁ _ => ?_
  cases found with
  | none => exact (gives_note _ _ _).bind fun s₂ _ => gives_pure _ _
  | some i => exact (gives_note _ _ _).bind fun s₂ _ => gives_pure _ _

theorem fallback_gives (h : s.Answers context) {s' : Session} (hs : s.SameTables s') :
    (fallback context).Gives s'
      ((s.store.standIn context).toList.map fun i => .route i.defaultPlacement) := by
  have hstandard : ∀ {s₁}, s.SameTables s₁ → s.store.syncInstance context = none →
      (useDefault context).Gives s₁
        ((s.store.standIn context).toList.map fun i => .route i.defaultPlacement) := by
    intro s₁ hs₁ hnone
    rw [Store.standIn, hnone, Option.none_or]
    exact useDefault_gives h.standard hs₁
  have hmissing : ∀ {target s₁}, s.SameTables s₁ → s.store.syncInstance context = none →
      (fallback.missing context target).Gives s₁
        ((s.store.standIn context).toList.map fun i => .route i.defaultPlacement) :=
    fun hs₁ hnone => (gives_note _ _ _).bind fun s₂ hs₂ =>
      hstandard (hs₁.trans hs₂.toSameTables) hnone
  unfold fallback
  cases hsync : context.syncing with
  | false => exact hstandard hs (by simp [Store.syncInstance, hsync])
  | true =>
    cases htarget : context.syncTarget with
    | none => exact hstandard hs (by simp [Store.syncInstance, hsync, htarget])
    | some target =>
      obtain ⟨found, hfound⟩ := h.syncTarget target htarget
      have hstore := (read_returns hfound).1
      have hinstance : s.store.syncInstance context = found.filter Instance.enabled := by
        simp [Store.syncInstance, hsync, htarget, hstore, Except.toOption]
      refine (gives_read hfound hs).bind fun s₁ hs₁ => ?_
      have hs₁ := hs.trans hs₁.toSameTables
      cases found with
      | none => exact hmissing hs₁ hinstance
      | some i =>
        cases henabled : i.enabled with
        | false =>
          simp only [henabled, Bool.false_eq_true, if_false]
          exact hmissing hs₁ (by simp [hinstance, Option.filter, henabled])
        | true =>
          simp only [henabled, if_true]
          rw [Store.standIn, hinstance]
          simp only [Option.filter, henabled, if_true, Option.some_or]
          exact (gives_note _ _ _).bind fun s₂ _ => gives_pure _ _

/-! ## From what was found to the verdicts -/

/-- What follows the search of the runners. -/
def settle (rules : List Rule) (item : Item) (context : Context) (found : List Placement) :
    Act (List Verdict) := do
  match ← sift rules item context found with
  | none => return [.reject]
  | some placements =>
    let selected ← Act.ofResult (Placement.select placements)
    if selected.isEmpty then fallback context
    else do
      selected.forM (noteRouting item context)
      return selected.map fun p => verdictFor (ruleOf? rules p) context p

theorem judge_eq (r : Router) (rules active : List Rule) (item : Item) (context : Context) :
    r.judge rules active item context = (do
      let item ← r.complete active item context
      let found ← r.collect item context
      settle rules item context found) := rfl

/-- Whatever list of rules was found, the verdicts follow from which rules are in it. -/
theorem settle_gives {rules : List Rule} (hids : ∀ a ∈ rules, ∀ b ∈ rules, a.id = b.id → a = b)
    (item : Item) {fs : List Rule}
    (hfs : ∀ r ∈ fs, r ∈ rules ∧ r.isActiveFor context.targetType = true)
    (hread : ∀ r ∈ fs, ∃ i, getInstance r.targetId (.text context.targetType) s = (.ok i, s))
    (hans : s.Answers context) {s' : Session} (hs : s.SameTables s') :
    ∃ vs, (settle rules item context (fs.map Rule.toPlacement)).Gives s' vs ∧
      Resolved s.store context (· ∈ fs) vs := by
  obtain ⟨o, ho, hsift⟩ := sift_gives hids item hfs hread
  cases ho with
  | rejected r hr hrej =>
    exact ⟨[.reject], (hsift s' hs).bind fun s₁ _ => gives_pure _ _, .rejected r hr hrej⟩
  | kept ps hacc hmem =>
    have hps : ∀ r ∈ ps, r ∈ rules := fun r hr => (hfs r ((hmem r).1 hr).1).1
    obtain ⟨ws, hselect, hranked, hwins⟩ := Placement.select_toPlacement
      fun a ha b hb => hids a (hps a ha) b (hps b hb)
    have hwins' : ∀ r, r ∈ ws ↔ Rule.Wins (Rule.Places s.store context (· ∈ fs)) r := by
      intro r
      rw [hwins r]
      unfold Rule.Wins
      simp only [hmem]
    cases ws with
    | nil =>
      refine ⟨_, ?_, .unplaced hacc fun r hr => ?_⟩
      · refine (hsift s' hs).bind fun s₁ hs₁ => (gives_ofResult hselect s₁).bind fun s₂ hs₂ => ?_
        exact fallback_gives hans ((hs.trans hs₁.toSameTables).trans hs₂.toSameTables)
      · -- a rule that places the item would have a winner at its target
        have hr' : r ∈ ps := (hmem r).2 hr
        obtain ⟨w, hw⟩ := Placement.exists_winner hr' fun a ha b hb => hids a (hps a ha) b (hps b hb)
        exact absurd ((hwins w).2 hw) (by simp)
    | cons w ws =>
      refine ⟨_, ?_, .placed (w :: ws) hacc (by simp) hranked hwins'⟩
      refine (hsift s' hs).bind fun s₁ _ => (gives_ofResult hselect s₁).bind fun s₂ _ => ?_
      refine (gives_forM (fun _ _ => gives_note _ _ _) _ s₂).bind fun s₃ _ => ?_
      have hverdicts : ((w :: ws).map Rule.toPlacement).map
          (fun p => verdictFor (ruleOf? rules p) context p) = (w :: ws).map (Rule.verdict context) := by
        rw [List.map_map]
        refine List.map_congr_left fun x hx => ?_
        have hx' := hps x ((hwins x).1 hx).1
        rw [Function.comp_apply, ruleOf?_toPlacement hids hx', verdictFor_toPlacement]
      rw [← hverdicts]
      exact gives_pure _ _

end Router

end Watchgate
