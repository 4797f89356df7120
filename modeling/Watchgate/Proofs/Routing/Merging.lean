import Watchgate.Routing.Selection
import Mathlib

/-!
# Selection as a merge

The placements that selection is given may come in any order, several of them for one instance. Each
has a rank: its priority, from the highest, and then its rule id, from the lowest, where a placement
without a rule stands behind those with one. Selection keeps for each instance the earliest
placement of the lowest rank and lists what it keeps by rank and instance. So it is settled by the
ranks alone once no two placements for an instance share theirs.
-/

namespace Watchgate.Placement

/-- The rule id is a whole number, or there is none. -/
def Numbered (p : Placement) : Prop := p.ruleId = .null ∨ p.ruleId.wholeNumber?.isSome

/-- The place of the rule among all rules. -/
def ruleOrder (p : Placement) : WithTop ℤ :=
  match p.ruleId.wholeNumber? with
  | some n => n
  | none => ⊤

/-- Higher priorities and lower rule ids come first. -/
def rank (p : Placement) : ℤ ×ₗ WithTop ℤ := toLex (-p.priority, p.ruleOrder)

/-- The place of a placement in a listing. -/
def standing (p : Placement) : (ℤ ×ₗ WithTop ℤ) ×ₗ ℤ := toLex (p.rank, p.instanceId)

/-- Values that compare as numbers agree and are ordered by that comparison. -/
theorem agrees_and_order_of_compareNumbers {a b : Value} {o : Ordering}
    (h : a.compareNumbers? b = some (some o)) :
    a.agrees b = decide (o = .eq) ∧ Value.order? a b = some (some o) := by
  cases a <;> cases b <;>
    simp_all [Value.agrees, Value.order?, Value.compareNumbers?, Value.wholeNumber?] <;>
    obtain ⟨o', ho', rfl⟩ := h <;> cases o' <;> simp [ho']

theorem wholeNumber_ruleRank (p : Placement) :
    p.ruleRank.wholeNumber? = p.ruleId.wholeNumber? := by
  unfold ruleRank
  split
  · rename_i h
    rw [h]
    rfl
  · rfl

theorem compareNumbers_ruleRank {p q : Placement} (hp : p.Numbered) (hq : q.Numbered) :
    p.ruleRank.compareNumbers? q.ruleRank = some (some (cmp p.ruleOrder q.ruleOrder)) := by
  have hnone : ∀ {p : Placement}, p.Numbered → p.ruleId.wholeNumber? = none →
      p.ruleRank = .real (.infinite false) := by
    intro p hp h
    have hnull : p.ruleId = .null := hp.resolve_right (by simp [h])
    rw [ruleRank, hnull]
  have hp' := wholeNumber_ruleRank p
  have hq' := wholeNumber_ruleRank q
  unfold ruleOrder
  cases hm : p.ruleId.wholeNumber? with
  | some m =>
    cases hn : q.ruleId.wholeNumber? with
    | some n =>
      have hcmp : cmp (m : WithTop ℤ) n = compare m n := by
        rw [← cmp_eq_compare]
        simp [cmp, cmpUsing]
      simp only [Value.compareNumbers?, hp'.trans hm, hq'.trans hn, hcmp]
    | none =>
      have hcmp : cmp (m : WithTop ℤ) ⊤ = .lt := (cmp_eq_lt_iff _ _).2 (WithTop.coe_lt_top m)
      simp only [Value.compareNumbers?, hp'.trans hm, hnone hq hn, hcmp]
      rfl
  | none =>
    cases hn : q.ruleId.wholeNumber? with
    | some n =>
      have hcmp : cmp (⊤ : WithTop ℤ) n = .gt := (cmp_eq_gt_iff _ _).2 (WithTop.coe_lt_top n)
      simp only [Value.compareNumbers?, hq'.trans hn, hnone hp hm, hcmp]
      rfl
    | none =>
      rw [hnone hp hm, hnone hq hn]
      rfl

theorem compareRules_eq {p q : Placement} (hp : p.Numbered) (hq : q.Numbered) :
    compareRules p q = .ok (cmp p.ruleOrder q.ruleOrder) := by
  obtain ⟨hagrees, horder⟩ :=
    agrees_and_order_of_compareNumbers (compareNumbers_ruleRank hp hq)
  unfold compareRules
  rw [hagrees, horder]
  by_cases h : cmp p.ruleOrder q.ruleOrder = .eq <;> simp [h]

theorem compareRank_eq {p q : Placement} (hp : p.Numbered) (hq : q.Numbered) :
    compareRank p q = .ok (cmp p.rank q.rank) := by
  unfold compareRank rank
  by_cases h : p.priority = q.priority
  · rw [if_pos h, compareRules_eq hp hq]
    simp [cmp, cmpUsing, Prod.Lex.toLex_lt_toLex, h]
  · rw [if_neg h]
    by_cases hlt : q.priority < p.priority
    · rw [if_pos hlt, (cmp_eq_lt_iff _ _).2]
      exact Prod.Lex.toLex_lt_toLex.2 (.inl (by show -p.priority < -q.priority; omega))
    · rw [if_neg hlt, (cmp_eq_gt_iff _ _).2]
      exact Prod.Lex.toLex_lt_toLex.2 (.inl (by show -q.priority < -p.priority; omega))

theorem compareListed_eq {p q : Placement} (hp : p.Numbered) (hq : q.Numbered) :
    compareListed p q = .ok (cmp p.standing q.standing) := by
  unfold compareListed standing
  rw [compareRank_eq hp hq]
  rcases lt_trichotomy p.rank q.rank with h | h | h
  · rw [(cmp_eq_lt_iff _ _).2 h, (cmp_eq_lt_iff _ _).2 (Prod.Lex.toLex_lt_toLex.2 (.inl h))]
    rfl
  · rw [(cmp_eq_eq_iff _ _).2 h]
    show Except.ok (compare p.instanceId q.instanceId) = _
    rw [← cmp_eq_compare]
    simp [cmp, cmpUsing, Prod.Lex.toLex_lt_toLex, h]
  · rw [(cmp_eq_gt_iff _ _).2 h, (cmp_eq_gt_iff _ _).2 (Prod.Lex.toLex_lt_toLex.2 (.inl h))]
    rfl

/-! ## The best placement for each instance -/

/-- The earliest placement of the lowest rank among those for its instance. -/
def FirstBest (ps : List Placement) (p : Placement) : Prop :=
  ∃ before after, ps = before ++ p :: after ∧
    (∀ q ∈ before, q.instanceId = p.instanceId → p.rank < q.rank) ∧
    ∀ q ∈ after, q.instanceId = p.instanceId → p.rank ≤ q.rank

theorem FirstBest.mem {ps : List Placement} {p : Placement} (h : FirstBest ps p) : p ∈ ps := by
  obtain ⟨before, after, rfl, -, -⟩ := h
  simp

theorem FirstBest.le {ps : List Placement} {p q : Placement} (h : FirstBest ps p) (hq : q ∈ ps)
    (hi : q.instanceId = p.instanceId) : p.rank ≤ q.rank := by
  obtain ⟨before, after, rfl, hbefore, hafter⟩ := h
  rcases List.mem_append.1 hq with hq | hq
  · exact (hbefore q hq hi).le
  · rcases List.mem_cons.1 hq with rfl | hq
    · exact le_rfl
    · exact hafter q hq hi

/-- A further placement is the best one where it outranks all before it; else nothing changes. -/
theorem firstBest_concat {ps : List Placement} {a p : Placement} :
    FirstBest (ps ++ [a]) p ↔
      FirstBest ps p ∧ (a.instanceId = p.instanceId → p.rank ≤ a.rank) ∨
        p = a ∧ ∀ q ∈ ps, q.instanceId = a.instanceId → a.rank < q.rank := by
  constructor
  · rintro ⟨before, after, heq, hbefore, hafter⟩
    rcases List.eq_nil_or_concat after with rfl | ⟨after, b, rfl⟩
    · obtain ⟨rfl, hlast⟩ := List.append_inj' heq rfl
      obtain rfl : a = p := by simpa using hlast
      exact .inr ⟨rfl, hbefore⟩
    · rw [List.concat_eq_append, ← List.cons_append, ← List.append_assoc] at heq
      obtain ⟨rfl, hlast⟩ := List.append_inj' heq rfl
      obtain rfl : a = b := by simpa using hlast
      exact .inl ⟨⟨before, after, rfl, hbefore, fun q hq => hafter q (by simp [hq])⟩,
        hafter a (by simp)⟩
  · rintro (⟨⟨before, after, rfl, hbefore, hafter⟩, ha⟩ | ⟨rfl, hbefore⟩)
    · refine ⟨before, after ++ [a], by simp, hbefore, fun q hq => ?_⟩
      rcases List.mem_append.1 hq with hq | hq
      · exact hafter q hq
      · obtain rfl : q = a := by simpa using hq
        exact ha
    · exact ⟨ps, [], rfl, hbefore, by simp⟩

/-- Where the ranks for an instance differ, the order in which the placements come does not matter. -/
theorem firstBest_iff_of_distinct {ps : List Placement} {p : Placement}
    (h : ps.Pairwise fun p q => p.instanceId = q.instanceId → p.rank ≠ q.rank) :
    FirstBest ps p ↔ p ∈ ps ∧ ∀ q ∈ ps, q.instanceId = p.instanceId → p.rank ≤ q.rank := by
  constructor
  · exact fun hp => ⟨hp.mem, fun q => hp.le⟩
  · rintro ⟨hp, hle⟩
    obtain ⟨before, after, rfl⟩ := List.append_of_mem hp
    obtain ⟨-, -, hbefore⟩ := List.pairwise_append.1 h
    refine ⟨before, after, rfl, fun q hq hi => ?_, fun q hq => hle q (by simp [hq])⟩
    exact lt_of_le_of_ne (hle q (by simp [hq]) hi) (hbefore q hq p (by simp) hi).symm

/-- Takes up a placement in place of one that it outranks, or as the first for its instance. -/
def keep (a : Placement) : List Placement → List Placement
  | [] => [a]
  | q :: qs =>
    if q.instanceId = a.instanceId then (if a.rank < q.rank then a else q) :: qs
    else q :: keep a qs

theorem keepBetter_eq {a : Placement} {ks : List Placement} (ha : a.Numbered)
    (hks : ∀ q ∈ ks, q.Numbered) : keepBetter a ks = .ok (keep a ks) := by
  induction ks with
  | nil => rfl
  | cons q qs ih =>
    rw [keepBetter, compareRank_eq ha (hks q (by simp)), ih fun x hx => hks x (by simp [hx]), keep]
    by_cases hi : q.instanceId = a.instanceId
    · by_cases hlt : a.rank < q.rank
      · simp [hi, hlt, (cmp_eq_lt_iff _ _).2 hlt, Except.map]
      · simp [hi, hlt, cmp_eq_lt_iff, Except.map]
    · simp [hi, Except.map]

theorem instances_keep (a : Placement) (ks : List Placement) :
    (keep a ks).map instanceId = if a.instanceId ∈ ks.map instanceId then ks.map instanceId
      else ks.map instanceId ++ [a.instanceId] := by
  induction ks with
  | nil => simp [keep]
  | cons q qs ih =>
    rw [keep]
    by_cases hi : q.instanceId = a.instanceId
    · by_cases hlt : a.rank < q.rank <;> simp [hi, hlt]
    · rw [if_neg hi, List.map_cons, ih]
      by_cases hm : a.instanceId ∈ qs.map instanceId
      · simp [hm]
      · simp [hm, Ne.symm hi]

theorem mem_keep {a : Placement} {ks : List Placement} (hks : (ks.map instanceId).Nodup)
    (p : Placement) :
    p ∈ keep a ks ↔ p ∈ ks ∧ (a.instanceId = p.instanceId → p.rank ≤ a.rank) ∨
      p = a ∧ ∀ q ∈ ks, q.instanceId = a.instanceId → a.rank < q.rank := by
  induction ks with
  | nil => simp [keep]
  | cons q qs ih =>
    obtain ⟨hq, hqs⟩ := List.nodup_cons.1 (List.map_cons ▸ hks)
    have hother : ∀ p ∈ qs, p.instanceId ≠ q.instanceId := fun p hp heq =>
      hq (heq ▸ List.mem_map_of_mem hp)
    rw [keep]
    by_cases hi : q.instanceId = a.instanceId
    · have hrest : ∀ p ∈ qs, p.instanceId ≠ a.instanceId := fun p hp => hi ▸ hother p hp
      by_cases hlt : a.rank < q.rank
      · simp only [hi, hlt, if_true, List.mem_cons]
        grind
      · simp only [hi, hlt, if_true, if_false, List.mem_cons]
        grind
    · rw [if_neg hi, List.mem_cons, ih hqs]
      simp only [List.mem_cons]
      grind

/-- What has been kept of the placements seen so far: one for each instance, the best one. -/
structure Kept (seen kept : List Placement) : Prop where
  nodup : (kept.map instanceId).Nodup
  covers : ∀ p ∈ seen, p.instanceId ∈ kept.map instanceId
  mem : ∀ p, p ∈ kept ↔ FirstBest seen p

theorem Kept.step {seen kept : List Placement} (h : Kept seen kept) (a : Placement) :
    Kept (seen ++ [a]) (keep a kept) := by
  constructor
  · rw [instances_keep]
    split
    · exact h.nodup
    · rename_i hnew
      exact h.nodup.append (List.nodup_singleton _) (by simpa using hnew)
  · intro p hp
    rw [instances_keep]
    rcases List.mem_append.1 hp with hp | hp
    · have := h.covers p hp
      split <;> simp_all
    · obtain rfl : p = a := by simpa using hp
      split <;> simp_all
  · intro p
    -- all placements seen for the instance are outranked once the one that was kept for it is
    have hbeats : (∀ q ∈ kept, q.instanceId = a.instanceId → a.rank < q.rank) ↔
        ∀ q ∈ seen, q.instanceId = a.instanceId → a.rank < q.rank := by
      constructor
      · intro hall q hq hi
        obtain ⟨k, hk, hki⟩ := List.mem_map.1 (h.covers q hq)
        exact (hall k hk (hki.trans hi)).trans_le (((h.mem k).1 hk).le hq hki.symm)
      · exact fun hall q hq => hall q ((h.mem q).1 hq).mem
    rw [mem_keep h.nodup, firstBest_concat, h.mem, hbeats]

theorem bestPerInstance_eq {ps : List Placement} (hps : ∀ p ∈ ps, p.Numbered) :
    ∃ kept, bestPerInstance ps = .ok kept ∧ Kept ps kept := by
  -- the placements before the point reached are `seen`, and those kept of them are `kept`
  have hfold : ∀ (todo seen kept : List Placement), (∀ p ∈ seen ++ todo, p.Numbered) →
      Kept seen kept → ∃ kept', todo.foldlM (fun kept p => keepBetter p kept) kept = .ok kept' ∧
        Kept (seen ++ todo) kept' := by
    intro todo
    induction todo with
    | nil => exact fun seen kept _ h => ⟨kept, rfl, by simpa using h⟩
    | cons a todo ih =>
      intro seen kept hall h
      have hkept : ∀ q ∈ kept, q.Numbered := fun q hq =>
        hall q (List.mem_append_left _ ((h.mem q).1 hq).mem)
      obtain ⟨kept', hrun, hkept'⟩ := ih (seen ++ [a]) (keep a kept) (by simpa using hall) (h.step a)
      refine ⟨kept', ?_, by simpa using hkept'⟩
      rw [List.foldlM_cons, keepBetter_eq (hall a (by simp)) hkept]
      exact hrun
  have hnone : Kept [] [] := by
    constructor
    · exact List.nodup_nil
    · simp
    · simp [FirstBest]
  simpa [bestPerInstance] using hfold ps [] [] (by simpa using hps) hnone

/-! ## Listing -/

theorem insertListed_eq {a : Placement} {ls : List Placement} (ha : a.Numbered)
    (hls : ∀ q ∈ ls, q.Numbered) (hnew : a.instanceId ∉ ls.map instanceId) :
    insertListed a ls = .ok (ls.orderedInsert (standing · ≤ standing ·) a) := by
  induction ls with
  | nil => rfl
  | cons q qs ih =>
    obtain ⟨hq, hqs⟩ := not_or.1 (mt List.mem_cons.2 (List.map_cons ▸ hnew))
    have hne : a.standing ≠ q.standing := fun h => hq (congrArg (fun l => (ofLex l).2) h)
    rw [insertListed, compareListed_eq ha (hls q (by simp)), ih (fun x hx => hls x (by simp [hx])) hqs]
    rcases lt_or_gt_of_ne hne with hlt | hgt
    · rw [(cmp_eq_lt_iff _ _).2 hlt, List.orderedInsert_cons_of_le (standing · ≤ standing ·) _ hlt.le]
      rfl
    · rw [(cmp_eq_gt_iff _ _).2 hgt, List.orderedInsert_of_not_le (standing · ≤ standing ·) _ hgt.not_ge]
      rfl

theorem sortListed_eq {ks : List Placement} (hks : ∀ p ∈ ks, p.Numbered)
    (hnodup : (ks.map instanceId).Nodup) :
    ∃ ls, sortListed ks = .ok ls ∧ ls.Perm ks ∧ ls.Pairwise (standing · ≤ standing ·) := by
  have hfold : ∀ (todo sorted : List Placement), (∀ p ∈ todo ++ sorted, p.Numbered) →
      ((todo ++ sorted).map instanceId).Nodup → sorted.Pairwise (standing · ≤ standing ·) →
      ∃ ls, todo.foldlM (fun sorted p => insertListed p sorted) sorted = .ok ls ∧
        ls.Perm (todo ++ sorted) ∧ ls.Pairwise (standing · ≤ standing ·) := by
    intro todo
    induction todo with
    | nil => exact fun sorted _ _ h => ⟨sorted, rfl, .refl _, h⟩
    | cons a todo ih =>
      intro sorted hall hnodup h
      have hperm : (todo ++ sorted.orderedInsert (standing · ≤ standing ·) a).Perm
          (a :: todo ++ sorted) :=
        ((List.perm_orderedInsert _ a sorted).append_left todo).trans List.perm_middle
      have hnew : a.instanceId ∉ sorted.map instanceId := by
        rw [List.cons_append, List.map_cons, List.nodup_cons] at hnodup
        intro hmem
        apply hnodup.1
        rw [List.map_append]
        exact List.mem_append_right _ hmem
      obtain ⟨ls, hrun, hls, hsorted⟩ := ih _ (fun p hp => hall p (hperm.mem_iff.1 hp))
        ((hperm.map instanceId).nodup_iff.2 hnodup) (List.Pairwise.orderedInsert a _ h)
      refine ⟨ls, ?_, hls.trans hperm, hsorted⟩
      rw [List.foldlM_cons, insertListed_eq (hall a (by simp)) (fun q hq => hall q (by simp [hq])) hnew]
      exact hrun
  simpa [sortListed] using hfold ks [] (by simpa using hks) (by simpa using hnodup) .nil

/-- Selection keeps the best placement for each instance, in the order of their standing. -/
theorem select_eq_firstBest {ps : List Placement} (hps : ∀ p ∈ ps, p.Numbered) :
    ∃ out, select ps = .ok out ∧ Kept ps out ∧ out.Pairwise (standing · < standing ·) := by
  obtain ⟨kept, hbest, hkept⟩ := bestPerInstance_eq hps
  obtain ⟨out, hsort, hperm, hsorted⟩ :=
    sortListed_eq (fun p hp => hps p ((hkept.mem p).1 hp).mem) hkept.nodup
  have hnodup : (out.map instanceId).Nodup := (hperm.map instanceId).nodup_iff.2 hkept.nodup
  refine ⟨out, ?_, ⟨hnodup, fun p hp => ?_, fun p => hperm.mem_iff.trans (hkept.mem p)⟩, ?_⟩
  · unfold select
    rw [hbest]
    exact hsort
  · exact (hperm.map instanceId).mem_iff.2 (hkept.covers p hp)
  · -- two placements of one standing would be for one instance
    refine hsorted.imp₂ (fun p q hle hne => lt_of_le_of_ne hle fun h => hne ?_)
      (List.pairwise_map.1 hnodup)
    exact congrArg (fun l => (ofLex l).2) h

/-- A listing by standing is settled by what is listed. -/
theorem eq_of_listed {out out' : List Placement} (h : out.Pairwise (standing · < standing ·))
    (h' : out'.Pairwise (standing · < standing ·)) (hmem : ∀ p, p ∈ out ↔ p ∈ out') : out = out' := by
  have hnodup : ∀ {l : List Placement}, l.Pairwise (standing · < standing ·) → l.Nodup :=
    fun hl => hl.imp fun {p q} hlt heq => hlt.ne (congrArg standing heq)
  have hperm : out.Perm out' := (List.perm_ext_iff_of_nodup (hnodup h) (hnodup h')).2 hmem
  exact hperm.eq_of_pairwise (fun p q _ _ hpq hqp => absurd hqp hpq.asymm) h h'

theorem select_eq_of_firstBest {ps out : List Placement} (hps : ∀ p ∈ ps, p.Numbered)
    (hout : out.Pairwise (standing · < standing ·)) (hmem : ∀ p, p ∈ out ↔ FirstBest ps p) :
    select ps = .ok out := by
  obtain ⟨out', hselect, hkept, hsorted⟩ := select_eq_firstBest hps
  rw [hselect, eq_of_listed hsorted hout fun p => (hkept.mem p).trans (hmem p).symm]

/-- Selection gives one placement for each instance that it is given, the earliest of those of the
lowest rank for it, in the order of rank and instance. What it gives it gives again, and it does not
look at the order of placements that differ in rank wherever they share the instance. -/
theorem select_merges {ps : List Placement} (hps : ∀ p ∈ ps, p.Numbered) :
    ∃ out, select ps = .ok out ∧
      (out.map instanceId).Nodup ∧ (∀ i, i ∈ out.map instanceId ↔ i ∈ ps.map instanceId) ∧
      (∀ p ∈ out, FirstBest ps p) ∧ out.Pairwise (standing · < standing ·) ∧
      select out = .ok out ∧
      ((ps.Pairwise fun p q => p.instanceId = q.instanceId → p.rank ≠ q.rank) →
        ∀ ps', ps'.Perm ps → select ps' = .ok out) := by
  obtain ⟨out, hselect, hkept, hsorted⟩ := select_eq_firstBest hps
  refine ⟨out, hselect, hkept.nodup, fun i => ?_, fun p => (hkept.mem p).1, hsorted, ?_, ?_⟩
  · constructor
    · intro hi
      obtain ⟨p, hp, rfl⟩ := List.mem_map.1 hi
      exact List.mem_map_of_mem ((hkept.mem p).1 hp).mem
    · intro hi
      obtain ⟨p, hp, rfl⟩ := List.mem_map.1 hi
      exact hkept.covers p hp
  · have halone : out.Pairwise fun p q => p.instanceId = q.instanceId → p.rank ≠ q.rank :=
      (List.pairwise_map.1 hkept.nodup).imp fun hne heq => absurd heq hne
    refine select_eq_of_firstBest (fun p hp => hps p ((hkept.mem p).1 hp).mem) hsorted fun p => ?_
    rw [firstBest_iff_of_distinct halone]
    exact ⟨fun hp => ⟨hp, fun q hq => ((hkept.mem p).1 hp).le ((hkept.mem q).1 hq).mem⟩, And.left⟩
  · intro hdistinct ps' hperm
    have hdistinct' := hperm.symm.pairwise hdistinct fun hpq heq h => hpq heq.symm h.symm
    refine select_eq_of_firstBest (fun p hp => hps p (hperm.mem_iff.1 hp)) hsorted fun p => ?_
    rw [hkept.mem, firstBest_iff_of_distinct hdistinct, firstBest_iff_of_distinct hdistinct']
    simp only [hperm.mem_iff]

/-- Of two placements of one priority for an instance, that without a rule stands back. -/
theorem select_merges_around_no_rule :
    let ps : List Placement :=
      [{ instanceId := 1, priority := 10 }, { instanceId := 2 }, { instanceId := 2, ruleId := .int 4 }]
    (∀ p ∈ ps, p.Numbered) ∧ (ps.Pairwise fun p q => p.instanceId = q.instanceId → p.rank ≠ q.rank) ∧
      ∃ out, select ps = .ok out ∧
        (out.map instanceId).Nodup ∧ (∀ i, i ∈ out.map instanceId ↔ i ∈ ps.map instanceId) ∧
        (∀ p ∈ out, FirstBest ps p) ∧ out.Pairwise (standing · < standing ·) ∧
        select out = .ok out ∧ ∀ ps', ps'.Perm ps → select ps' = .ok out := by
  intro ps
  have hps : ∀ p ∈ ps, p.Numbered := by simp [ps, Numbered, Value.wholeNumber?]
  have hdistinct : ps.Pairwise fun p q => p.instanceId = q.instanceId → p.rank ≠ q.rank := by
    simp [ps, rank, ruleOrder, Value.wholeNumber?]
  obtain ⟨out, hselect, hnodup, hinstances, hbest, hsorted, hagain, horder⟩ := select_merges hps
  exact ⟨hps, hdistinct, out, hselect, hnodup, hinstances, hbest, hsorted, hagain, horder hdistinct⟩

/-- Of placements that share instance and rank the earliest is kept. -/
example : select [{ instanceId := 1, ruleName := .text "first" }, { instanceId := 1 }] =
    .ok [{ instanceId := 1, ruleName := .text "first" }] := rfl

end Watchgate.Placement
