import Watchgate.Proofs.Routing.Merging
import Watchgate.Routing.Rule

/-!
# The rule that wins at each target

Selecting among the placements of rules keeps, for each target, the placement of the rule with the
highest order and, at equal orders, the lowest id, and lists what it keeps by the same rank. The
outcome depends only on which rules there are, not on the order in which they were found. It is
assumed that no two of the rules share an id.
-/

namespace Watchgate

namespace Rule

/-- The rule comes before another one: its order is higher or, at equal orders, its id is lower. -/
def Outranks (a b : Rule) : Prop := b.order < a.order ∨ a.order = b.order ∧ a.id < b.id

instance (a b : Rule) : Decidable (a.Outranks b) :=
  inferInstanceAs (Decidable (b.order < a.order ∨ a.order = b.order ∧ a.id < b.id))

theorem Outranks.asymm {a b : Rule} (h : a.Outranks b) : ¬ b.Outranks a := by
  unfold Outranks at *
  omega

theorem not_outranks_self (a : Rule) : ¬ a.Outranks a := fun h => h.asymm h

theorem outranks_or_of_id_ne {a b : Rule} (h : a.id ≠ b.id) : a.Outranks b ∨ b.Outranks a := by
  unfold Outranks
  omega

/-- Of the rules with a property, the one that comes before all others with the same target. -/
def Wins (P : Rule → Prop) (r : Rule) : Prop :=
  P r ∧ ∀ r', P r' → r'.targetId = r.targetId → r' = r ∨ r.Outranks r'

theorem Wins.unique {P : Rule → Prop} {a b : Rule} (ha : Wins P a) (hb : Wins P b)
    (ht : a.targetId = b.targetId) : a = b := by
  rcases ha.2 b hb.1 ht.symm with hba | hab
  · exact hba.symm
  · rcases hb.2 a ha.1 ht with hab' | hba
    · exact hab'
    · exact absurd hba hab.asymm

/-- Two lists by rank with the same members are the same. -/
theorem eq_of_ranked {ws ws' : List Rule} (h : ws.Pairwise Outranks) (h' : ws'.Pairwise Outranks)
    (hmem : ∀ r, r ∈ ws ↔ r ∈ ws') : ws = ws' := by
  have hnodup : ∀ {l : List Rule}, l.Pairwise Outranks → l.Nodup := by
    intro l hl
    refine List.Pairwise.imp (fun {a b} hab => ?_) hl
    rintro rfl
    exact not_outranks_self a hab
  have hperm : ws.Perm ws' := (List.perm_ext_iff_of_nodup (hnodup h) (hnodup h')).2 hmem
  exact hperm.eq_of_pairwise (fun a b _ _ hab hba => absurd hba hab.asymm) h h'

end Rule

namespace Placement

open Rule

theorem numbered_toPlacement (rs : List Rule) : ∀ p ∈ rs.map toPlacement, p.Numbered := by
  intro p hp
  obtain ⟨r, -, rfl⟩ := List.mem_map.1 hp
  exact .inr rfl

/-- The rank of placements is that of their rules. -/
theorem rank_toPlacement_lt {a b : Rule} :
    a.toPlacement.rank < b.toPlacement.rank ↔ a.Outranks b := by
  show toLex (-a.order, (a.id : WithTop ℤ)) < toLex (-b.order, (b.id : WithTop ℤ)) ↔ _
  rw [Prod.Lex.toLex_lt_toLex, WithTop.coe_lt_coe]
  unfold Outranks
  simp only
  omega

/-- A placement that is kept is that of a rule that wins. -/
theorem exists_wins_of_firstBest {rs : List Rule} {p : Placement}
    (hids : ∀ a ∈ rs, ∀ b ∈ rs, a.id = b.id → a = b) (h : FirstBest (rs.map toPlacement) p) :
    ∃ r, Wins (· ∈ rs) r ∧ r.toPlacement = p := by
  obtain ⟨r, hr, rfl⟩ := List.mem_map.1 h.mem
  refine ⟨r, ⟨hr, fun r' hr' ht => ?_⟩, rfl⟩
  by_cases hid : r'.id = r.id
  · exact .inl (hids r' hr' r hr hid)
  · have hle : r.toPlacement.rank ≤ r'.toPlacement.rank := h.le (List.mem_map_of_mem hr') ht
    have hnot : ¬ r'.Outranks r := fun hlt => hle.not_gt (rank_toPlacement_lt.2 hlt)
    exact .inr ((outranks_or_of_id_ne hid).resolve_left hnot)

/-- Selecting among the placements of rules gives those of the winners, by rank. -/
theorem select_toPlacement {rs : List Rule} (hids : ∀ a ∈ rs, ∀ b ∈ rs, a.id = b.id → a = b) :
    ∃ ws : List Rule, select (rs.map toPlacement) = .ok (ws.map toPlacement) ∧ ws.Pairwise Outranks ∧
      ∀ r, r ∈ ws ↔ Wins (· ∈ rs) r := by
  obtain ⟨out, hselect, hkept, hlisted⟩ := select_eq_firstBest (numbered_toPlacement rs)
  have hrule : ∀ p ∈ out, ∃ r, Wins (· ∈ rs) r ∧ r.toPlacement = p := fun p hp =>
    exists_wins_of_firstBest hids ((hkept.mem p).1 hp)
  choose! rule hwins hof using hrule
  refine ⟨out.map rule, ?_, ?_, fun r => ⟨fun hr => ?_, fun hr => ?_⟩⟩
  · rw [List.map_map, List.map_congr_left (f := toPlacement ∘ rule) hof, List.map_id']
    exact hselect
  · refine List.pairwise_map.2 (hlisted.imp_of_mem fun {p q} hp hq hlt => ?_)
    rw [← hof p hp, ← hof q hq] at hlt
    have hne : (rule p).id ≠ (rule q).id := fun hid =>
      hlt.ne (congrArg (fun r => r.toPlacement.standing)
        (hids _ (hwins p hp).1 _ (hwins q hq).1 hid))
    have hnot : ¬ (rule q).Outranks (rule p) := fun hlt' =>
      hlt.asymm (Prod.Lex.toLex_lt_toLex.2 (.inl (rank_toPlacement_lt.2 hlt')))
    exact (outranks_or_of_id_ne hne).resolve_right hnot
  · obtain ⟨p, hp, rfl⟩ := List.mem_map.1 hr
    exact hwins p hp
  · obtain ⟨p, hp, hi⟩ := List.mem_map.1 (hkept.covers _ (List.mem_map_of_mem hr.1))
    have ht : (rule p).targetId = r.targetId := (congrArg instanceId (hof p hp)).trans hi
    exact (hwins p hp).unique hr ht ▸ List.mem_map_of_mem hp

/-- Each rule has a winner at its target. -/
theorem exists_winner {rs : List Rule} {r : Rule} (hr : r ∈ rs)
    (hids : ∀ a ∈ rs, ∀ b ∈ rs, a.id = b.id → a = b) :
    ∃ w, Wins (· ∈ rs) w := by
  obtain ⟨out, -, hkept, -⟩ := select_eq_firstBest (numbered_toPlacement rs)
  obtain ⟨p, hp, -⟩ := List.mem_map.1 (hkept.covers _ (List.mem_map_of_mem hr))
  obtain ⟨w, hw, -⟩ := exists_wins_of_firstBest hids ((hkept.mem p).1 hp)
  exact ⟨w, hw⟩

end Placement

end Watchgate
