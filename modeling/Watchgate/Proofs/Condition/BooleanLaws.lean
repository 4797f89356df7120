import Mathlib.Logic.Relation
import Watchgate.Proofs.Condition.Tree
import Watchgate.Proofs.Criteria.Shorthand

/-!
# Boolean laws of conditions

Where each leaf is answered, a condition is judged as the Boolean expression that it writes, although
judging stops as soon as the answer is clear (`outcome_judge`). So the laws of Boolean expressions are
laws of judging: negation may be pushed to the leaves, children may change places, and the children of a
nested group may join those around it, at any depth (`judge_eq_of_rearranges`).

A field that nobody answers for and a leaf that does not fit the data are answers like any other; only a
leaf that goes wrong for a graver reason is none (`Settles`).
-/

namespace Watchgate

namespace Combination

/-- What a combination becomes under a negation. -/
def dual : Combination → Combination
  | .all => .any
  | .any => .all

/-- Whether a group holds whose children hold or fail as listed. -/
def join : Combination → List Bool → Bool
  | .all, bs => bs.all id
  | .any, bs => bs.any id

theorem join_perm (k : Combination) {bs bs' : List Bool} (h : bs.Perm bs') :
    k.join bs = k.join bs' := by
  cases k
  · exact h.all_eq
  · exact h.any_eq

theorem join_dual (k : Combination) (bs : List Bool) :
    k.dual.join (bs.map (!·)) = !k.join bs := by
  cases k
  · simp [dual, join, List.not_all_eq_any_not]
  · simp [dual, join, List.not_any_eq_all_not]

/-- A group of the same combination inside of another counts for as much as its children. -/
theorem join_splice (k : Combination) (left inner right : List Bool) :
    k.join (left ++ k.join inner :: right) = k.join (left ++ inner ++ right) := by
  cases k <;> simp [join]

end Combination

namespace Condition

open Criteria

/-! ## Conditions as Boolean expressions -/

mutual

/-- Whether a condition holds whose leaves hold as `truth` says. -/
def meaning (truth : Leaf → Bool) : Condition → Bool
  | .leaf l negated => truth l != negated
  | .group k children negated => k.join (meanings truth children) != negated

/-- Which of several conditions hold. -/
def meanings (truth : Leaf → Bool) : List Condition → List Bool
  | [] => []
  | c :: cs => meaning truth c :: meanings truth cs

end

variable {truth : Leaf → Bool}

theorem meanings_eq_map (cs : List Condition) : meanings truth cs = cs.map (meaning truth) := by
  induction cs with
  | nil => rfl
  | cons c cs ih => rw [meanings, ih, List.map_cons]

@[simp] theorem meaning_leaf (l : Leaf) (negated : Bool) :
    meaning truth (.leaf l negated) = (truth l != negated) := by
  rw [meaning]

@[simp] theorem meaning_group (k : Combination) (children : List Condition) (negated : Bool) :
    meaning truth (.group k children negated)
      = (k.join (children.map (meaning truth)) != negated) := by
  rw [meaning, meanings_eq_map]

/-- The condition that holds just where the other does not. -/
def flip : Condition → Condition
  | .leaf l negated => .leaf l (!negated)
  | .group k children negated => .group k children (!negated)

@[simp] theorem meaning_flip (c : Condition) : meaning truth c.flip = !meaning truth c := by
  cases c <;> simp [flip]

/-! ## Rearranging -/

/-- One rearrangement of a condition, at any depth. -/
inductive Rearranges : Condition → Condition → Prop
  /-- The negation of a group is passed on to its children. -/
  | negation (k : Combination) (children : List Condition) :
    Rearranges (.group k children true) (.group k.dual (children.map flip) false)
  /-- The children of a group change places. -/
  | permutation {k : Combination} {children children' : List Condition} {negated : Bool}
    (h : children.Perm children') :
    Rearranges (.group k children negated) (.group k children' negated)
  /-- A group inside of a group of the same combination gives way to its children. -/
  | splice {k : Combination} {left inner right : List Condition} {negated : Bool} :
    Rearranges (.group k (left ++ .group k inner false :: right) negated)
      (.group k (left ++ inner ++ right) negated)
  /-- A child is rearranged. -/
  | inside {k : Combination} {left right : List Condition} {c c' : Condition} {negated : Bool}
    (h : Rearranges c c') :
    Rearranges (.group k (left ++ c :: right) negated) (.group k (left ++ c' :: right) negated)

theorem leaves_flip (c : Condition) : c.flip.leaves = c.leaves := by
  cases c <;> simp [flip]

theorem Rearranges.meaning_eq {c c' : Condition} (h : Rearranges c c') :
    meaning truth c' = meaning truth c := by
  induction h with
  | negation k children =>
    have hflip : (children.map flip).map (meaning truth) = (children.map (meaning truth)).map (!·) := by
      simp [Function.comp_def]
    rw [meaning_group, meaning_group, hflip, Combination.join_dual]
    simp
  | permutation h => rw [meaning_group, meaning_group, Combination.join_perm _ (h.map _)]
  | @splice k left inner right negated =>
    have hsplice := k.join_splice (left.map (meaning truth)) (inner.map (meaning truth))
      (right.map (meaning truth))
    simp [hsplice]
  | inside _ ih => simp [ih]

/-- Rearranging keeps the leaves, but for their places. -/
theorem Rearranges.leaves_perm {c c' : Condition} (h : Rearranges c c') :
    c'.leaves.Perm c.leaves := by
  induction h with
  | negation k children =>
    have hflip : (children.map flip).flatMap leaves = children.flatMap leaves := by
      rw [List.flatMap_map]
      simp only [leaves_flip]
    rw [leaves_group, leaves_group, hflip]
  | permutation h =>
    rw [leaves_group, leaves_group]
    exact (h.flatMap_right leaves).symm
  | splice => simp
  | inside _ ih =>
    simp only [leaves_group, List.flatMap_append, List.flatMap_cons]
    exact (ih.append_right _).append_left _

/-! ## Negation at the leaves -/

mutual

/-- The condition with its negations, and one more if it is `flipped`, pushed to the leaves. -/
def push (flipped : Bool) : Condition → Condition
  | .leaf l negated => .leaf l (negated != flipped)
  | .group k children negated =>
    .group (if negated != flipped then k.dual else k) (pushEach (negated != flipped) children) false

/-- Several conditions with their negations pushed to the leaves. -/
def pushEach (flipped : Bool) : List Condition → List Condition
  | [] => []
  | c :: cs => push flipped c :: pushEach flipped cs

end

/-- The condition with its negations pushed to the leaves. -/
def normalForm (c : Condition) : Condition := c.push false

/-- No group is negated. -/
inductive IsNormal : Condition → Prop
  /-- A leaf may be negated. -/
  | leaf (l : Leaf) (negated : Bool) : IsNormal (.leaf l negated)
  /-- A group may not. -/
  | group {k : Combination} {children : List Condition} (h : ∀ c ∈ children, IsNormal c) :
    IsNormal (.group k children false)

theorem pushEach_eq_map (flipped : Bool) (cs : List Condition) :
    pushEach flipped cs = cs.map (push flipped) := by
  induction cs with
  | nil => rfl
  | cons c cs ih => rw [pushEach, ih, List.map_cons]

theorem isNormal_push (flipped : Bool) (c : Condition) : (c.push flipped).IsNormal := by
  induction c using children_induction generalizing flipped with
  | leaf l negated =>
    rw [push]
    exact .leaf l _
  | group k children negated ih =>
    rw [push, pushEach_eq_map]
    refine .group fun d hd => ?_
    obtain ⟨c, hc, rfl⟩ := List.mem_map.1 hd
    exact ih c hc _

/-- Children may be rearranged one after the other. -/
theorem rearranges_children (k : Combination) (negated : Bool) {f g : Condition → Condition}
    (left cs : List Condition)
    (h : ∀ c ∈ cs, Relation.ReflTransGen Rearranges (f c) (g c)) :
    Relation.ReflTransGen Rearranges (.group k (left ++ cs.map f) negated)
      (.group k (left ++ cs.map g) negated) := by
  induction cs generalizing left with
  | nil => exact .refl
  | cons c cs ih =>
    have hfirst : Relation.ReflTransGen Rearranges (.group k (left ++ f c :: cs.map f) negated)
        (.group k (left ++ g c :: cs.map f) negated) :=
      Relation.ReflTransGen.lift (fun d => Condition.group k (left ++ d :: cs.map f) negated)
        (fun _ _ hstep => Rearranges.inside hstep) _ _ (h c List.mem_cons_self)
    have hrest := ih (left ++ [g c]) fun d hd => h d (.tail _ hd)
    simp only [List.append_assoc, List.singleton_append] at hrest
    exact hfirst.trans hrest

/-- Pushing the negations to the leaves is a sequence of rearrangements. -/
theorem rearranges_push (flipped : Bool) (c : Condition) :
    Relation.ReflTransGen Rearranges (if flipped then c.flip else c) (c.push flipped) := by
  induction c using children_induction generalizing flipped with
  | leaf l negated => cases flipped <;> simp [push, flip] <;> exact .refl
  | group k children negated ih =>
    have hkeep : Relation.ReflTransGen Rearranges (.group k children false)
        (.group k (children.map (push false)) false) := by
      simpa using rearranges_children k false (f := id) [] children fun c hc => ih c hc false
    have hturn : Relation.ReflTransGen Rearranges (.group k children true)
        (.group k.dual (children.map (push true)) false) :=
      .head (.negation k children)
        (rearranges_children k.dual false [] children fun c hc => ih c hc true)
    rw [push, pushEach_eq_map]
    cases flipped <;> cases negated <;> first | exact hkeep | exact hturn

theorem eqvGen_normalForm (c : Condition) : Relation.EqvGen Rearranges c c.normalForm :=
  Relation.EqvGen.reflTransGen_le_eqvGen _ _ _ (rearranges_push false c)

/-! ## Judging -/

variable {families : List Family} {item : Item} {context : Context}

/-- The leaf does not go wrong for a graver reason than that it does not fit the data. -/
def Settles (families : List Family) (item : Item) (context : Context) (l : Leaf) : Prop :=
  ∀ f failure, familyFor? families l.field = some f →
    outcome (f.judge l item context) = .error failure → isMisfit failure = true

theorem outcome_judgeLeaf_of_unclaimed {l : Leaf} (h : familyFor? families l.field = none) :
    outcome (judgeLeaf families l item context) = .ok false := by
  unfold judgeLeaf
  rw [h]
  rfl

theorem outcome_judgeLeaf_of_ok {l : Leaf} {f : Family} {b : Bool}
    (hf : familyFor? families l.field = some f) (h : outcome (f.judge l item context) = .ok b) :
    outcome (judgeLeaf families l item context) = .ok b := by
  unfold judgeLeaf
  rw [hf]
  exact outcome_tryCatch_of_ok h

theorem outcome_judgeLeaf_of_misfit {l : Leaf} {f : Family} {failure : Failure}
    (hf : familyFor? families l.field = some f)
    (h : outcome (f.judge l item context) = .error failure) (hmisfit : isMisfit failure = true) :
    outcome (judgeLeaf families l item context) = .ok false := by
  unfold judgeLeaf
  rw [hf]
  dsimp only
  unfold forgiving
  rw [outcome_tryCatch, h]
  dsimp only
  rw [hmisfit]
  rfl

theorem Settles.answered {l : Leaf} (h : Settles families item context l) :
    ∃ b, outcome (judgeLeaf families l item context) = .ok b := by
  cases hf : familyFor? families l.field with
  | none => exact ⟨false, outcome_judgeLeaf_of_unclaimed hf⟩
  | some f =>
    cases houtcome : outcome (f.judge l item context) with
    | ok b => exact ⟨b, outcome_judgeLeaf_of_ok hf houtcome⟩
    | error failure => exact ⟨false, outcome_judgeLeaf_of_misfit hf houtcome (h f failure hf houtcome)⟩

theorem outcome_judgeAll {cs : List Condition}
    (h : ∀ c ∈ cs, outcome (judge families item context c) = .ok (meaning truth c)) :
    outcome (judgeAll families item context cs)
      = .ok (Combination.all.join (cs.map (meaning truth))) := by
  induction cs with
  | nil => rw [judgeAll]; rfl
  | cons c cs ih =>
    rw [List.forall_mem_cons] at h
    rw [judgeAll, outcome_bind_of_ok h.1, List.map_cons]
    cases hc : meaning truth c with
    | true => exact ih h.2
    | false => rfl

theorem outcome_judgeAny {cs : List Condition}
    (h : ∀ c ∈ cs, outcome (judge families item context c) = .ok (meaning truth c)) :
    outcome (judgeAny families item context cs)
      = .ok (Combination.any.join (cs.map (meaning truth))) := by
  induction cs with
  | nil => rw [judgeAny]; rfl
  | cons c cs ih =>
    rw [List.forall_mem_cons] at h
    rw [judgeAny, outcome_bind_of_ok h.1, List.map_cons]
    cases hc : meaning truth c with
    | true => rfl
    | false => exact ih h.2

/-- A condition is judged as the Boolean expression that it writes. -/
theorem outcome_judge {c : Condition}
    (h : ∀ l ∈ c.leaves, outcome (judgeLeaf families l item context) = .ok (truth l)) :
    outcome (judge families item context c) = .ok (meaning truth c) := by
  induction c using children_induction with
  | leaf l negated =>
    rw [leaves_leaf, List.forall_mem_singleton] at h
    rw [judge, outcome_bind_of_ok h, meaning_leaf]
    rfl
  | group k children negated ih =>
    rw [leaves_group, List.forall_mem_flatMap] at h
    have hchildren := fun c hc => ih c hc (h c hc)
    rw [meaning_group]
    cases k with
    | all =>
      rw [judge, outcome_bind_of_ok (outcome_judgeAll hchildren)]
      rfl
    | any =>
      rw [judge, outcome_bind_of_ok (outcome_judgeAny hchildren)]
      rfl

/-- Which leaves hold. -/
def truthOf (families : List Family) (item : Item) (context : Context) (l : Leaf) : Bool :=
  (outcome (judgeLeaf families l item context)).toOption.getD false

theorem Settles.outcome_eq {l : Leaf} (h : Settles families item context l) :
    outcome (judgeLeaf families l item context) = .ok (truthOf families item context l) := by
  obtain ⟨b, hb⟩ := h.answered
  rw [truthOf, hb]
  rfl

/-- Two conditions that are rearrangements of each other hold alike, and settle alike. -/
theorem meaning_eq_of_eqvGen (truth : Leaf → Bool) {c c' : Condition}
    (h : Relation.EqvGen Rearranges c c') :
    meaning truth c' = meaning truth c ∧ c'.leaves.Perm c.leaves := by
  induction h with
  | rel _ _ h => exact ⟨h.meaning_eq, h.leaves_perm⟩
  | refl _ => exact ⟨rfl, .refl _⟩
  | symm _ _ _ ih => exact ⟨ih.1.symm, ih.2.symm⟩
  | trans _ _ _ _ _ ih ih' => exact ⟨ih'.1.trans ih.1, ih'.2.trans ih.2⟩

/-- Rearrangements of a condition all of whose leaves settle are judged as it is. -/
theorem judge_eq_of_rearranges {c c' : Condition}
    (hleaves : ∀ l ∈ c.leaves, Settles families item context l)
    (h : Relation.EqvGen Rearranges c c') :
    outcome (judge families item context c') = outcome (judge families item context c) := by
  obtain ⟨hmeaning, hperm⟩ := meaning_eq_of_eqvGen (truthOf families item context) h
  rw [outcome_judge fun l hl => (hleaves l hl).outcome_eq,
    outcome_judge fun l hl => (hleaves l (hperm.subset hl)).outcome_eq, hmeaning]

/-- A condition all of whose leaves settle is answered, and the answer is that of its normal form and of
every condition it can be rearranged into. -/
theorem judge_boolean_laws {c : Condition}
    (hleaves : ∀ l ∈ c.leaves, Settles families item context l) :
    (∃ b, outcome (judge families item context c) = .ok b) ∧
      (c.normalForm.IsNormal ∧
        outcome (judge families item context c.normalForm)
          = outcome (judge families item context c)) ∧
      ∀ c', Relation.EqvGen Rearranges c c' →
        outcome (judge families item context c') = outcome (judge families item context c) := by
  refine ⟨⟨_, outcome_judge fun l hl => (hleaves l hl).outcome_eq⟩, ⟨isNormal_push false c, ?_⟩,
    fun c' h => judge_eq_of_rearranges hleaves h⟩
  exact judge_eq_of_rearranges hleaves (eqvGen_normalForm c)

/-- One leaf has a field that nobody answers for, another a name of digits that write no number, and one
group is empty. -/
theorem judge_boolean_laws_of_three_groups :
    let item : Item := { title := .text "Dune" }
    let context : Context := { contentType := .text "movie", userName := .one (.text "Ann") }
    let colour : Leaf := ⟨"colour", .text "equals", .text "blue"⟩
    let user : Leaf := ⟨"user", .text "equals", .text "²"⟩
    let c : Condition := .group .all [.leaf colour false, .group .all [.leaf user true] false,
      .group .any [] false] true
    let c' : Condition := .group .any [.group .all [] false, .leaf user false, .leaf colour true] false
    (∀ l ∈ c.leaves, Settles fieldFamilies item context l) ∧ Relation.EqvGen Rearranges c c' ∧
      outcome (judge fieldFamilies item context c) = .ok true ∧
      outcome (judge fieldFamilies item context c') = .ok true := by
  intro item context colour user c c'
  have hleaves : ∀ l ∈ c.leaves, Settles fieldFamilies item context l := by
    have hc : c.leaves = [colour, user] := rfl
    rw [hc, List.forall_mem_cons, List.forall_mem_singleton]
    constructor
    · intro f failure hf _
      cases hf
    · intro f failure hf h
      have houtcome : outcome (Criteria.user.judge user item context)
          = .error (.value (.notInteger "²")) := by cbv
      obtain rfl : Criteria.user = f := Option.some.inj hf
      rw [houtcome] at h
      obtain rfl := Except.error.inj h
      rfl
  let spliced : List Condition := [.leaf colour true, .leaf user false, .group .all [] false]
  have hsplice : Rearranges c.normalForm (.group .any spliced false) :=
    @Rearranges.splice .any [.leaf colour true] [.leaf user false] [.group .all [] false] false
  have hreverse : Rearranges (.group .any spliced false) c' :=
    .permutation (List.reverse_perm spliced).symm
  have hrearranged : Relation.EqvGen Rearranges c c' :=
    (eqvGen_normalForm c).trans _ _ _ (.trans _ _ _ (.rel _ _ hsplice) (.rel _ _ hreverse))
  obtain ⟨-, -, hlaws⟩ := judge_boolean_laws hleaves
  have hc : outcome (judge fieldFamilies item context c) = .ok true := by cbv
  exact ⟨hleaves, hrearranged, hc, (hlaws c' hrearranged).trans hc⟩

end Condition
end Watchgate
