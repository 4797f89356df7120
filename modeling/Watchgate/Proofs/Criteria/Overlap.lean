import Mathlib.Algebra.Order.Group.Int
import Watchgate.Criteria.Season
import Watchgate.Criteria.Year

/-!
# Ranges over the span of seasons

A range with a bound is compared with the seasons by two comparisons: some season is not above the
range, and some season is not below it (`overlaps_iff`). If the range holds a number at all, this says
that it shares a number with the span (`exists_spans_has_iff`). If its low bound is above its high one,
it holds none, and yet both comparisons succeed for seasons that lie on either side of it.
-/

namespace Watchgate.Criteria

namespace Range

/-- Neither bound excludes the number. -/
def Has (r : Range) (n : Int) : Prop := (∀ low ∈ r.low, low ≤ n) ∧ ∀ high ∈ r.high, n ≤ high

/-- The low bound is above the high one. -/
def Inverted (r : Range) : Prop := ∃ low ∈ r.low, ∃ high ∈ r.high, high < low

theorem reaches_iff {r : Range} {n : Int} : r.reaches n = true ↔ ∀ low ∈ r.low, low ≤ n := by
  simp [reaches, Option.all_eq_true]

theorem admits_iff {r : Range} {n : Int} : r.admits n = true ↔ ∀ high ∈ r.high, n ≤ high := by
  simp [admits, Option.all_eq_true]

theorem not_has_of_inverted {r : Range} (h : r.Inverted) (n : Int) : ¬ r.Has n := by
  obtain ⟨low, hlow, high, hhigh, hlt⟩ := h
  rintro ⟨hl, hh⟩
  have hle : low ≤ n := hl low hlow
  have hge : n ≤ high := hh high hhigh
  omega

end Range

namespace Season

/-- A number from the lowest season to the highest. -/
def Spans (seasons : List Int) (n : Int) : Prop := (∃ a ∈ seasons, a ≤ n) ∧ ∃ b ∈ seasons, n ≤ b

/-! ## The ends of the span -/

theorem lowest_le_iff {bound : Int} (n : Int) (ns : List Int) :
    lowest n ns ≤ bound ↔ ∃ a ∈ n :: ns, a ≤ bound := by
  induction ns generalizing n with
  | nil => simp [lowest]
  | cons m ns ih =>
    have hstep : lowest n (m :: ns) = lowest (min n m) ns := rfl
    rw [hstep, ih]
    simp [or_assoc]

theorem le_highest_iff {bound : Int} (n : Int) (ns : List Int) :
    bound ≤ highest n ns ↔ ∃ b ∈ n :: ns, bound ≤ b := by
  induction ns generalizing n with
  | nil => simp [highest]
  | cons m ns ih =>
    have hstep : highest n (m :: ns) = highest (max n m) ns := rfl
    rw [hstep, ih]
    simp [or_assoc]

theorem lowest_le_highest (n : Int) (ns : List Int) : lowest n ns ≤ highest n ns := by
  have hlow : lowest n ns ≤ n := (lowest_le_iff n ns).2 ⟨n, List.mem_cons_self, le_refl n⟩
  have hhigh : n ≤ highest n ns := (le_highest_iff n ns).2 ⟨n, List.mem_cons_self, le_refl n⟩
  omega

theorem spans_iff {n m : Int} {ns : List Int} :
    Spans (n :: ns) m ↔ lowest n ns ≤ m ∧ m ≤ highest n ns := by
  rw [Spans, lowest_le_iff, le_highest_iff]

/-! ## The comparison with a range -/

/-- The two comparisons, one for each bound. -/
theorem overlaps_iff {r : Range} (hbound : r.isOpen = false) (n : Int) (ns : List Int) :
    overlaps r n ns = true ↔
      (∀ high ∈ r.high, lowest n ns ≤ high) ∧ ∀ low ∈ r.low, low ≤ highest n ns := by
  simp [overlaps, hbound, Range.admits_iff, Range.reaches_iff]

/-- Of a range that is not inverted, the two comparisons say that it shares a number with the span. -/
theorem exists_spans_has_iff {r : Range} (h : ¬ r.Inverted) (n : Int) (ns : List Int) :
    (∃ m, Spans (n :: ns) m ∧ r.Has m) ↔
      (∀ high ∈ r.high, lowest n ns ≤ high) ∧ ∀ low ∈ r.low, low ≤ highest n ns := by
  constructor
  · rintro ⟨m, hspan, hlow, hhigh⟩
    obtain ⟨hle, hge⟩ := spans_iff.1 hspan
    exact ⟨fun high hh => hle.trans (hhigh high hh), fun low hl => (hlow low hl).trans hge⟩
  · rintro ⟨hhigh, hlow⟩
    have hends : lowest n ns ≤ highest n ns := lowest_le_highest n ns
    -- The shared number is the higher of the two low ends.
    cases hl : r.low with
    | none =>
      refine ⟨lowest n ns, spans_iff.2 ⟨le_refl _, hends⟩, ?_, hhigh⟩
      simp [hl]
    | some low =>
      refine ⟨max low (lowest n ns), spans_iff.2 ⟨le_max_right _ _, ?_⟩, ?_, ?_⟩
      · exact max_le (hlow low hl) hends
      · intro low' hl'
        obtain rfl : low = low' := by simpa [hl] using hl'
        exact le_max_left _ _
      · intro high hh
        have hle : low ≤ high := by
          by_contra hlt
          exact h ⟨low, hl, high, hh, by omega⟩
        exact max_le hle (hhigh high hh)

theorem holds_between {entries : Entries} {r : Range} (hrange : Range.ofEntries? entries = some r)
    (n : Int) (ns : List Int) : holds (n :: ns) "between" (.map entries) = overlaps r n ns := by
  simp [holds, hrange]

/-- When a range with a bound holds of seasons. If it is not inverted, it holds exactly if it shares a
number with the span. An inverted one shares no number with anything, but it holds exactly if some
season is not above its high bound and some season is not below its low bound. Of a single season, every
range says what it says of a year. -/
theorem holds_between_iff {seasons : List Int} {entries : Entries} {r : Range}
    (hrange : Range.ofEntries? entries = some r) (hbound : r.isOpen = false)
    (hseasons : seasons ≠ []) :
    (¬ r.Inverted → (holds seasons "between" (.map entries) = true ↔
      ∃ n, Spans seasons n ∧ r.Has n)) ∧
    (∀ low ∈ r.low, ∀ high ∈ r.high, high < low →
      (¬ ∃ n, r.Has n) ∧ (holds seasons "between" (.map entries) = true ↔
        (∃ a ∈ seasons, a ≤ high) ∧ ∃ b ∈ seasons, low ≤ b)) ∧
    ∀ n, seasons = [n] →
      holds seasons "between" (.map entries) = Year.holds n "between" (.map entries) := by
  obtain ⟨s, rest, rfl⟩ := List.exists_cons_of_ne_nil hseasons
  refine ⟨?shared, ?inverted, ?single⟩
  case shared =>
    intro h
    rw [holds_between hrange, overlaps_iff hbound, exists_spans_has_iff h]
  case inverted =>
    intro low hlow high hhigh hlt
    have hnone : ¬ ∃ n, r.Has n := fun ⟨n, hn⟩ =>
      Range.not_has_of_inverted ⟨low, hlow, high, hhigh, hlt⟩ n hn
    refine ⟨hnone, ?_⟩
    have hl : r.low = some low := hlow
    have hh : r.high = some high := hhigh
    rw [holds_between hrange, overlaps_iff hbound, ← lowest_le_iff, ← le_highest_iff]
    simp [hl, hh]
  case single =>
    rintro n ⟨rfl, rfl⟩
    have hyear : Year.holds s "between" (.map entries) = r.contains s := by
      simp [Year.holds, hrange]
    rw [holds_between hrange, hyear]
    simp [overlaps, hbound, Range.contains, lowest, highest, Bool.and_comm]

/-- For instance, between the seasons 2 and 7 lie those from 4 to 5. -/
theorem holds_between_iff_two_seasons :
    (holds [2, 7] "between" (.map [("min", .int 4), ("max", .int 5)]) = true ↔
      ∃ n, Spans [2, 7] n ∧ Range.Has ⟨some 4, some 5⟩ n) ∧
    holds [2, 7] "between" (.map [("min", .int 4), ("max", .int 5)]) = true := by
  have hnormal : ¬ Range.Inverted ⟨some 4, some 5⟩ := by simp [Range.Inverted]
  exact ⟨(holds_between_iff (r := ⟨some 4, some 5⟩) rfl rfl (by decide)).1 hnormal, by decide⟩

/-- The seasons 1 and 10 match the range from 5 down to 3, which no number is in and no year matches. -/
theorem holds_between_of_empty_range :
    holds [1, 10] "between" (.map [("min", .int 5), ("max", .int 3)]) = true ∧
      Range.ofEntries? [("min", .int 5), ("max", .int 3)] = some ⟨some 5, some 3⟩ ∧
      (¬ ∃ n, Spans [1, 10] n ∧ Range.Has ⟨some 5, some 3⟩ n) ∧
      holds [4] "between" (.map [("min", .int 5), ("max", .int 3)]) = false := by
  have hinverted : Range.Inverted ⟨some 5, some 3⟩ := ⟨5, rfl, 3, rfl, by decide⟩
  exact ⟨by decide, rfl, fun ⟨n, _, hn⟩ => Range.not_has_of_inverted hinverted n hn, by decide⟩

end Season

end Watchgate.Criteria
