import Mathlib.Algebra.GroupWithZero.Nat
import Watchgate.Proofs.Calendar.Month

/-!
# Days by year, month and day of the month

A day has one place among the years and months, and what is read off its number is this place
(`Civil.reads`). A month therefore ends where the next one begins: the days up to there have the same
first of the month, and from there on the first of the month is later than all of them.
-/

namespace Watchgate.Calendar

/-! ## Places among months -/

/-- The day at offset `j` of the month at index `i`. -/
theorem monthAndDay_of_place (month : Nat) {lengths : List Nat} {i j : Nat}
    (hi : i < lengths.length) (hj : j < lengths[i]) :
    monthAndDay month lengths ((lengths.take i).sum + j) = (month + i, j + 1) := by
  induction lengths generalizing month i with
  | nil => cases hi
  | cons length lengths ih =>
    cases i with
    | zero =>
      have hj : j < length := hj
      simp [monthAndDay, hj]
    | succ i =>
      have hplace : ((length :: lengths).take (i + 1)).sum + j
          = length + ((lengths.take i).sum + j) := by
        rw [List.take_succ_cons, List.sum_cons, Nat.add_assoc]
      have hrest := ih (month + 1) (Nat.lt_of_succ_lt_succ hi) hj
      rw [hplace, monthAndDay, if_neg (by omega), Nat.add_sub_cancel_left, hrest]
      congr 1
      omega

/-- Every day of some months is at an offset of one of them. -/
theorem exists_place {lengths : List Nat} {rest : Nat} (h : rest < lengths.sum) :
    ∃ i, ∃ hi : i < lengths.length, ∃ j < lengths[i], rest = (lengths.take i).sum + j := by
  induction lengths generalizing rest with
  | nil => cases h
  | cons length lengths ih =>
    by_cases hfirst : rest < length
    · exact ⟨0, Nat.succ_pos _, rest, hfirst, by simp⟩
    · rw [List.sum_cons] at h
      have hlater : rest - length < lengths.sum := by omega
      obtain ⟨i, hi, j, hj, hrest⟩ := ih hlater
      refine ⟨i + 1, Nat.succ_lt_succ hi, j, hj, ?_⟩
      rw [List.take_succ_cons, List.sum_cons]
      omega

/-! ## Years -/

theorem monthLength_eq {year i : Nat} (hi : i < (monthLengths year).length) :
    monthLength year (i + 1) = (monthLengths year)[i] := by
  rw [monthLength, Nat.add_sub_cancel, List.getD_eq_getElem?_getD, List.getElem?_eq_getElem hi,
    Option.getD_some]

theorem monthLength_bounds {year i : Nat} (hi : i < (monthLengths year).length) :
    1 ≤ monthLength year (i + 1) ∧ monthLength year (i + 1) ≤ 31 := by
  have hmem : monthLength year (i + 1) ∈ monthLengths year :=
    monthLength_eq hi ▸ List.getElem_mem hi
  generalize monthLength year (i + 1) = length at hmem ⊢
  unfold monthLengths at hmem
  split at hmem <;> simp only [List.mem_cons, List.not_mem_nil, or_false] at hmem <;> omega

theorem sum_take_succ {year i : Nat} (hi : i < (monthLengths year).length) :
    ((monthLengths year).take (i + 1)).sum
      = ((monthLengths year).take i).sum + monthLength year (i + 1) := by
  rw [List.take_succ_eq_append_getElem hi, List.sum_append, List.sum_singleton, monthLength_eq hi]

theorem isLeap_iff {year : Nat} :
    isLeap year = true ↔ year % 4 = 0 ∧ (year % 100 ≠ 0 ∨ year % 400 = 0) := by
  simp [isLeap]

/-- A year is as long as its months. -/
theorem yearStart_succ {year : Nat} (h : 1 ≤ year) :
    yearStart (year + 1) = yearStart year + (monthLengths year).sum := by
  obtain ⟨n, rfl⟩ := Nat.exists_eq_add_of_le' h
  unfold yearStart
  rw [Nat.add_sub_cancel, Nat.add_sub_cancel]
  dsimp only
  by_cases hleap : isLeap (n + 1) = true
  · have hsum : (monthLengths (n + 1)).sum = 366 := by simp [monthLengths, hleap]
    have hrule := isLeap_iff.1 hleap
    rw [hsum]
    omega
  · have hsum : (monthLengths (n + 1)).sum = 365 := by simp [monthLengths, hleap]
    have hrule : (n + 1) % 4 ≠ 0 ∨ (n + 1) % 100 = 0 ∧ (n + 1) % 400 ≠ 0 := by
      simp only [isLeap_iff] at hleap
      omega
    rw [hsum]
    -- a quotient goes up only in a year that its divisor divides
    rcases hrule with h4 | ⟨h100, h400⟩
    · have h100 : (n + 1) / 100 = n / 100 := by omega
      have h400 : (n + 1) / 400 = n / 400 := by omega
      omega
    · omega

theorem yearOf_eq {o year : Nat} (hstart : yearStart year ≤ o) (hend : o < yearStart (year + 1)) :
    yearOf o = year := by
  have hpos : 1 ≤ o := Nat.le_trans (Nat.le_add_left 1 _) hstart
  obtain ⟨hlow, hhigh⟩ := yearOf_bounds hpos
  refine Nat.le_antisymm (Nat.le_of_not_lt fun hlt => ?_) (Nat.le_of_not_lt fun hlt => ?_)
  · have hyears : yearStart (year + 1) ≤ yearStart (yearOf o) := yearStart_mono hlt
    omega
  · have hyears : yearStart (yearOf o + 1) ≤ yearStart year := yearStart_mono hlt
    omega

namespace Date

/-- The place of a day: offset `j` of the month at index `i` of the year. -/
structure Civil (d : Date) (year i j : Nat) : Prop where
  year_pos : 1 ≤ year
  month_lt : i < (monthLengths year).length
  day_lt : j < monthLength year (i + 1)
  ordinal : d.ordinal = yearStart year + ((monthLengths year).take i).sum + j

theorem exists_civil {d : Date} (h : 1 ≤ d.ordinal) : ∃ year i j, d.Civil year i j := by
  obtain ⟨hstart, hend⟩ := yearOf_bounds h
  have hyear : 1 ≤ yearOf d.ordinal := by
    refine Nat.pos_of_ne_zero fun hzero => ?_
    rw [hzero] at hend
    have hone : yearStart (0 + 1) = 1 := rfl
    omega
  have hlength := yearStart_succ hyear
  have hinYear : d.ordinal - yearStart (yearOf d.ordinal)
      < (monthLengths (yearOf d.ordinal)).sum := by omega
  obtain ⟨i, hi, j, hj, hrest⟩ := exists_place hinYear
  exact ⟨_, i, j, hyear, hi, monthLength_eq hi ▸ hj, by omega⟩

variable {d e : Date} {year i j : Nat}

theorem Civil.le_yearEnd (h : d.Civil year i j) :
    ((monthLengths year).take i).sum + monthLength year (i + 1) ≤ (monthLengths year).sum := by
  have hsplit : (monthLengths year).sum = ((monthLengths year).take (i + 1)).sum
      + ((monthLengths year).drop (i + 1)).sum := by
    rw [← List.sum_append, List.take_append_drop]
  rw [hsplit, sum_take_succ h.month_lt]
  exact Nat.le_add_right _ _

/-- What is read off a day is its place. -/
theorem Civil.reads (h : d.Civil year i j) : d.year = year ∧ d.month = i + 1 ∧ d.day = j + 1 := by
  have hend := h.le_yearEnd
  have hday := h.day_lt
  have hplace := h.ordinal
  have hlength := yearStart_succ h.year_pos
  have hyear : d.year = year := yearOf_eq (by omega) (by omega)
  have hmonthDay : d.monthDay = (i + 1, j + 1) := by
    unfold monthDay
    rw [hyear, hplace, Nat.add_assoc, Nat.add_sub_cancel_left,
      monthAndDay_of_place 1 h.month_lt (monthLength_eq h.month_lt ▸ h.day_lt), Nat.add_comm 1 i]
  exact ⟨hyear, congrArg Prod.fst hmonthDay, congrArg Prod.snd hmonthDay⟩

theorem Civil.firstOfMonth_eq (h : d.Civil year i j) :
    d.firstOfMonth.ordinal = yearStart year + ((monthLengths year).take i).sum := by
  obtain ⟨-, -, hday⟩ := h.reads
  have hplace := h.ordinal
  unfold firstOfMonth
  rw [hday]
  dsimp only
  omega

/-! ## The next month -/

/-- The number of the first day of the next month, in the calendar or after it. -/
def nextMonth (d : Date) : Nat := d.firstOfMonth.ordinal + monthLength d.year d.month

theorem firstOfNextMonth?_eq (hpos : 1 ≤ d.ordinal) (h : d.nextMonth ≤ lastOrdinal) :
    d.firstOfNextMonth? = some ⟨d.nextMonth⟩ := by
  have hyear := yearStart_le_firstOfMonth hpos
  have hone : 1 ≤ yearStart d.year := Nat.le_add_left 1 _
  have hfirst : 1 ≤ d.nextMonth := by
    unfold nextMonth
    omega
  exact addDays?_eq (Int.natCast_add _ _) hfirst h

theorem Civil.nextMonth_eq (h : d.Civil year i j) :
    d.nextMonth = yearStart year + ((monthLengths year).take i).sum + monthLength year (i + 1) := by
  obtain ⟨hyear, hmonth, -⟩ := h.reads
  unfold nextMonth
  rw [h.firstOfMonth_eq, hyear, hmonth]

/-- A month has at most 31 days. -/
theorem le_firstOfMonth_add (d : Date) : d.ordinal ≤ d.firstOfMonth.ordinal + 30 := by
  by_cases h : 1 ≤ d.ordinal
  · obtain ⟨year, i, j, hcivil⟩ := exists_civil h
    have hlength := (monthLength_bounds hcivil.month_lt).2
    have hday := hcivil.day_lt
    have hplace := hcivil.ordinal
    rw [hcivil.firstOfMonth_eq]
    omega
  · omega

theorem lt_nextMonth (h : 1 ≤ d.ordinal) : d.ordinal < d.nextMonth := by
  obtain ⟨year, i, j, hcivil⟩ := exists_civil h
  have hday := hcivil.day_lt
  have hplace := hcivil.ordinal
  rw [hcivil.nextMonth_eq]
  omega

/-- Until the next month begins, the first of the month stays. -/
theorem firstOfMonth_of_lt_nextMonth (h : 1 ≤ d.ordinal) (hle : d.ordinal ≤ e.ordinal)
    (hlt : e.ordinal < d.nextMonth) : e.firstOfMonth.ordinal = d.firstOfMonth.ordinal := by
  obtain ⟨year, i, j, hcivil⟩ := exists_civil h
  have hplace := hcivil.ordinal
  rw [hcivil.nextMonth_eq] at hlt
  have hsame : e.Civil year i (j + (e.ordinal - d.ordinal)) :=
    ⟨hcivil.year_pos, hcivil.month_lt, by omega, by omega⟩
  rw [hsame.firstOfMonth_eq, hcivil.firstOfMonth_eq]

/-- The next month begins with a first of the month: in the same year or, after December, in the next
one. -/
theorem firstOfMonth_nextMonth (h : 1 ≤ d.ordinal) :
    (firstOfMonth ⟨d.nextMonth⟩).ordinal = d.nextMonth := by
  obtain ⟨year, i, j, hcivil⟩ := exists_civil h
  have hnext := hcivil.nextMonth_eq
  have hfirst : ∃ year i, Civil ⟨d.nextMonth⟩ year i 0 := by
    have htake := sum_take_succ hcivil.month_lt
    have hpos : ∀ {year i : Nat}, i < (monthLengths year).length → 0 < monthLength year (i + 1) :=
      fun hi => (monthLength_bounds hi).1
    by_cases hlast : i + 1 < (monthLengths year).length
    · exact ⟨year, i + 1, hcivil.year_pos, hlast, hpos hlast, by dsimp only; omega⟩
    · have hyear := yearStart_succ hcivil.year_pos
      have hall : (monthLengths year).take (i + 1) = monthLengths year :=
        List.take_of_length_le (Nat.le_of_not_lt hlast)
      rw [hall] at htake
      refine ⟨year + 1, 0, Nat.le_add_left 1 year, Nat.succ_pos _, hpos (Nat.succ_pos _), ?_⟩
      simp only [List.take_zero, List.sum_nil]
      omega
  obtain ⟨year', i', hfirst⟩ := hfirst
  have hplace := hfirst.ordinal
  rw [hfirst.firstOfMonth_eq]
  exact hplace.symm

/-- The first of the month is later than a day of an earlier month exactly from the next month on. -/
theorem lt_firstOfMonth_iff (h : 1 ≤ d.ordinal) (hle : d.ordinal ≤ e.ordinal) {o : Nat}
    (hfirst : d.firstOfMonth.ordinal ≤ o) (ho : o ≤ d.ordinal) :
    o < e.firstOfMonth.ordinal ↔ d.nextMonth ≤ e.ordinal := by
  constructor
  · intro hlt
    refine Nat.le_of_not_lt fun hsame => ?_
    rw [firstOfMonth_of_lt_nextMonth h hle hsame] at hlt
    omega
  · intro hnext
    have hmono : (firstOfMonth ⟨d.nextMonth⟩).ordinal ≤ e.firstOfMonth.ordinal :=
      firstOfMonth_mono hnext
    rw [firstOfMonth_nextMonth h] at hmono
    have hlater := lt_nextMonth h
    omega

end Date

end Watchgate.Calendar
