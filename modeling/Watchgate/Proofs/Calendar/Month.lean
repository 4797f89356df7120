import Watchgate.Calendar.Moment

/-!
# The order of days and months

The year read off a day is the one the day lies in, so the first of the month never goes back when
days go on. Months are counted from the first of January by their lengths, whatever these are.
-/

namespace Watchgate.Calendar

theorem date_mono {t u : Moment} (h : t.micros ≤ u.micros) : t.date.ordinal ≤ u.date.ordinal :=
  Nat.div_le_div_right h

/-- A day that the calendar has. -/
def Date.InCalendar (d : Date) : Prop := 1 ≤ d.ordinal ∧ d.ordinal ≤ lastOrdinal

theorem Date.inCalendar_of_addDays? {d e : Date} {n : Int} (h : d.addDays? n = some e) :
    e.InCalendar := by
  unfold Date.addDays? at h
  dsimp only at h
  split at h
  · rename_i hcalendar
    simp only [Bool.and_eq_true, decide_eq_true_eq] at hcalendar
    obtain rfl := Option.some.inj h
    constructor <;> dsimp only <;> omega
  · cases h

/-- A day that is some days later lies as far from the first day. -/
theorem Date.addDays?_ok {d e : Date} {n : Int} (h : d.addDays? n = some e) :
    (e.ordinal : Int) = d.ordinal + n := by
  unfold Date.addDays? at h
  dsimp only at h
  split at h
  · rename_i hcalendar
    obtain ⟨hfirst, -⟩ := (Bool.and_eq_true _ _).mp hcalendar
    have hfirst := of_decide_eq_true hfirst
    obtain rfl := Option.some.inj h
    change ((((d.ordinal : Int) + n).toNat : Nat) : Int) = d.ordinal + n
    omega
  · cases h

theorem Date.addDays?_eq {d : Date} {n : Int} {m : Nat} (h : (m : Int) = d.ordinal + n)
    (hfirst : 1 ≤ m) (hlast : m ≤ lastOrdinal) : d.addDays? n = some ⟨m⟩ := by
  have hcalendar : (1 : Int) ≤ m ∧ (m : Int) ≤ lastOrdinal :=
    ⟨Int.ofNat_le.2 hfirst, Int.ofNat_le.2 hlast⟩
  unfold Date.addDays?
  rw [← h]
  simp [hcalendar]

/-! ## Years -/

theorem yearStart_le_succ (y : Nat) : yearStart y ≤ yearStart (y + 1) := by
  dsimp only [yearStart]
  omega

theorem yearStart_mono {y z : Nat} (h : y ≤ z) : yearStart y ≤ yearStart z := by
  induction h with
  | refl => exact Nat.le_refl _
  | step _ ih => exact Nat.le_trans ih (yearStart_le_succ _)

/-- The mean length of a year is off by less than a year. -/
theorem guess_bounds (n : Nat) :
    yearStart (n * 400 / 146097) ≤ n + 1 ∧ n + 1 < yearStart (n * 400 / 146097 + 3) := by
  dsimp only [yearStart]
  omega

/-- A day lies in its year. -/
theorem yearOf_bounds {o : Nat} (h : 1 ≤ o) :
    yearStart (yearOf o) ≤ o ∧ o < yearStart (yearOf o + 1) := by
  obtain ⟨n, rfl⟩ := Nat.exists_eq_add_of_le' h
  -- the guess is the year itself, the one before or the one after
  obtain ⟨hlow, hhigh⟩ := guess_bounds n
  unfold yearOf
  rw [Nat.add_sub_cancel]
  generalize n * 400 / 146097 = p at hlow hhigh
  dsimp only
  by_cases hbefore : n + 1 < yearStart (p + 1)
  · rw [if_pos hbefore, Nat.add_sub_cancel]
    exact ⟨hlow, hbefore⟩
  · rw [if_neg hbefore]
    by_cases hafter : yearStart (p + 1 + 1) ≤ n + 1
    · rw [if_pos hafter]
      exact ⟨hafter, hhigh⟩
    · rw [if_neg hafter]
      omega

theorem yearOf_mono {o o' : Nat} (h : 1 ≤ o) (hle : o ≤ o') : yearOf o ≤ yearOf o' := by
  refine Nat.le_of_not_lt fun hlt => ?_
  have hstart := (yearOf_bounds h).1
  have hend := (yearOf_bounds (Nat.le_trans h hle)).2
  have hyears : yearStart (yearOf o' + 1) ≤ yearStart (yearOf o) := yearStart_mono hlt
  omega

/-! ## Months -/

theorem monthAndDay_pos (month : Nat) (lengths : List Nat) (rest : Nat) :
    1 ≤ (monthAndDay month lengths rest).2 ∧ (monthAndDay month lengths rest).2 ≤ rest + 1 := by
  induction lengths generalizing month rest with
  | nil => exact ⟨Nat.le_add_left 1 rest, Nat.le_refl _⟩
  | cons length lengths ih =>
    rw [monthAndDay]
    split
    · exact ⟨Nat.le_add_left 1 rest, Nat.le_refl _⟩
    · have := ih (month + 1) (rest - length)
      omega

/-- How far the first of the month is into the months never goes back. -/
theorem monthStart_mono (month : Nat) (lengths : List Nat) {rest rest' : Nat} (h : rest ≤ rest') :
    rest + 1 - (monthAndDay month lengths rest).2
      ≤ rest' + 1 - (monthAndDay month lengths rest').2 := by
  induction lengths generalizing month rest rest' with
  | nil =>
    simp only [monthAndDay]
    omega
  | cons length lengths ih =>
    rw [monthAndDay, monthAndDay]
    by_cases hrest : rest < length
    · rw [if_pos hrest]
      omega
    · have hrest' : ¬ rest' < length := by omega
      rw [if_neg hrest, if_neg hrest']
      have hle := ih (month + 1) (Nat.sub_le_sub_right h length)
      have hday := monthAndDay_pos (month + 1) lengths (rest - length)
      have hday' := monthAndDay_pos (month + 1) lengths (rest' - length)
      omega

namespace Date

theorem firstOfMonth_le (d : Date) : d.firstOfMonth.ordinal ≤ d.ordinal := Nat.sub_le _ _

theorem day_bounds (d : Date) : 1 ≤ d.day ∧ d.day ≤ d.ordinal - yearStart d.year + 1 :=
  monthAndDay_pos 1 _ _

/-- The first of the month is in the year of the day. -/
theorem yearStart_le_firstOfMonth {d : Date} (h : 1 ≤ d.ordinal) :
    yearStart d.year ≤ d.firstOfMonth.ordinal := by
  have hyear : yearStart d.year ≤ d.ordinal := (yearOf_bounds h).1
  have hday := d.day_bounds
  change _ ≤ d.ordinal - (d.day - 1)
  omega

/-- When days go on, the first of their month does not go back. -/
theorem firstOfMonth_mono {d e : Date} (h : d.ordinal ≤ e.ordinal) :
    d.firstOfMonth.ordinal ≤ e.firstOfMonth.ordinal := by
  by_cases hd : 1 ≤ d.ordinal
  · have he : 1 ≤ e.ordinal := Nat.le_trans hd h
    have hyears : d.year ≤ e.year := yearOf_mono hd h
    rcases Nat.lt_or_eq_of_le hyears with hlt | heq
    · calc d.firstOfMonth.ordinal
          ≤ d.ordinal := d.firstOfMonth_le
        _ ≤ yearStart (d.year + 1) := Nat.le_of_lt (yearOf_bounds hd).2
        _ ≤ yearStart e.year := yearStart_mono hlt
        _ ≤ e.firstOfMonth.ordinal := yearStart_le_firstOfMonth he
    · -- in one year the lengths of the months are the same for both days
      have hmonths := monthStart_mono 1 (monthLengths e.year)
        (Nat.sub_le_sub_right h (yearStart e.year))
      have hyear : yearStart e.year ≤ d.ordinal := heq ▸ (yearOf_bounds hd).1
      have hday := d.day_bounds
      have hday' := e.day_bounds
      have hofDay : d.day = (monthAndDay 1 (monthLengths e.year)
          (d.ordinal - yearStart e.year)).2 := by rw [← heq]; rfl
      have hofDay' : e.day = (monthAndDay 1 (monthLengths e.year)
          (e.ordinal - yearStart e.year)).2 := rfl
      rw [← hofDay, ← hofDay'] at hmonths
      rw [heq] at hday
      change d.ordinal - (d.day - 1) ≤ e.ordinal - (e.day - 1)
      omega
  · have hzero := d.firstOfMonth_le
    omega

end Date

end Watchgate.Calendar
