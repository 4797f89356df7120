import Watchgate.Proofs.Calendar.Month
import Watchgate.Quota.Tracker

/-!
# Windows of quotas

The window of a period ends today and starts on a day that never goes back, although windows of a
month jump and the others slide. A start before the first day of the calendar is allowed here; there
the window itself does not exist.
-/

namespace Watchgate

open Calendar

namespace Period

/-- The first day of the window of today, in or before the calendar. -/
def firstDay (p : Period) (today : Date) : Int :=
  match p with
  | .daily => today.ordinal
  | .weeklyRolling => today.ordinal - 6
  | .monthly => today.firstOfMonth.ordinal

/-- The first day of the window never goes back. -/
theorem firstDay_mono (p : Period) {d e : Date} (h : d.ordinal ≤ e.ordinal) :
    p.firstDay d ≤ p.firstDay e := by
  cases p with
  | daily => exact Int.ofNat_le.2 h
  | weeklyRolling => exact Int.sub_le_sub_right (Int.ofNat_le.2 h) 6
  | monthly => exact Int.ofNat_le.2 (Date.firstOfMonth_mono h)

/-- The window holds the days from the first one until today. -/
theorem contains_window {p : Period} {today : Date} {w : Window} (h : p.window today = .ok w)
    (d : Date) : w.contains d = true ↔ p.firstDay today ≤ d.ordinal ∧ d.ordinal ≤ today.ordinal := by
  have hcontains : ∀ start stop : Date, Window.contains ⟨start, stop⟩ d = true
      ↔ start.ordinal ≤ d.ordinal ∧ d.ordinal ≤ stop.ordinal := by
    intro start stop
    simp [Window.contains]
  cases p with
  | daily =>
    obtain rfl := Except.ok.inj h
    rw [hcontains]
    simp only [firstDay, Int.ofNat_le]
  | monthly =>
    obtain rfl := Except.ok.inj h
    rw [hcontains]
    simp only [firstDay, Int.ofNat_le]
  | weeklyRolling =>
    simp only [window] at h
    cases hstart : today.addDays? (-6) with
    | none =>
      rw [hstart] at h
      cases h
    | some start =>
      rw [hstart] at h
      obtain rfl := Except.ok.inj h
      have hfirst := Date.addDays?_ok hstart
      rw [hcontains]
      simp only [firstDay]
      omega

theorem firstDay_le (p : Period) (today : Date) : p.firstDay today ≤ today.ordinal := by
  cases p with
  | daily => exact Int.le_refl _
  | weeklyRolling =>
    show (today.ordinal : Int) - 6 ≤ today.ordinal
    omega
  | monthly => exact Int.ofNat_le.2 today.firstOfMonth_le

/-- Where the reset of a request is in the calendar, so is that of any earlier one. -/
theorem reset_of_earlier {p : Period} {today latest : Date} {oldest : Option Date}
    (h : ∃ t, p.reset today (some latest) = .ok t) (hle : ∀ d ∈ oldest, d.ordinal ≤ latest.ordinal) :
    ∃ t, p.reset today oldest = .ok t := by
  unfold reset at *
  cases p with
  | daily => exact h
  | monthly => exact h
  | weeklyRolling =>
    cases oldest with
    | none => exact ⟨none, rfl⟩
    | some d =>
      have hle : d.ordinal ≤ latest.ordinal := hle d rfl
      obtain ⟨t, ht⟩ := h
      dsimp only at ht ⊢
      cases hnext : latest.addDays? 7 with
      | none =>
        rw [hnext] at ht
        cases ht
      | some e =>
        have hlater := Date.addDays?_ok hnext
        have hlast := (Date.inCalendar_of_addDays? hnext).2
        have hd : d.addDays? 7 = some ⟨d.ordinal + 7⟩ := by
          apply Date.addDays?_eq <;> omega
        rw [hd]
        exact ⟨_, rfl⟩

end Period

theorem periodOf_word (p : Period) : periodOf (.text p.word) = .ok p := by
  cases p <;> rfl

/-- An integer limit is used up by as many requests. -/
theorem Quota.reaches_int (usage : Nat) (limit : Int) :
    reaches usage (.int limit) = .ok (decide (limit ≤ usage)) := by
  have horder : Value.order? (.int usage) (.int limit)
      = some (some (compare (usage : Int) limit)) := by
    unfold Value.order?
    rfl
  unfold reaches
  rw [horder]
  by_cases h : limit ≤ usage
  · have hnot : compare (usage : Int) limit ≠ .lt := by
      intro hlt
      have := Std.compare_eq_lt.1 hlt
      omega
    simp [h, hnot]
  · have hlt : compare (usage : Int) limit = .lt := Std.compare_eq_lt.2 (by omega)
    simp [h, hlt]

end Watchgate
