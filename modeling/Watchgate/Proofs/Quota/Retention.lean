import Watchgate.Proofs.Calendar.Civil
import Watchgate.Proofs.Quota.Reckoning

/-!
# How long counted requests are needed

The earliest day that any window reaches back to is the first of a month of 31 days, seen from its last
day. Rows that are more than thirty days old are therefore in no window of today, and dropping them
changes no status, whereas a row of thirty days ago may still count.
-/

namespace Watchgate

open Act Calendar Store

/-- A window goes back thirty days at most. -/
theorem Period.le_firstDay_add (p : Period) (today : Date) :
    (today.ordinal : Int) ≤ p.firstDay today + 30 := by
  cases p with
  | daily =>
    show (today.ordinal : Int) ≤ today.ordinal + 30
    omega
  | weeklyRolling =>
    show (today.ordinal : Int) ≤ today.ordinal - 6 + 30
    omega
  | monthly =>
    have hmonth := today.le_firstOfMonth_add
    show (today.ordinal : Int) ≤ today.firstOfMonth.ordinal + 30
    omega

namespace Quota

theorem status_of_cleanup {days : Int} (h : 30 ≤ days) (userId : Int) (contentType : Value)
    (s : Session) :
    (status userId contentType (cleanup days s).2).1 = (status userId contentType s).1 := by
  rcases cleanup_cases days s with ⟨day, hday, hs⟩ | hs
  · have hnow : (cleanup days s).2.now.date = s.now.date := congrArg Moment.date hs.now
    have hout : (cleanup days s).2.outages = s.outages := hs.outages
    apply status_alike hout hnow
    · rw [hs.store]
      rfl
    · intro p w hw userId contentType
      rw [hs.store]
      apply usageIn_dropUsageBefore
      intro d hd
      have hfirst := ((Period.contains_window hw d).1 hd).1
      have hback := p.le_firstDay_add s.now.date
      have hdropped := Date.addDays?_ok hday
      omega
  · apply status_alike hs.outages (congrArg Moment.date hs.now)
    · rw [hs.store]
    · intro p w hw userId contentType
      rw [hs.store]

/-- One film a month. -/
def oneFilm : Quota := ⟨1, .text "movie", .text "monthly", .int 1, false⟩

/-- The last of January, with the requests counted so far. -/
def lastOfJanuary (rows : List Usage) : Session where
  now := .ofDate ⟨738916⟩
  store := { quotas := [oneFilm], usage := rows }

theorem status_lastOfJanuary {s : Session} {rows : List Usage}
    (hs : (lastOfJanuary rows).SameRecords s) :
    ∃ answer, status 1 (.text "movie") s = (.ok (some answer), s) ∧ answer.usage =
      (rows.filter fun u => counts 1 "movie" u &&
        Window.contains ⟨⟨738886⟩, ⟨738916⟩⟩ u.date).length := by
  have hdate : s.now.date = ⟨738916⟩ := by
    rw [hs.now]
    show (Moment.ofDate ⟨738916⟩).date = ⟨738916⟩
    decide
  have hw : Period.monthly.window s.now.date = .ok ⟨⟨738886⟩, ⟨738916⟩⟩ := by
    rw [hdate]
    rfl
  have hq : s.store.getQuota 1 (.text "movie") = .ok (some oneFilm) := by
    rw [hs.store]
    rfl
  have hnext : Date.firstOfNextMonth? ⟨738916⟩ = some ⟨738917⟩ := by decide
  have hreset : ∀ oldest, Period.monthly.reset ⟨738916⟩ oldest
      = .ok (some (.ofDate ⟨738917⟩)) := by
    intro oldest
    unfold Period.reset
    dsimp only
    rw [hnext]
  have hlimit : oneFilm.bypass = false → ∀ n, ∃ b, reaches n oneFilm.limit = .ok b :=
    fun _ n => ⟨_, reaches_int n 1⟩
  have hstatus := status_eq_reckon (hs.outages.trans rfl) hq rfl hw (Column.text_text _)
  have hrows : s.store.usage = rows := by
    rw [hs.store]
    rfl
  rw [hrows, hdate] at hstatus
  obtain ⟨answer, hreckon, husage, -⟩ := reckon_ok hlimit (hreset _)
  exact ⟨answer, by rw [hstatus, hreckon]; rfl, husage⟩

/-- Dropping the rows of more than so many days ago leaves every status as it is from thirty days on; for
fewer days there are rows that still count and are dropped. -/
theorem retention_safe_from_thirty_days (days : Int) :
    (30 ≤ days → ∀ userId contentType s,
      (status userId contentType (cleanup days s).2).1 = (status userId contentType s).1) ∧
    (0 ≤ days → days < 30 → ∃ userId contentType s s₁ s₂ answer answer',
      status userId contentType s = (.ok (some answer), s₁) ∧
      status userId contentType (cleanup days s).2 = (.ok (some answer'), s₂) ∧
      answer'.usage < answer.usage) := by
  refine ⟨?long, ?short⟩
  case long => exact fun h userId contentType s => status_of_cleanup h userId contentType s
  case short =>
    intro hpos hfew
    let s := lastOfJanuary [⟨1, "movie", ⟨738886⟩⟩]
    have hday : s.now.date.addDays? (-days) = some ⟨738916 - days.toNat⟩ := by
      have hdate : s.now.date = ⟨738916⟩ := by decide
      rw [hdate]
      apply Date.addDays?_eq
      · dsimp only
        omega
      · omega
      · exact Nat.le_trans (Nat.sub_le _ _) (by decide)
    have hkept : (s.store.dropUsageBefore ⟨738916 - days.toNat⟩).2 = (lastOfJanuary []).store := by
      have hgone : 738886 + days.toNat < 738916 := by omega
      simp [Store.dropUsageBefore, s, lastOfJanuary, hgone]
    obtain ⟨entries, -, hcleanup⟩ := cleanup_counts rfl hday
    have hafter : (lastOfJanuary []).SameRecords (cleanup days s).2 := by
      rw [hcleanup, hkept]
      exact (lastOfJanuary []).sameRecords_journal _
    obtain ⟨answer, hbefore, hone⟩ := status_lastOfJanuary (.refl s)
    obtain ⟨answer', hlater, hnone⟩ := status_lastOfJanuary hafter
    refine ⟨1, .text "movie", s, _, _, answer, answer', hbefore, hlater, ?_⟩
    rw [hone, hnone]
    decide

/-- For instance, the days that are kept unless configured otherwise, and one day too few. -/
theorem retention_safe_by_default :
    let s := lastOfJanuary [⟨1, "movie", ⟨738886⟩⟩]
    (status 1 (.text "movie") (cleanup defaultRetentionDays s).2).1
        = (status 1 (.text "movie") s).1 ∧
      ∃ userId contentType s s₁ s₂ answer answer',
        status userId contentType s = (.ok (some answer), s₁) ∧
        status userId contentType (cleanup 29 s).2 = (.ok (some answer'), s₂) ∧
        answer'.usage < answer.usage :=
  ⟨(retention_safe_from_thirty_days defaultRetentionDays).1 (by decide) _ _ _,
    (retention_safe_from_thirty_days 29).2 (by decide) (by decide)⟩

end Quota

end Watchgate
