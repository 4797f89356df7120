import Watchgate.Proofs.Calendar.Civil
import Watchgate.Proofs.Quota.Reckoning

/-!
# The day on which usage drops

The window and the reset of a period are computed apart. They fit together: a request that counts today
leaves the windows of later days exactly on its day of lapse (`Period.lt_firstDay_iff`), and the reset
is the lapse of the oldest one. Until then all requests of today count, and from then on one of them
does not.
-/

namespace Watchgate

open Act Calendar Store

namespace Period

/-- The number of the day on which a request of the day `oldest` no longer counts, if it counts today. -/
def lapse (p : Period) (today oldest : Date) : Nat :=
  match p with
  | .daily => today.ordinal + 1
  | .weeklyRolling => oldest.ordinal + 7
  | .monthly => today.nextMonth

variable {p : Period} {today oldest e : Date}

theorem lt_firstDay_iff (hpos : 1 ≤ today.ordinal) (hfirst : p.firstDay today ≤ oldest.ordinal)
    (hpast : oldest.ordinal ≤ today.ordinal) (hlater : today.ordinal ≤ e.ordinal) :
    (oldest.ordinal : Int) < p.firstDay e ↔ p.lapse today oldest ≤ e.ordinal := by
  cases p with
  | daily =>
    simp only [firstDay] at hfirst
    simp only [firstDay, lapse]
    omega
  | weeklyRolling =>
    simp only [firstDay, lapse]
    omega
  | monthly =>
    simp only [firstDay, Int.ofNat_le] at hfirst
    simp only [firstDay, lapse, Int.ofNat_lt]
    exact Date.lt_firstOfMonth_iff hpos hlater hfirst hpast

theorem reset_of_lapse (hpos : 1 ≤ today.ordinal) (hlast : p.lapse today oldest ≤ lastOrdinal) :
    p.reset today (some oldest) = .ok (some (.ofDate ⟨p.lapse today oldest⟩)) := by
  unfold reset lapse at *
  cases p with
  | daily =>
    have hnext : today.addDays? 1 = some ⟨today.ordinal + 1⟩ :=
      Date.addDays?_eq (Int.natCast_add _ _) (Nat.le_add_left 1 _) hlast
    dsimp only
    rw [hnext]
  | weeklyRolling =>
    have hnext : oldest.addDays? 7 = some ⟨oldest.ordinal + 7⟩ := by
      apply Date.addDays?_eq (Int.natCast_add _ _) _ hlast
      omega
    dsimp only
    rw [hnext]
  | monthly =>
    dsimp only
    rw [Date.firstOfNextMonth?_eq hpos hlast]

/-- The days that have a window: for a week, seven days of the calendar are over. -/
theorem exists_window {day : Date} (hlast : day.ordinal ≤ lastOrdinal)
    (hweek : p = .weeklyRolling → 7 ≤ day.ordinal) : ∃ w, p.window day = .ok w := by
  cases p with
  | daily => exact ⟨_, rfl⟩
  | monthly => exact ⟨_, rfl⟩
  | weeklyRolling =>
    have hday : 7 ≤ day.ordinal := hweek rfl
    have hstart : day.addDays? (-6) = some ⟨day.ordinal - 6⟩ := by
      apply Date.addDays?_eq <;> omega
    refine ⟨⟨⟨day.ordinal - 6⟩, day⟩, ?_⟩
    simp only [window, hstart]

end Period

namespace Quota

/-- How many requests count on a day. -/
def countOn (p : Period) (userId : Int) (contentType : Value) (s : Store) (day : Date) :
    Except Failure Nat := do
  s.countUsage userId contentType (← p.window day)

/-- The first day after today on which fewer requests count; up to the day before they are as many. -/
structure FirstDrop (count : Date → Except Failure Nat) (today d : Date) : Prop where
  later : today.ordinal < d.ordinal
  fewer : ∃ m n, count d = .ok m ∧ count today = .ok n ∧ m < n
  steady : ∀ e, today.ordinal ≤ e.ordinal → e.ordinal < d.ordinal → count e = count today

variable {userId : Int} {contentType : Value} {stored : String} {q : Quota} {p : Period}
  {w : Window} {s : Session}

/-- Without new requests, those count later that count today and are still in the window. -/
theorem countOn_later (hid : Column.checked userId = .ok userId)
    (hstored : Column.text contentType = .ok (.text stored)) {store : Store} {today e : Date}
    {w w' : Window} (hw : p.window today = .ok w) (he : p.window e = .ok w')
    (hlater : today.ordinal ≤ e.ordinal) (hpast : ∀ u ∈ store.usage, u.date.ordinal ≤ today.ordinal) :
    countOn p userId contentType store e
      = .ok ((store.usage.filter fun u => counts userId stored u && w.contains u.date).countP
          fun u => p.firstDay e ≤ u.date.ordinal) := by
  have hcount : countOn p userId contentType store e = store.countUsage userId contentType w' := by
    unfold countOn
    rw [he]
    rfl
  rw [hcount, Store.countUsage, usageIn_eq_filter hid hstored, List.countP_filter]
  show Except.ok _ = Except.ok _
  rw [← List.countP_eq_length_filter]
  congr 1
  apply List.countP_congr
  intro u hu
  have hpassed : u.date.ordinal ≤ today.ordinal := hpast u hu
  have hslide : p.firstDay today ≤ p.firstDay e := p.firstDay_mono hlater
  simp only [Bool.and_eq_true, decide_eq_true_eq, Period.contains_window he,
    Period.contains_window hw]
  constructor
  · rintro ⟨hcounts, hfirst, -⟩
    exact ⟨hfirst, hcounts, by omega, by omega⟩
  · rintro ⟨hfirst, hcounts, -, -⟩
    exact ⟨hcounts, hfirst, by omega⟩

theorem countOn_today (hid : Column.checked userId = .ok userId)
    (hstored : Column.text contentType = .ok (.text stored)) {store : Store} {today : Date}
    (hw : p.window today = .ok w) :
    countOn p userId contentType store today
      = .ok (store.usage.filter fun u => counts userId stored u && w.contains u.date).length := by
  unfold countOn
  rw [hw]
  show store.countUsage userId contentType w = _
  rw [Store.countUsage, usageIn_eq_filter hid hstored]
  rfl

/-- The lapse of the oldest request that counts today is the first day on which fewer count. -/
theorem firstDrop_lapse (hid : Column.checked userId = .ok userId)
    (hstored : Column.text contentType = .ok (.text stored)) {store : Store} {today oldest : Date}
    (hday : today.InCalendar) (hweek : p = .weeklyRolling → 7 ≤ today.ordinal)
    (hw : p.window today = .ok w) (hpast : ∀ u ∈ store.usage, u.date.ordinal ≤ today.ordinal)
    (holdest : earliest? (store.usage.filter fun u => counts userId stored u && w.contains u.date)
      = some oldest) :
    (p.lapse today oldest ≤ lastOrdinal →
      FirstDrop (countOn p userId contentType store) today ⟨p.lapse today oldest⟩) ∧
    ∀ e m n, e.InCalendar → today.ordinal < e.ordinal →
      countOn p userId contentType store today = .ok n →
      countOn p userId contentType store e = .ok m → m < n → p.lapse today oldest ≤ e.ordinal := by
  generalize hrows : (store.usage.filter fun u => counts userId stored u && w.contains u.date)
    = rows at holdest
  obtain ⟨⟨u, hu, rfl⟩, hleast⟩ := earliest?_spec holdest
  have hwindow : w.contains u.date = true := by
    rw [← hrows, List.mem_filter, Bool.and_eq_true] at hu
    exact hu.2.2
  obtain ⟨hfirst, hpassed⟩ := (Period.contains_window hw u.date).1 hwindow
  have hlapse : ∀ {e : Date}, today.ordinal ≤ e.ordinal →
      ((u.date.ordinal : Int) < p.firstDay e ↔ p.lapse today u.date ≤ e.ordinal) :=
    fun hlater => Period.lt_firstDay_iff hday.1 hfirst hpassed hlater
  have hcount : ∀ e : Date, e.ordinal ≤ lastOrdinal → today.ordinal ≤ e.ordinal →
      countOn p userId contentType store e
        = .ok (rows.countP fun u => p.firstDay e ≤ u.date.ordinal) := by
    intro e hlast hlater
    have hweek' : p = .weeklyRolling → 7 ≤ e.ordinal := fun hp =>
      Nat.le_trans (hweek hp) hlater
    obtain ⟨w', he⟩ := Period.exists_window hlast hweek'
    exact hrows ▸ countOn_later hid hstored hw he hlater hpast
  have htoday : countOn p userId contentType store today = .ok rows.length :=
    hrows ▸ countOn_today hid hstored hw
  -- before the lapse of the oldest row all rows are in the window; the rest is about that row
  have hsteady : ∀ e : Date, e.ordinal ≤ lastOrdinal → today.ordinal ≤ e.ordinal →
      e.ordinal < p.lapse today u.date → countOn p userId contentType store e = .ok rows.length := by
    intro e hlast hlater hbefore
    have hfirst' : p.firstDay e ≤ u.date.ordinal := by
      have hkept := mt (hlapse hlater).1 (by omega)
      omega
    rw [hcount e hlast hlater]
    congr 1
    rw [List.countP_eq_length]
    intro v hv
    have hle : u.date.ordinal ≤ v.date.ordinal := hleast v hv
    simp only [decide_eq_true_eq]
    omega
  constructor
  · intro hlast
    have hlater : today.ordinal < p.lapse today u.date := by
      by_contra hnot
      have hgone := (hlapse (Nat.le_refl _)).2 (Nat.le_of_not_lt hnot)
      omega
    have hcalendar : ∀ e : Date, e.ordinal < p.lapse today u.date → e.ordinal ≤ lastOrdinal :=
      fun e he => by omega
    refine ⟨hlater, ⟨_, _, hcount _ hlast (Nat.le_of_lt hlater), htoday, ?_⟩, ?_⟩
    · have hgone : (u.date.ordinal : Int) < p.firstDay ⟨p.lapse today u.date⟩ :=
        (hlapse (Nat.le_of_lt hlater)).2 (Nat.le_refl _)
      apply Nat.lt_of_le_of_ne List.countP_le_length
      intro hsame
      have hall := List.countP_eq_length.1 hsame
      have hkept := of_decide_eq_true (hall u hu)
      omega
    · intro e hle hlt
      rw [hsteady e (hcalendar e hlt) hle hlt, htoday]
  · intro e m n hlast hlater hn hm hlt
    by_contra hbefore
    have hsame := hsteady e hlast.2 (Nat.le_of_lt hlater) (Nat.lt_of_not_le hbefore)
    rw [htoday] at hn
    rw [hsame] at hm
    obtain rfl := Except.ok.inj hn
    obtain rfl := Except.ok.inj hm
    exact absurd hlt (Nat.lt_irrefl _)

/-- The reset is midnight of the first day on which fewer requests count than today, if the calendar has
such a day. For a rolling period there is no reset while nothing counts. -/
theorem reset_at_first_drop (ho : s.outages = [])
    (hq : s.store.getQuota userId contentType = .ok (some q)) (hp : periodOf q.period = .ok p)
    (hlimit : q.bypass = false → ∀ n, ∃ b, reaches n q.limit = .ok b)
    (hday : s.now.date.InCalendar) (hweek : p = .weeklyRolling → 7 ≤ s.now.date.ordinal)
    (hpast : ∀ u ∈ s.store.usage, u.date.ordinal ≤ s.now.date.ordinal) :
    ((∃ e m n, e.InCalendar ∧ s.now.date.ordinal < e.ordinal ∧
        countOn p userId contentType s.store s.now.date = .ok n ∧
        countOn p userId contentType s.store e = .ok m ∧ m < n) →
      ∃ answer d, status userId contentType s = (.ok (some answer), s) ∧
        answer.reset = some (.ofDate d) ∧
        FirstDrop (countOn p userId contentType s.store) s.now.date d) ∧
    (p = .weeklyRolling → countOn p userId contentType s.store s.now.date = .ok 0 →
      ∃ answer, status userId contentType s = (.ok (some answer), s) ∧ answer.reset = none) := by
  obtain ⟨hid, -, stored, hstored, -⟩ := getQuota_some hq
  obtain ⟨w, hw⟩ := Period.exists_window hday.2 hweek
  have hstatus := status_eq_reckon ho hq hp hw hstored
  have htoday : countOn p userId contentType s.store s.now.date = _ := countOn_today hid hstored hw
  have hdrop := fun oldest =>
    @firstDrop_lapse _ _ _ _ _ hid hstored s.store _ oldest hday hweek hw hpast
  generalize (s.store.usage.filter fun u => counts userId stored u && w.contains u.date) = rows
    at hstatus htoday hdrop
  refine ⟨?dropping, ?idle⟩
  case dropping =>
    rintro ⟨e, m, n, he, hlater, hn, hm, hlt⟩
    cases holdest : earliest? rows with
    | none =>
      rw [htoday, earliest?_eq_none.1 holdest] at hn
      obtain rfl := Except.ok.inj hn
      cases hlt
    | some oldest =>
      obtain ⟨hfirst, hleast⟩ := hdrop oldest holdest
      have hlast : p.lapse s.now.date oldest ≤ lastOrdinal :=
        Nat.le_trans (hleast e m n he hlater hn hm hlt) he.2
      have hreset : p.reset s.now.date (earliest? rows) = _ :=
        holdest ▸ Period.reset_of_lapse hday.1 hlast
      obtain ⟨answer, hreckon, -, hanswer⟩ := reckon_ok hlimit hreset
      exact ⟨answer, _, by rw [hstatus, hreckon]; rfl, hanswer, hfirst hlast⟩
  case idle =>
    rintro rfl hnone
    rw [htoday] at hnone
    have hempty : rows = [] := List.eq_nil_of_length_eq_zero (Except.ok.inj hnone)
    have hreset : Period.weeklyRolling.reset s.now.date (earliest? rows) = .ok none := by
      rw [hempty]
      rfl
    obtain ⟨answer, hreckon, -, hanswer⟩ := reckon_ok hlimit hreset
    exact ⟨answer, by rw [hstatus, hreckon]; rfl, hanswer⟩

/-- For instance, two films were counted in the last seven days; the older one leaves the window first. -/
theorem reset_at_first_drop_of_two_films :
    let q : Quota := ⟨1, .text "movie", .text "weekly_rolling", .int 5, false⟩
    let s : Session := {
      now := .ofDate ⟨738959⟩
      store := {
        quotas := [q]
        usage := [⟨1, "movie", ⟨738957⟩⟩, ⟨1, "movie", ⟨738954⟩⟩, ⟨1, "show", ⟨738950⟩⟩] } }
    ∃ answer d, status 1 (.text "movie") s = (.ok (some answer), s) ∧
      answer.reset = some (.ofDate d) ∧
      FirstDrop (countOn .weeklyRolling 1 (.text "movie") s.store) s.now.date d := by
  intro q s
  have hq : s.store.getQuota 1 (.text "movie") = .ok (some q) := rfl
  have hday : s.now.date.InCalendar := ⟨by decide, by decide⟩
  have hpast : ∀ u ∈ s.store.usage, u.date.ordinal ≤ s.now.date.ordinal := by decide
  have hlimit : q.bypass = false → ∀ n, ∃ b, reaches n q.limit = .ok b :=
    fun _ n => ⟨_, reaches_int n 5⟩
  have hdate : s.now.date = ⟨738959⟩ := by decide
  have htoday : countOn .weeklyRolling 1 (.text "movie") s.store s.now.date = .ok 2 := by
    rw [hdate]
    rfl
  have hlater : countOn .weeklyRolling 1 (.text "movie") s.store ⟨738961⟩ = .ok 1 := rfl
  apply (reset_at_first_drop rfl hq rfl hlimit hday (fun _ => by decide) hpast).1
  exact ⟨⟨738961⟩, 1, 2, ⟨by decide, by decide⟩, by decide, htoday, hlater, by decide⟩

/-- In the first six days of the calendar the last seven days do not exist, and no status is told,
although the request of the third day counts until the tenth. -/
theorem no_status_in_first_week :
    let s : Session := {
      now := .ofDate ⟨3⟩
      store := {
        quotas := [⟨1, .text "movie", .text "weekly_rolling", .int 5, false⟩]
        usage := [⟨1, "movie", ⟨3⟩⟩] } }
    (status 1 (.text "movie") s).1 = .error .outOfRange ∧
      countOn .weeklyRolling 1 (.text "movie") s.store ⟨9⟩ = .ok 1 ∧
      countOn .weeklyRolling 1 (.text "movie") s.store ⟨10⟩ = .ok 0 :=
  ⟨rfl, rfl, rfl⟩

end Quota

end Watchgate
