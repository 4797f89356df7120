import Watchgate.Proofs.Quota.Status
import Watchgate.Proofs.Quota.Window
import Watchgate.Proofs.Session.Answers
import Watchgate.Proofs.Store.UsageTable

/-!
# Reckoning a quota from the rows that count

What is told of a quota is reckoned from the quota, the day, and the rows of the window of the day: from
how many they are and from the earliest of them. Two sessions with the same quota and day that hold the
same rows in the windows of that day are therefore told the same.
-/

namespace Watchgate.Quota

open Act Calendar Store

/-- What is told of a quota on a day on which `rows` count. -/
def reckon (q : Quota) (p : Period) (today : Date) (rows : List Usage) :
    Except Failure QuotaStatus := do
  let exceeded ← if q.bypass then pure false else reaches rows.length q.limit
  let reset ← p.reset today (earliest? rows)
  return { period := q.period, limit := q.limit, usage := rows.length, exceeded, reset,
           bypass := q.bypass }

/-- What is told where the limit can be compared and the reset is known. -/
theorem reckon_ok {q : Quota} {p : Period} {today : Date} {rows : List Usage} {t : Option Moment}
    (hlimit : q.bypass = false → ∀ n, ∃ b, reaches n q.limit = .ok b)
    (hreset : p.reset today (earliest? rows) = .ok t) :
    ∃ answer, q.reckon p today rows = .ok answer ∧ answer.usage = rows.length ∧
      answer.reset = t := by
  unfold reckon
  rw [hreset]
  cases hbypass : q.bypass with
  | true => exact ⟨_, rfl, rfl, rfl⟩
  | false =>
    obtain ⟨exceeded, hreaches⟩ := hlimit hbypass rows.length
    rw [hreaches]
    exact ⟨_, rfl, rfl, rfl⟩

/-- An integer limit is reached by as many rows. -/
theorem reckon_int {q : Quota} {p : Period} {today : Date} {rows : List Usage} {limit : Int}
    {t : Option Moment} (hlimit : q.limit = .int limit) (hbinds : q.bypass = false)
    (hreset : p.reset today (earliest? rows) = .ok t) :
    q.reckon p today rows = .ok { period := q.period, limit := .int limit, usage := rows.length,
                                  exceeded := decide (limit ≤ rows.length), reset := t,
                                  bypass := false } := by
  unfold reckon
  rw [hlimit, hbinds, hreset, reaches_int]
  rfl

variable {userId : Int} {contentType : Value} {stored : String} {q : Quota} {p : Period} {w : Window}
  {rows : List Usage} {s s' : Session}

theorem resetOf_eq (ho : s.outages = []) {today : Date} (hw : p.window today = .ok w)
    (hrows : s.store.usageIn q.userId q.contentType w = .ok rows) :
    q.resetOf p today s = (p.reset today (earliest? rows), s) := by
  cases p with
  | daily => rfl
  | monthly => rfl
  | weeklyRolling =>
    have hwindow : ofResult (Period.weeklyRolling.window today) s = (.ok w, s) := by
      rw [ofResult, hw]
    have holdest : Act.oldestUsage q.userId q.contentType w s = (.ok (earliest? rows), s) :=
      read_of_ok ho (by rw [Store.oldestUsage, hrows]; rfl)
    exact (bind_of_ok hwindow).trans (bind_of_ok holdest)

/-- Where nothing is out of order, the status of a quota is what is reckoned from the rows that count. -/
theorem status_eq_reckon (ho : s.outages = [])
    (hq : s.store.getQuota userId contentType = .ok (some q)) (hp : periodOf q.period = .ok p)
    (hw : p.window s.now.date = .ok w) (hstored : Column.text contentType = .ok (.text stored)) :
    status userId contentType s = ((q.reckon p s.now.date
      (s.store.usage.filter fun u => counts userId stored u && w.contains u.date)).map some, s) := by
  obtain ⟨hid, huser, stored', hstored', hcontent⟩ := getQuota_some hq
  obtain rfl : stored' = stored := by
    rw [hstored] at hstored'
    exact Value.text.inj (Except.ok.inj hstored'.symm)
  generalize hrows : (s.store.usage.filter fun u => counts userId stored' u && w.contains u.date)
    = rows
  have hread : Act.getQuota userId contentType s = (.ok (some q), s) := read_of_ok ho hq
  have htoday : Act.today s = (.ok s.now.date, s) := rfl
  have hperiod : ofResult (periodOf q.period) s = (.ok p, s) := by rw [ofResult, hp]
  have hwindow : ofResult (p.window s.now.date) s = (.ok w, s) := by rw [ofResult, hw]
  have hcount : Act.countUsage userId contentType w s = (.ok rows.length, s) := by
    refine read_of_ok ho ?_
    rw [Store.countUsage, usageIn_eq_filter hid hstored, hrows]
    rfl
  have hreset : q.resetOf p s.now.date s = (p.reset s.now.date (earliest? rows), s) := by
    refine resetOf_eq ho hw ?_
    rw [huser, hcontent, usageIn_eq_filter hid (Column.text_text _), hrows]
  have hrest : ∀ exceeded : Bool, (q.resetOf p s.now.date >>= fun reset => pure (some
      { period := q.period, limit := q.limit, usage := rows.length, exceeded, reset,
        bypass := q.bypass : QuotaStatus }) : Act _) s
      = ((p.reset s.now.date (earliest? rows) >>= fun reset => pure (some
          { period := q.period, limit := q.limit, usage := rows.length, exceeded, reset,
            bypass := q.bypass : QuotaStatus })), s) := by
    intro exceeded
    rw [bind_apply, hreset]
    cases p.reset s.now.date (earliest? rows) <;> rfl
  unfold status reckon
  rw [bind_of_ok hread]
  dsimp only
  rw [bind_of_ok htoday, bind_of_ok hperiod, bind_of_ok hwindow, bind_of_ok hcount]
  cases hbypass : q.bypass with
  | true =>
    simp only [if_true, pure_bind]
    rw [hbypass] at hrest
    rw [hrest]
    cases p.reset s.now.date (earliest? rows) <;> rfl
  | false =>
    simp only [Bool.false_eq_true, if_false]
    rw [hbypass] at hrest
    cases hreaches : reaches rows.length q.limit with
    | error e => rfl
    | ok exceeded =>
      have hlimit : ofResult (.ok exceeded : Except Failure Bool) s = (.ok exceeded, s) := rfl
      rw [bind_of_ok hlimit, hrest]
      cases p.reset s.now.date (earliest? rows) <;> rfl

theorem looks_resetOf (q : Quota) (p : Period) (today : Date) : (q.resetOf p today).Looks := by
  cases p with
  | daily => exact looks_ofResult _
  | monthly => exact looks_ofResult _
  | weeklyRolling =>
    exact looks_bind (looks_ofResult _) fun _ => looks_bind (looks_read _ _ _) fun _ =>
      looks_ofResult _

theorem resetOf_alike (hout : s'.outages = s.outages) {today : Date}
    (hrows : ∀ w, p.window today = .ok w →
      s'.store.usageIn q.userId q.contentType w = s.store.usageIn q.userId q.contentType w) :
    (q.resetOf p today s').1 = (q.resetOf p today s).1 := by
  cases p with
  | daily => rfl
  | monthly => rfl
  | weeklyRolling =>
    refine bind_alike (looks_ofResult _) rfl fun w hw => ?_
    refine bind_alike (looks_read _ _ _) ?_ fun _ _ => rfl
    exact read_alike hout (congrArg (·.map earliest?) (hrows w hw))

/-- What the status of a quota depends on: the outages, the day, the quota, and the rows in the windows
of that day. -/
theorem status_alike (hout : s'.outages = s.outages) (hnow : s'.now.date = s.now.date)
    (hquota : s'.store.getQuota userId contentType = s.store.getQuota userId contentType)
    (hrows : ∀ (p : Period) w, p.window s.now.date = .ok w → ∀ userId contentType,
      s'.store.usageIn userId contentType w = s.store.usageIn userId contentType w) :
    (status userId contentType s').1 = (status userId contentType s).1 := by
  refine bind_alike (looks_read _ _ _) (read_alike hout hquota) fun found _ => ?_
  cases found with
  | none => rfl
  | some q =>
    refine bind_alike (looks_ask _) (congrArg Except.ok hnow) fun today htoday => ?_
    obtain rfl := Except.ok.inj htoday
    refine bind_alike (looks_ofResult _) rfl fun p _ => ?_
    refine bind_alike (looks_ofResult _) rfl fun w hw => ?_
    have hsame := hrows p w hw
    refine bind_alike (looks_read _ _ _)
      (read_alike hout (congrArg (·.map List.length) (hsame userId contentType))) fun usage _ => ?_
    have hreset := resetOf_alike hout fun w hw => hrows p w hw q.userId q.contentType
    have hrest : ∀ exceeded : Bool, ((q.resetOf p s.now.date >>= fun reset => pure (some
        { period := q.period, limit := q.limit, usage, exceeded, reset, bypass := q.bypass
          : QuotaStatus }) : Act _) s').1 = ((q.resetOf p s.now.date >>= fun reset => pure (some
        { period := q.period, limit := q.limit, usage, exceeded, reset, bypass := q.bypass
          : QuotaStatus }) : Act _) s).1 := fun _ =>
      bind_alike (looks_resetOf q p _) hreset fun _ _ => rfl
    split
    · exact hrest false
    · exact bind_alike (looks_ofResult _) rfl fun exceeded _ => hrest exceeded

end Watchgate.Quota
