import Watchgate.Proofs.Session.Quiet
import Watchgate.Proofs.Store.UserTable
import Watchgate.Quota.Tracker

/-!
# Asking for a quota and counting a request

How far a quota is used up is read off the store without changing it: the answer counts the requests
on the days of the window of today. Counting a request adds one row of today, or fails and adds none.
-/

namespace Watchgate.Quota

open Act Calendar

theorem quiet_resetOf (q : Quota) (p : Period) (today : Date) : (q.resetOf p today).Quiet := by
  cases p with
  | daily => exact quiet_ofResult _
  | monthly => exact quiet_ofResult _
  | weeklyRolling =>
    exact quiet_bind (quiet_ofResult _) fun _ => quiet_bind (quiet_read _ _ _) fun _ =>
      quiet_ofResult _

/-- Asking how far a quota is used up changes no record. -/
theorem quiet_status (userId : Int) (contentType : Value) : (status userId contentType).Quiet := by
  refine quiet_bind (quiet_read _ _ _) fun found => ?_
  cases found with
  | none => exact quiet_pure _
  | some q =>
    refine quiet_bind (quiet_ask _) fun today => quiet_bind (quiet_ofResult _) fun p => ?_
    refine quiet_bind (quiet_ofResult _) fun w => quiet_bind (quiet_read _ _ _) fun usage => ?_
    have hrest : ∀ exceeded : Bool, (q.resetOf p today >>= fun reset => pure (some
        { period := q.period, limit := q.limit, usage, exceeded, reset, bypass := q.bypass
          : QuotaStatus }) : Act _).Quiet := fun _ =>
      quiet_bind (quiet_resetOf q p today) fun _ => quiet_pure _
    exact quiet_ite (hrest false) (quiet_bind (quiet_ofResult _) hrest)

/-- What the status of a quota was read from. -/
structure ReadFrom (userId : Int) (contentType : Value) (s : Session) (answer : QuotaStatus)
    (q : Quota) (p : Period) (w : Window) : Prop where
  quota : s.store.getQuota userId contentType = .ok (some q)
  period : periodOf q.period = .ok p
  window : p.window s.now.date = .ok w
  usage : s.store.countUsage userId contentType w = .ok answer.usage
  exceeded : q.bypass = false → reaches answer.usage q.limit = .ok answer.exceeded
  bypassed : q.bypass = true → answer.exceeded = false
  reset : (q.resetOf p s.now.date s).1 = .ok answer.reset

theorem status_some {userId : Int} {contentType : Value} {s s' : Session} {answer : QuotaStatus}
    (h : status userId contentType s = (.ok (some answer), s')) :
    ∃ q p w, ReadFrom userId contentType s answer q p w := by
  obtain ⟨found, s₁, hfound, h⟩ := bind_returns h
  obtain ⟨hq, hs⟩ := read_returns hfound
  subst s₁
  cases found with
  | none => cases (pure_returns h).1
  | some q =>
    obtain ⟨today, s₁, htoday, h⟩ := bind_returns h
    obtain ⟨ht, hs⟩ := ask_returns htoday
    subst s₁ today
    obtain ⟨p, s₁, hperiod, h⟩ := bind_returns h
    obtain ⟨hp, hs⟩ := ofResult_returns hperiod
    subst s₁
    obtain ⟨w, s₁, hwindow, h⟩ := bind_returns h
    obtain ⟨hw, hs⟩ := ofResult_returns hwindow
    subst s₁
    obtain ⟨usage, s₁, husage, h⟩ := bind_returns h
    obtain ⟨hu, hs⟩ := read_returns husage
    subst s₁
    refine ⟨q, p, w, ?_⟩
    cases hb : q.bypass with
    | true =>
      simp only [hb, if_true] at h
      obtain ⟨exceeded, s₂, hexceeded, h⟩ := bind_returns h
      obtain ⟨rfl, hs⟩ := pure_returns hexceeded
      subst s₂
      obtain ⟨reset, s₃, hreset, h⟩ := bind_returns h
      obtain rfl := Option.some.inj (pure_returns h).1
      have hbound : q.bypass ≠ false := by simp [hb]
      exact ⟨hq, hp, hw, hu, fun hf => absurd hf hbound, fun _ => rfl, by rw [hreset]⟩
    | false =>
      simp only [hb, Bool.false_eq_true, if_false] at h
      obtain ⟨exceeded, s₂, hexceeded, h⟩ := bind_returns h
      obtain ⟨he, hs⟩ := ofResult_returns hexceeded
      subst s₂
      obtain ⟨reset, s₃, hreset, h⟩ := bind_returns h
      obtain rfl := Option.some.inj (pure_returns h).1
      have hbound : q.bypass ≠ true := by simp [hb]
      exact ⟨hq, hp, hw, hu, fun _ => he, fun hf => absurd hf hbound, by rw [hreset]⟩

theorem status_none {userId : Int} {contentType : Value} {s s' : Session}
    (h : status userId contentType s = (.ok none, s')) :
    s.store.getQuota userId contentType = .ok none := by
  obtain ⟨found, s₁, hfound, h⟩ := bind_returns h
  obtain ⟨hq, -⟩ := read_returns hfound
  cases found with
  | none => exact hq
  | some q =>
    obtain ⟨_, _, -, h⟩ := bind_returns h
    obtain ⟨_, _, -, h⟩ := bind_returns h
    obtain ⟨_, _, -, h⟩ := bind_returns h
    obtain ⟨_, _, -, h⟩ := bind_returns h
    split at h
    all_goals
      obtain ⟨_, _, -, h⟩ := bind_returns h
      obtain ⟨_, _, -, h⟩ := bind_returns h
      cases (pure_returns h).1

/-- Counting a request writes one row of today, or it fails and changes no record. -/
theorem recordUsage_cases (userId : Int) (contentType : Value) (s : Session) :
    (∃ store, s.store.putUsage userId contentType s.now.date = .ok ((), store) ∧
      recordUsage userId contentType s = (.ok (), { s with store })) ∨
    ∃ e s', recordUsage userId contentType s = (.error e, s') ∧ s.SameRecords s' := by
  have hb : recordUsage userId contentType s = putUsage userId contentType s.now.date s := rfl
  rw [hb]
  rcases write_cases .putUsage (some (.int userId))
    (Store.putUsage userId contentType s.now.date) s with ⟨⟨⟩, store, hs, h⟩ | h
  · exact .inl ⟨store, hs, h⟩
  · exact .inr h

/-- Dropping old rows drops those of before the day that lies so many days back, or it changes no record. -/
theorem cleanup_cases (days : Int) (s : Session) :
    (∃ day, s.now.date.addDays? (-days) = some day ∧
      ({ s with store := (s.store.dropUsageBefore day).2 } : Session).SameRecords
        (cleanup days s).2) ∨
    s.SameRecords (cleanup days s).2 := by
  rcases h : cleanup days s with ⟨r, s'⟩
  have htoday : Act.today s = (.ok s.now.date, s) := rfl
  unfold cleanup at h
  rw [bind_of_ok htoday] at h
  cases hday : s.now.date.addDays? (-days) with
  | none =>
    simp only [hday] at h
    exact .inr ((quiet_throw _).of_eq h)
  | some day =>
    simp only [hday] at h
    rcases written_cases (fun _ => quiet_ite (quiet_bind (quiet_note _ _) fun _ => quiet_pure _)
      (quiet_pure _)) h with ⟨n, store, hstore, hs⟩ | hs
    · obtain ⟨-, rfl⟩ := Prod.mk.inj (Except.ok.inj hstore)
      exact .inl ⟨day, rfl, hs⟩
    · exact .inr hs

/-- Where nothing is out of order, the rows of before a day of the calendar are dropped, and it is noted
how many they were unless there were none. -/
theorem cleanup_counts {days : Int} {day : Date} {s : Session} (ho : s.outages = [])
    (hday : s.now.date.addDays? (-days) = some day) :
    ∃ entries, ((s.store.dropUsageBefore day).1 = 0 → entries = []) ∧
      cleanup days s = (.ok (s.store.dropUsageBefore day).1, { s with
        store := (s.store.dropUsageBefore day).2, journal := s.journal ++ entries }) := by
  have htoday : Act.today s = (.ok s.now.date, s) := rfl
  have hdrop : Act.dropUsageBefore day s = (.ok (s.store.dropUsageBefore day).1,
      { s with store := (s.store.dropUsageBefore day).2 }) := write_of_ok ho rfl
  unfold cleanup
  rw [bind_of_ok htoday]
  simp only [hday]
  exact counted_eq hdrop _

/-- Where nothing is out of order, a request of a stored user is counted. -/
theorem recordUsage_of_knows {userId : Int} {s : Session} (ho : s.outages = [])
    (h : s.store.Knows userId) (contentType : String) :
    recordUsage userId (.text contentType) s = (.ok (), { s with store := { s.store with
      usage := s.store.usage ++ [⟨userId, contentType, s.now.date⟩] } }) :=
  write_of_ok ho (h.putUsage contentType s.now.date)

/-- Where nothing is out of order, counting a request for a known type of content only fails for
want of the user. -/
theorem recordUsage_fails {userId : Int} {contentType : String} {s s' : Session} {e : Failure}
    (ho : s.outages = []) (hid : Store.Column.checked userId = .ok userId)
    (h : recordUsage userId (.text contentType) s = (.error e, s')) :
    ¬ s.store.Knows userId ∧ e = .storage (.unknownUser userId) ∧ s' = s := by
  have hunknown : ¬ s.store.Knows userId := fun hknown => by
    cases (recordUsage_of_knows ho hknown contentType).symm.trans h
  have hput : s.store.putUsage userId (.text contentType) s.now.date
      = .error (.storage (.unknownUser userId)) := by
    cases hfound : s.store.users.find? (·.id = userId) with
    | some u =>
      refine absurd ⟨u, ?_⟩ hunknown
      unfold Store.getUser
      rw [hid]
      exact congrArg Except.ok hfound
    | none =>
      have hget : s.store.getUser userId = .ok none := by
        unfold Store.getUser
        rw [hid]
        exact congrArg Except.ok hfound
      unfold Store.putUsage Store.requireUser
      rw [hget]
      rfl
  have hwrite : recordUsage userId (.text contentType) s
      = (.error (.storage (.unknownUser userId)), s) := by
    change Act.write .putUsage (some (.int userId))
      (Store.putUsage userId (.text contentType) s.now.date) s = _
    unfold Act.write
    rw [outage?_nil ho, hput]
    rfl
  obtain ⟨he, hs⟩ := Prod.mk.inj (hwrite.symm.trans h)
  exact ⟨hunknown, (Except.error.inj he).symm, hs.symm⟩

end Watchgate.Quota
