import Watchgate.Proofs.Approval.Expiry

/-!
# Maintenance

A run of maintenance marks the waiting requests whose time has run out, then drops the requests that
have been expired for some days, then old counted requests. The marks bear the time of the run, which
is no earlier than the limit of the cleanup, so what a run marks it does not drop; and after a run
nothing is left that a second run at the same time would mark or drop.
-/

namespace Watchgate

open Act Calendar Store

theorem Calendar.Moment.le_of_addDays? {t before : Moment} {days : Int} (hdays : 0 ≤ days)
    (h : t.addDays? (-days) = some before) : before.micros ≤ t.micros := by
  unfold Moment.addDays? Moment.addMicros? at h
  have hback : 0 ≤ days * (microsPerDay : Int) := Int.mul_nonneg hdays (by omega)
  dsimp only at h
  rw [Int.neg_mul] at h
  split at h
  · obtain rfl := Option.some.inj h
    show ((t.micros : Int) + -(days * (microsPerDay : Int))).toNat ≤ t.micros
    omega
  · cases h

/-! ## The tables -/

namespace Store

variable {t before : Moment} {day : Date} {s : Store} {r : Request}

/-- Whether a request is expired and was last touched before a moment. -/
def isOutdated (before : Moment) (r : Request) : Bool :=
  r.status = .expired && r.updatedAt.any fun t => t.micros < before.micros

theorem dropExpired_eq (before : Moment) (s : Store) : s.dropExpired before
    = (s.requests.countP (isOutdated before),
      { s with requests := s.requests.filter fun r => !isOutdated before r }) := rfl

theorem isOverdue_sweptRow (t : Moment) (r : Request) : isOverdue t (sweptRow t r) = false := by
  unfold sweptRow
  split
  · simp [isOverdue]
  · exact Bool.eq_false_iff.2 ‹_›

/-- What a sweep marks is not outdated right afterwards. -/
theorem isOutdated_sweptRow (h : before.micros ≤ t.micros) (r : Request) :
    isOutdated before (sweptRow t r) = isOutdated before r := by
  unfold sweptRow
  split
  next hoverdue =>
    have hpending : r.status = .pending := by simp [isOverdue] at hoverdue; exact hoverdue.1
    simp [isOutdated, hpending, h]
  next => rfl

/-- The tables after a run of maintenance. -/
def maintained (t before : Moment) (day : Date) (s : Store) : Store :=
  (((s.expireRequests t t).2.dropExpired before).2.dropUsageBefore day).2

theorem maintained_requests (h : before.micros ≤ t.micros) :
    (s.maintained t before day).requests
      = (s.requests.filter fun r => !isOutdated before r).map (sweptRow t) := by
  show (s.requests.map (sweptRow t)).filter (fun r => !isOutdated before r) = _
  rw [List.filter_map]
  congr 2
  funext r
  simp [isOutdated_sweptRow h]

theorem mem_maintained (h : before.micros ≤ t.micros) {r' : Request} :
    r' ∈ (s.maintained t before day).requests ↔
      ∃ r ∈ s.requests, isOutdated before r = false ∧ sweptRow t r = r' := by
  simp [maintained_requests h, and_assoc]

/-- How many outdated requests there are after a sweep. -/
theorem countP_outdated (h : before.micros ≤ t.micros) :
    (s.expireRequests t t).2.requests.countP (isOutdated before)
      = s.requests.countP (isOutdated before) := by
  show (s.requests.map (sweptRow t)).countP (isOutdated before) = _
  rw [List.countP_map]
  congr 1
  funext r
  exact isOutdated_sweptRow h r

/-- After a run of maintenance there is nothing left to mark. -/
theorem no_overdue_maintained (h : before.micros ≤ t.micros) :
    (s.maintained t before day).requests.countP (isOverdue t) = 0 := by
  rw [List.countP_eq_zero]
  intro r' hr'
  obtain ⟨r, -, -, rfl⟩ := (mem_maintained h).1 hr'
  simp [isOverdue_sweptRow]

theorem no_outdated_maintained (h : before.micros ≤ t.micros) :
    (s.maintained t before day).requests.countP (isOutdated before) = 0 := by
  rw [List.countP_eq_zero]
  intro r' hr'
  obtain ⟨r, -, hkept, rfl⟩ := (mem_maintained h).1 hr'
  simp [isOutdated_sweptRow h, hkept]

theorem expireRequests_of_none (h : s.requests.countP (isOverdue t) = 0) :
    s.expireRequests t t = (0, s) := by
  have hrows : s.requests.map (sweptRow t) = s.requests := by
    refine List.map_congr_left (fun r hr => ?_) |>.trans (List.map_id _)
    simp [sweptRow, List.countP_eq_zero.1 h r hr]
  show (s.requests.countP (isOverdue t), { s with requests := s.requests.map (sweptRow t) }) = _
  rw [h, hrows]

theorem dropExpired_of_none (h : s.requests.countP (isOutdated before) = 0) :
    s.dropExpired before = (0, s) := by
  have hrows : (s.requests.filter fun r => !isOutdated before r) = s.requests := by
    refine List.filter_eq_self.2 fun r hr => ?_
    simp [List.countP_eq_zero.1 h r hr]
  rw [dropExpired_eq, h, hrows]

theorem dropUsageBefore_again (day : Date) (s : Store) :
    (s.dropUsageBefore day).2.dropUsageBefore day = (0, (s.dropUsageBefore day).2) := by
  simp [dropUsageBefore]

end Store

/-! ## The run -/

section Steps

variable {s : Session}

theorem Desk.sweep_counts (ho : s.outages = []) :
    ∃ entries, (s.store.requests.countP (isOverdue s.now) = 0 → entries = []) ∧
      sweep s = (.ok (s.store.requests.countP (isOverdue s.now)), { s with
        store := (s.store.expireRequests s.now s.now).2, journal := s.journal ++ entries }) := by
  have hexpire : Act.expireRequests s.now s = (.ok (s.store.requests.countP (isOverdue s.now)),
      { s with store := (s.store.expireRequests s.now s.now).2 }) := write_of_ok ho rfl
  exact counted_eq hexpire _

theorem Desk.cleanup_counts (ho : s.outages = []) {days : Int} {before : Moment}
    (hbefore : s.now.addDays? (-days) = some before) :
    ∃ entries, (s.store.requests.countP (isOutdated before) = 0 → entries = []) ∧
      cleanup days s = (.ok (s.store.requests.countP (isOutdated before)), { s with
        store := (s.store.dropExpired before).2, journal := s.journal ++ entries }) := by
  have hnow : Act.now s = (.ok s.now, s) := rfl
  have hdrop : Act.dropExpired before s = (.ok (s.store.requests.countP (isOutdated before)),
      { s with store := (s.store.dropExpired before).2 }) := write_of_ok ho rfl
  unfold cleanup
  rw [bind_of_ok hnow]
  simp only [hbefore]
  exact counted_eq hdrop _

end Steps

namespace Service

variable (service : Service) {s : Session} {before : Moment} {day : Date}

/-- Where nothing is out of order and the limits lie in the calendar, maintenance reports how many rows
it marked and dropped, and notes nothing where there are none. -/
theorem maintain_eq (ho : s.outages = [])
    (hbefore : s.now.addDays? (-service.cleanupDays) = some before)
    (hday : s.now.date.addDays? (-service.retentionDays) = some day) :
    ∃ m entries, m.expired = s.store.requests.countP (isOverdue s.now) ∧
      m.requestsDropped
        = (s.store.expireRequests s.now s.now).2.requests.countP (isOutdated before) ∧
      m.usageDropped = (s.store.dropUsageBefore day).1 ∧
      (m = ⟨0, 0, 0⟩ → entries = []) ∧
      service.maintain s = (.ok m, { s with
        store := s.store.maintained s.now before day, journal := s.journal ++ entries }) := by
  obtain ⟨es₁, hes₁, hsweep⟩ := Desk.sweep_counts ho
  obtain ⟨es₂, hes₂, hcleanup⟩ := Desk.cleanup_counts (s := (Desk.sweep s).2)
    (by rw [hsweep]; exact ho) (by rw [hsweep]; exact hbefore)
  obtain ⟨es₃, hes₃, husage⟩ := Quota.cleanup_counts
    (s := (Desk.cleanup service.cleanupDays (Desk.sweep s).2).2)
    (by rw [hcleanup, hsweep]; exact ho) (by rw [hcleanup, hsweep]; exact hday)
  rw [hcleanup, hsweep] at husage hes₃
  rw [hsweep] at hcleanup hes₂
  refine ⟨⟨_, _, _⟩, es₁ ++ es₂ ++ es₃, rfl, rfl, rfl, ?_, ?_⟩
  · intro hnone
    obtain ⟨h₁, h₂, h₃⟩ := Maintenance.mk.inj hnone
    rw [hes₁ h₁, hes₂ h₂, hes₃ h₃]
    rfl
  · unfold maintain
    rw [bind_of_ok hsweep, bind_of_ok hcleanup, bind_of_ok husage]
    simp only [List.append_assoc]
    rfl

/-- A second run at once finds nothing. -/
theorem maintain_again (ho : s.outages = []) (hclean : 0 ≤ service.cleanupDays)
    (hbefore : s.now.addDays? (-service.cleanupDays) = some before)
    (hday : s.now.date.addDays? (-service.retentionDays) = some day) {store : Store}
    (hstore : s.store = store.maintained s.now before day) :
    service.maintain s = (.ok ⟨0, 0, 0⟩, s) := by
  have hle := Moment.le_of_addDays? hclean hbefore
  have hoverdue : s.store.requests.countP (isOverdue s.now) = 0 := by
    rw [hstore]
    exact no_overdue_maintained hle
  have houtdated : s.store.requests.countP (isOutdated before) = 0 := by
    rw [hstore]
    exact no_outdated_maintained hle
  have husage : s.store.dropUsageBefore day = (0, s.store) := by
    rw [hstore]
    exact dropUsageBefore_again day _
  have hexpire := expireRequests_of_none hoverdue
  obtain ⟨m, entries, hm₁, hm₂, hm₃, hquiet, hrun⟩ := service.maintain_eq ho hbefore hday
  rw [hoverdue] at hm₁
  rw [hexpire, houtdated] at hm₂
  rw [husage] at hm₃
  have hm : m = ⟨0, 0, 0⟩ := by
    cases m
    simp_all
  have hsame : s.store.maintained s.now before day = s.store := by
    unfold maintained
    rw [hexpire, dropExpired_of_none houtdated, husage]
  rw [hrun, hsame, hquiet hm, hm, List.append_nil]

/-- What a run of maintenance at `t` leaves of the tables, and what it reports. -/
structure Maintained (t : Moment) (s s' : Store) (m : Maintenance) : Prop where
  /-- A request that was not expired is still there. -/
  live : ∀ r ∈ s.requests, r.status ≠ .expired → ∃ r' ∈ s'.requests, r'.id = r.id
  /-- What is still there is marked if it waited beyond its time, and otherwise as it was. -/
  marked : ∀ r ∈ s.requests, ∀ r' ∈ s'.requests, r'.id = r.id →
    r' = if r.status = .pending && r.isStaleAt t then
      { r with status := .expired, updatedAt := some t } else r
  /-- Nothing is new. -/
  known : ∀ r' ∈ s'.requests, ∃ r ∈ s.requests, r.id = r'.id
  usage : s'.usage.Sublist s.usage
  others : s' = { s with requests := s'.requests, usage := s'.usage }
  expired : m.expired = s.requests.countP fun r => r.status = .pending && r.isStaleAt t
  requestsDropped : m.requestsDropped + s'.requests.length = s.requests.length
  usageDropped : m.usageDropped + s'.usage.length = s.usage.length

/-- Maintenance never drops a request that was not expired before. It marks the waiting requests whose
time has run out and no others, it reports what it marked and dropped, and a second run at the same time
changes nothing. -/
theorem maintain_idempotent {s : Session} (hs : Reachable s) (ho : s.outages = []) (t : Moment)
    (hclean : 0 ≤ service.cleanupDays)
    (hbefore : t.addDays? (-service.cleanupDays) = some before)
    (hday : t.date.addDays? (-service.retentionDays) = some day) :
    ∃ m s', service.maintain { s with now := t } = (.ok m, s') ∧
      Maintained t s.store s'.store m ∧ service.maintain s' = (.ok ⟨0, 0, 0⟩, s') := by
  have hle := Moment.le_of_addDays? hclean hbefore
  obtain ⟨m, entries, hm₁, hm₂, hm₃, -, hrun⟩ :=
    service.maintain_eq (s := { s with now := t }) ho hbefore hday
  refine ⟨m, _, hrun, ?_, service.maintain_again ho hclean hbefore hday rfl⟩
  have hrows : ∀ r', r' ∈ (s.store.maintained t before day).requests ↔
      ∃ r ∈ s.store.requests, isOutdated before r = false ∧ sweptRow t r = r' :=
    fun r' => mem_maintained hle
  exact {
    live := fun r hr hlive => by
      have hkept : isOutdated before r = false := by simp [isOutdated, hlive]
      exact ⟨sweptRow t r, (hrows _).2 ⟨r, hr, hkept, rfl⟩, sweptRow_id t r⟩
    marked := fun r hr r' hr' hid => by
      obtain ⟨r₀, hr₀, -, rfl⟩ := (hrows r').1 hr'
      obtain rfl := hs.wellKept.eq_of_id hr₀ hr ((sweptRow_id t r₀).symm.trans hid)
      rfl
    known := fun r' hr' => by
      obtain ⟨r, hr, -, rfl⟩ := (hrows r').1 hr'
      exact ⟨r, hr, (sweptRow_id t r).symm⟩
    usage := List.filter_sublist
    others := rfl
    expired := hm₁
    requestsDropped := by
      rw [hm₂, countP_outdated hle, maintained_requests hle, List.length_map,
        List.length_eq_countP_add_countP (isOutdated before) (l := s.store.requests)]
      simp [List.countP_eq_length_filter]
    usageDropped := by
      rw [hm₃]
      exact Nat.sub_add_cancel (List.length_filter_le _ _) }

/-- For instance, a run that marks a request, drops another one that expired long ago, lets a third one
wait, and drops a counted request. -/
theorem maintain_idempotent_four_rows :
    let service : Service := { waitHours := some 1 }
    let s := Course.run [
      ⟨service, .single (.putInstance { id := 1, type := .text "radarr" })⟩,
      ⟨service, .single (.putUser 1 (.text "Ann") (.bool true))⟩,
      ⟨service, .single (.putUser 2 (.text "Bob") (.bool false))⟩,
      ⟨service, .single (.film 1 "Dune" [])⟩, ⟨service, .single (.film 2 "Solaris" [])⟩,
      ⟨service, .single (.setClock (.ofDate ⟨738960⟩))⟩, ⟨service, .maintain⟩,
      ⟨service, .single (.setClock (.ofDate ⟨739099⟩))⟩, ⟨service, .single (.film 1 "Heat" [])⟩,
      ⟨service, .single (.setClock (.ofDate ⟨739100⟩))⟩, ⟨service, .single (.film 1 "Alien" [])⟩]
      { now := .ofDate ⟨738959⟩ }
    ∃ s', service.maintain s = (.ok ⟨1, 1, 1⟩, s') ∧
      s'.store.requests.map Request.status = [.expired, .pending] ∧
      service.maintain s' = (.ok ⟨0, 0, 0⟩, s') := by
  intro service s
  have hs : Reachable s := .run (.start rfl) _
  have hcount : (service.maintain s).1.toOption = some ⟨1, 1, 1⟩ := by decide +kernel
  have hstatus : (service.maintain s).2.store.requests.map Request.status = [.expired, .pending] := by
    decide +kernel
  have hnow : s.now = .ofDate ⟨739100⟩ := by decide +kernel
  have ho : s.outages = [] := List.isEmpty_iff.1 (by decide +kernel)
  clear_value s
  have hbefore : s.now.addDays? (-service.cleanupDays) = some (.ofDate ⟨739070⟩) := by
    rw [hnow]
    decide
  have hday : s.now.date.addDays? (-service.retentionDays) = some ⟨739010⟩ := by
    rw [hnow]
    decide
  obtain ⟨m, s', hrun, -, hagain⟩ :=
    service.maintain_idempotent hs ho s.now (by decide) hbefore hday
  change service.maintain s = _ at hrun
  rw [hrun] at hcount hstatus
  obtain rfl : m = ⟨1, 1, 1⟩ := Option.some.inj hcount
  exact ⟨s', hrun, hstatus, hagain⟩

end Service

end Watchgate
