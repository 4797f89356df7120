import Watchgate.Proofs.Store.Columns
import Watchgate.Store.Quotas

/-!
# The table of counted requests

Counting a request appends one row, with the type of content as the column keeps it; asking how many
requests count reads the rows of a user and a stored type of content on the days of a window.
-/

namespace Watchgate.Store

open Calendar

/-- Whether a row counts for a user and a type of content. -/
def counts (userId : Int) (contentType : String) (u : Usage) : Bool :=
  u.userId = userId && u.contentType = contentType

theorem counts_iff {userId : Int} {contentType : String} {u : Usage} :
    counts userId contentType u = true ↔ u.userId = userId ∧ u.contentType = contentType := by
  simp [counts]

theorem putUsage_ok {userId : Int} {contentType : Value} {date : Date} {s s' : Store}
    (h : s.putUsage userId contentType date = .ok ((), s')) :
    ∃ stored, Column.text contentType = .ok (.text stored) ∧
      s' = { s with usage := s.usage ++ [⟨userId, stored, date⟩] } := by
  obtain ⟨user, -, h⟩ := ok_of_bind h
  obtain ⟨v, hv, h⟩ := ok_of_bind h
  rcases Column.text_ok hv with rfl | ⟨stored, rfl⟩
  · cases h
  · obtain ⟨-, rfl⟩ := Prod.mk.inj (pure_ok h)
    exact ⟨stored, hv, rfl⟩

/-- Two stores that agree on the user count a request alike. -/
theorem putUsage_alike {userId : Int} {s s' : Store} (contentType : Value) (date : Date)
    (huser : requireUser userId s' = requireUser userId s) :
    (∃ e, s.putUsage userId contentType date = .error e ∧
      s'.putUsage userId contentType date = .error e) ∨
    ∃ row : Usage, row.userId = userId ∧
      s.putUsage userId contentType date = .ok ((), { s with usage := s.usage ++ [row] }) ∧
      s'.putUsage userId contentType date = .ok ((), { s' with usage := s'.usage ++ [row] }) := by
  unfold putUsage
  rw [huser]
  cases requireUser userId s with
  | error e => exact .inl ⟨e, rfl, rfl⟩
  | ok user =>
    cases Column.text contentType with
    | error e => exact .inl ⟨e, rfl, rfl⟩
    | ok stored =>
      cases stored with
      | text t => exact .inr ⟨⟨userId, t, date⟩, rfl, rfl, rfl⟩
      | _ => exact .inl ⟨_, rfl, rfl⟩

/-- The rows that count, for a type of content that is stored as a text. -/
theorem usageIn_eq_filter {userId : Int} {contentType : Value} {stored : String}
    (hid : Column.checked userId = .ok userId) (hstored : Column.text contentType = .ok (.text stored))
    (w : Window) (s : Store) :
    s.usageIn userId contentType w
      = .ok (s.usage.filter fun u => counts userId stored u && w.contains u.date) := by
  unfold usageIn
  rw [hid, hstored]
  refine congrArg Except.ok (List.filter_congr fun u _ => ?_)
  simp [counts, Value.isOneOf, eq_comm]

/-- The rows of a window that begins no earlier are still there when those of before a day are dropped. -/
theorem usageIn_dropUsageBefore {day : Date} {w : Window}
    (h : ∀ d, w.contains d = true → day.ordinal ≤ d.ordinal) (userId : Int) (contentType : Value)
    (s : Store) :
    (s.dropUsageBefore day).2.usageIn userId contentType w = s.usageIn userId contentType w := by
  unfold usageIn dropUsageBefore
  cases Column.checked userId with
  | error e => rfl
  | ok id =>
    cases Column.text contentType with
    | error e => rfl
    | ok stored =>
      refine congrArg Except.ok ?_
      dsimp only
      rw [List.filter_filter]
      apply List.filter_congr
      intro u _
      cases hw : w.contains u.date with
      | true => simp [h u.date hw]
      | false => simp

/-- How many requests count, as a number of rows. -/
theorem countUsage_ok {userId : Int} {contentType : Value} {stored : String} {w : Window}
    {s : Store} {n : Nat} (hstored : Column.text contentType = .ok (.text stored))
    (h : s.countUsage userId contentType w = .ok n) :
    n = s.usage.countP fun u => counts userId stored u && w.contains u.date := by
  obtain ⟨rows, hrows, rfl⟩ := ok_of_map h
  obtain ⟨m, hid, -⟩ := ok_of_bind hrows
  obtain rfl := Column.checked_ok hid
  obtain rfl := Except.ok.inj ((usageIn_eq_filter hid hstored w s).symm.trans hrows)
  exact List.countP_eq_length_filter.symm

theorem earliest?_eq_none {rows : List Usage} : earliest? rows = none ↔ rows = [] := by
  cases rows <;> simp [earliest?]

/-- The earliest day of some rows is the day of one of them, and none of them is earlier. -/
theorem earliest?_spec {rows : List Usage} {d : Date} (h : earliest? rows = some d) :
    (∃ u ∈ rows, u.date = d) ∧ ∀ u ∈ rows, d.ordinal ≤ u.date.ordinal := by
  cases rows with
  | nil => cases h
  | cons u us =>
    obtain rfl := Option.some.inj h
    clear h
    induction us generalizing u with
    | nil => simp
    | cons v us ih =>
      -- one step puts the earlier of the first two rows in their place
      have hstep : (v :: us).foldl (fun d w => earlier d w.date) u.date
          = us.foldl (fun d w => earlier d w.date) (earlier u.date v.date) := rfl
      rw [hstep]
      by_cases hle : u.date.ordinal ≤ v.date.ordinal
      · rw [earlier, if_pos hle]
        obtain ⟨⟨w, hw, hd⟩, hlow⟩ := ih u
        refine ⟨⟨w, by simp_all [or_left_comm], hd⟩, fun x hx => ?_⟩
        rcases List.mem_cons.1 hx with rfl | hx
        · exact hlow _ List.mem_cons_self
        · rcases List.mem_cons.1 hx with rfl | hx
          · exact Nat.le_trans (hlow u List.mem_cons_self) hle
          · exact hlow x (List.mem_cons_of_mem _ hx)
      · rw [earlier, if_neg hle]
        obtain ⟨⟨w, hw, hd⟩, hlow⟩ := ih v
        refine ⟨⟨w, List.mem_cons_of_mem _ hw, hd⟩, fun x hx => ?_⟩
        rcases List.mem_cons.1 hx with rfl | hx
        · exact Nat.le_trans (hlow v List.mem_cons_self) (Nat.le_of_not_le hle)
        · exact hlow x hx

/-- A quota that is found is one of the user, for the type of content as it is stored. -/
theorem getQuota_some {userId : Int} {contentType : Value} {q : Quota} {s : Store}
    (h : s.getQuota userId contentType = .ok (some q)) :
    Column.checked userId = .ok userId ∧ q.userId = userId ∧
      ∃ stored, Column.text contentType = .ok (.text stored) ∧ q.contentType = .text stored := by
  obtain ⟨id, hid, hrest⟩ := ok_of_bind h
  obtain rfl := Column.checked_ok hid
  obtain ⟨v, hv, hfound⟩ := ok_of_bind hrest
  have hfor := List.find?_some (pure_ok hfound)
  simp only [isQuota, Bool.and_eq_true, decide_eq_true_eq] at hfor
  obtain ⟨huser, hsame⟩ := hfor
  have hcontent : q.contentType = v := Column.eq_of_same hsame
  rcases Column.text_ok hv with rfl | ⟨stored, rfl⟩
  · rw [hcontent] at hsame
    cases hsame
  · exact ⟨hid, huser, stored, hv, hcontent⟩

/-- Which quota a user has depends on the stored type of content only. -/
theorem getQuota_congr {userId : Int} {v w : Value} (h : Column.text v = Column.text w) (s : Store) :
    s.getQuota userId v = s.getQuota userId w := by
  unfold getQuota
  rw [h]

end Watchgate.Store
