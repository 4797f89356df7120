import Watchgate.Proofs.Quota.Accounting
import Watchgate.Proofs.Quota.Window

/-!
# The ceiling of a quota

The table of counted requests does not say who wrote a row. A book beside the table does: it is kept
along the steps of a run, and its rows are those of the table. As long as a quota stays as it is and
the clock does not go back, the gate has written no more rows of the days that count today than the
limit allows, whatever approvals have added.
-/

namespace Watchgate

open Act Calendar Store

/-- A row of the table of counted requests, and whether the gate wrote it. -/
structure Posting where
  row : Usage
  /-- Whether it was written for a submission. -/
  byGate : Bool

namespace Posting

/-- Whether the gate wrote the row for a user and a type of content, on some day or later. -/
def isCharged (userId : Int) (contentType : String) (day : Int) (e : Posting) : Bool :=
  e.byGate && counts userId contentType e.row && day ≤ e.row.date.ordinal

/-- How many rows the gate wrote for a user and a type of content, on some day or later. -/
def charged (userId : Int) (contentType : String) (day : Int) (book : List Posting) : Nat :=
  book.countP (isCharged userId contentType day)

variable (userId : Int) (contentType : String)

theorem charged_append (day : Int) (book book' : List Posting) :
    charged userId contentType day (book ++ book')
      = charged userId contentType day book + charged userId contentType day book' :=
  List.countP_append

/-- From a later day on no more is charged. -/
theorem charged_mono {day day' : Int} (h : day ≤ day') (book : List Posting) :
    charged userId contentType day' book ≤ charged userId contentType day book := by
  refine List.countP_mono_left fun e _ he => ?_
  unfold isCharged at he ⊢
  rw [Bool.and_eq_true] at he ⊢
  have hday := of_decide_eq_true he.2
  exact ⟨he.1, decide_eq_true (by omega)⟩

theorem charged_filter_le (day : Int) (keep : Posting → Bool) (book : List Posting) :
    charged userId contentType day (book.filter keep) ≤ charged userId contentType day book :=
  List.filter_sublist.countP_le

theorem charged_single_le (day : Int) (e : Posting) :
    charged userId contentType day [e] ≤ 1 := List.countP_le_length

variable {userId contentType}

theorem charged_single_of_not_counts {row : Usage} (h : ¬ counts userId contentType row = true)
    (day : Int) (byGate : Bool) : charged userId contentType day [⟨row, byGate⟩] = 0 := by
  unfold charged isCharged
  rw [List.countP_singleton, Bool.eq_false_iff.2 h, Bool.and_false, Bool.false_and,
    if_neg Bool.false_ne_true]

end Posting

/-- Whether an event is a submission to the gate. -/
def Event.isSubmission : Event → Bool
  | .process .. => true
  | _ => false

/-- The verdicts with which an event is handed to the gate. -/
def Event.verdicts : Event → List Verdict
  | .process _ _ verdicts => verdicts
  | _ => []

namespace Step

/-- The book after a step: what left the table is struck out, and what came to its end is posted. -/
def post (book : List Posting) (st : Step) : List Posting :=
  book.filter (fun e => e.row ∈ st.after.store.usage)
    ++ (st.after.store.usage.drop st.before.store.usage.length).map (⟨·, st.event.isSubmission⟩)

/-- The book of some steps, from an empty table on. -/
def book (sts : List Step) : List Posting := sts.foldl post []

/-- The session to which steps lead. -/
def reached (s : Session) (sts : List Step) : Session := sts.foldl (fun _ st => st.after) s

/-- Rows that a step adds are posted with their origin. -/
theorem post_of_added {st : Step} {book : List Posting} {rows : List Usage}
    (hbook : book.map Posting.row = st.before.store.usage)
    (h : st.after.store.usage = st.before.store.usage ++ rows) :
    st.post book = book ++ rows.map (⟨·, st.event.isSubmission⟩) := by
  have hkept : book.filter (fun e => e.row ∈ st.after.store.usage) = book := by
    refine List.filter_eq_self.2 fun e he => ?_
    have hrow : e.row ∈ st.before.store.usage := hbook ▸ List.mem_map_of_mem he
    rw [h]
    simp [hrow]
  unfold post
  rw [hkept, h, List.drop_left]

/-- Rows that a step drops by their contents are struck out. -/
theorem post_of_left {st : Step} {book : List Posting} {keep : Usage → Bool}
    (hbook : book.map Posting.row = st.before.store.usage)
    (h : st.after.store.usage = st.before.store.usage.filter keep) :
    st.post book = book.filter fun e => keep e.row := by
  have hkept : book.filter (fun e => e.row ∈ st.after.store.usage)
      = book.filter fun e => keep e.row := by
    refine List.filter_congr fun e he => ?_
    have hrow : e.row ∈ st.before.store.usage := hbook ▸ List.mem_map_of_mem he
    rw [h]
    simp [hrow]
  have hnew : st.after.store.usage.drop st.before.store.usage.length = [] := by
    rw [h]
    exact List.drop_eq_nil_of_le (List.length_filter_le _ _)
  unfold post
  rw [hkept, hnew, List.map_nil, List.append_nil]

/-- Around the step a user is limited: the quota is in force, the clock does not go back, and the
first placement of a submission does not bypass quotas. -/
structure Limited (userId : Int) (contentType : String) (p : Period) (limit : Int) (st : Step) :
    Prop where
  quota : ∃ q, st.before.store.getQuota userId (.text contentType) = .ok (some q) ∧
    q.period = .text p.word ∧ q.limit = .int limit ∧ q.bypass = false
  clock : st.before.now.micros ≤ st.after.now.micros
  primary : ∀ item context verdicts, st.event = .process item context verdicts →
    ∀ primary placement rest, verdicts.filterMap Gate.actionable? = (primary, placement) :: rest →
      placement.bypassQuota = false

/-- Whether a user is limited around the step. -/
def isLimited (userId : Int) (contentType : String) (p : Period) (limit : Int) (st : Step) : Bool :=
  ((st.before.store.getQuota userId (.text contentType)).toOption.join.any fun q =>
    Column.same q.period (.text p.word) && Column.same q.limit (.int limit) && !q.bypass) &&
  decide (st.before.now.micros ≤ st.after.now.micros) &&
  (st.event.verdicts.filterMap Gate.actionable?).all fun v => !v.2.bypassQuota

theorem Limited.of_check {userId : Int} {contentType : String} {p : Period} {limit : Int} {st : Step}
    (h : st.isLimited userId contentType p limit = true) : st.Limited userId contentType p limit := by
  unfold isLimited at h
  rw [Bool.and_eq_true, Bool.and_eq_true] at h
  obtain ⟨⟨hquota, hclock⟩, hverdicts⟩ := h
  obtain ⟨q, hfound, hq⟩ := (Option.any_eq_true _ _).1 hquota
  rw [Bool.and_eq_true, Bool.and_eq_true] at hq
  obtain ⟨⟨hperiod, hlimit⟩, hcounts⟩ := hq
  refine ⟨⟨q, ok_of_toOption (Option.join_eq_some_iff.1 hfound), Column.eq_of_same hperiod,
    Column.eq_of_same hlimit, (Bool.not_eq_true' _).mp hcounts⟩, of_decide_eq_true hclock, ?_⟩
  intro item context verdicts he primary placement rest hfirst
  have hfirst : st.event.verdicts.filterMap Gate.actionable? = (primary, placement) :: rest := by
    rw [he]
    exact hfirst
  rw [hfirst, List.all_cons, Bool.and_eq_true] at hverdicts
  exact (Bool.not_eq_true' _).mp hverdicts.1

/-- Where the gate finds nothing against a limited user, less is counted than the limit. -/
theorem Limited.usage_lt {userId : Int} {contentType : String} {p : Period} {limit : Int} {st : Step}
    (h : st.Limited userId contentType p limit) {v : Value} {placement : Placement} {s : Session}
    (hstored : Column.text v = .ok (.text contentType)) (hbypass : placement.bypassQuota = false)
    (asked : st.before.SameTables s)
    (free : (Gate.userReason v userId placement s).1 = .ok none) :
    ∃ w, p.window st.before.now.date = .ok w ∧ (st.before.store.usage.countP fun u =>
      counts userId contentType u && w.contains u.date : Nat) < limit := by
  obtain ⟨q, hq, hperiod, hlimit, hcounts⟩ := h.quota
  obtain ⟨answer, s₁, s₂, hs, hanswer, hfree⟩ := Gate.userReason_none hbypass free
  have hsame := asked.trans hs
  have hquota : s₁.store.getQuota userId v = .ok (some q) := by
    rw [hsame.store, getQuota_congr (hstored.trans (Column.text_text _).symm), hq]
  cases answer with
  | none =>
    -- there is a quota, so its status is known
    have hnone := Quota.status_none hanswer
    rw [hquota] at hnone
    cases hnone
  | some a =>
    obtain ⟨q', p', w, hread⟩ := Quota.status_some hanswer
    obtain rfl : q = q' := Option.some.inj (Except.ok.inj (hquota.symm.trans hread.quota))
    have hp := hread.period
    rw [hperiod, periodOf_word] at hp
    obtain rfl := Except.ok.inj hp
    have hwindow := hread.window
    have husage := countUsage_ok hstored hread.usage
    have hreaches := hread.exceeded hcounts
    rw [hlimit, Quota.reaches_int, hfree a rfl] at hreaches
    have hlt := of_decide_eq_false (Except.ok.inj hreaches)
    rw [hsame.now] at hwindow
    rw [husage, hsame.store] at hlt
    exact ⟨w, hwindow, by omega⟩

end Step

/-- What holds of the book all along a run: its rows are those of the table and not of days to come,
and what the gate wrote in the window of today stays within the limit. -/
structure InBounds (userId : Int) (contentType : String) (p : Period) (limit : Int) (s : Session)
    (book : List Posting) : Prop where
  rows : book.map Posting.row = s.store.usage
  past : ∀ e ∈ book, e.row.date.ordinal ≤ s.now.date.ordinal
  charged : (Posting.charged userId contentType (p.firstDay s.now.date) book : Int) ≤ max 0 limit

namespace InBounds

variable {userId : Int} {contentType : String} {p : Period} {limit : Int}

/-- All that the gate wrote from the first day of the window on is in the table, in the window. -/
theorem charged_le {s : Session} {book : List Posting}
    (h : InBounds userId contentType p limit s book) {w : Window}
    (hw : p.window s.now.date = .ok w) :
    Posting.charged userId contentType (p.firstDay s.now.date) book
      ≤ s.store.usage.countP fun u => counts userId contentType u && w.contains u.date := by
  rw [← h.rows, List.countP_map]
  refine List.countP_mono_left fun e he hcharged => ?_
  unfold Posting.isCharged at hcharged
  rw [Bool.and_eq_true, Bool.and_eq_true] at hcharged
  obtain ⟨⟨-, hcounts⟩, hday⟩ := hcharged
  have hcontains : w.contains e.row.date = true :=
    (Period.contains_window hw _).2 ⟨of_decide_eq_true hday, h.past e he⟩
  exact (Bool.and_eq_true _ _).mpr ⟨hcounts, hcontains⟩

/-- Rows of today keep the book in bounds if those of the gate leave it within the limit. -/
theorem of_added {st : Step} {book : List Posting} {rows : List Usage}
    (h : InBounds userId contentType p limit st.before book)
    (hl : st.Limited userId contentType p limit)
    (hadded : st.after.store.usage = st.before.store.usage ++ rows)
    (htoday : ∀ u ∈ rows, u.date = st.before.now.date)
    (hcharged : (Posting.charged userId contentType (p.firstDay st.before.now.date) book : Int)
      + Posting.charged userId contentType (p.firstDay st.before.now.date)
        (rows.map (⟨·, st.event.isSubmission⟩)) ≤ max 0 limit) :
    InBounds userId contentType p limit st.after (st.post book) := by
  have hdays := date_mono hl.clock
  rw [Step.post_of_added h.rows hadded]
  refine ⟨?_, fun e he => ?_, ?_⟩
  · rw [List.map_append, h.rows, List.map_map, hadded]
    congr 1
    exact List.map_id _
  · rcases List.mem_append.1 he with he | he
    · exact Nat.le_trans (h.past e he) hdays
    · obtain ⟨u, hu, rfl⟩ := List.mem_map.1 he
      rw [htoday u hu]
      exact hdays
  · have hmono := Posting.charged_mono userId contentType (p.firstDay_mono hdays)
      (book ++ rows.map (⟨·, st.event.isSubmission⟩))
    have happend := Posting.charged_append userId contentType (p.firstDay st.before.now.date) book
      (rows.map (⟨·, st.event.isSubmission⟩))
    omega

/-- Every step of a run in which the user is limited keeps the book in bounds. -/
theorem post {st : Step} {book : List Posting}
    (h : InBounds userId contentType p limit st.before book) (hc : st.Counting)
    (hl : st.Limited userId contentType p limit) :
    InBounds userId contentType p limit st.after (st.post book) := by
  have hcharged := h.charged
  cases hc with
  | kept same =>
    have hadded : st.after.store.usage = st.before.store.usage ++ [] := by
      rw [same, List.append_nil]
    exact h.of_added hl hadded nofun hcharged
  | @routed item context verdicts _ primary placement rest _ userId' stored event _ _ hstored added
      first asked free =>
    refine h.of_added hl added (fun u hu => by rw [List.mem_singleton.1 hu]) ?_
    rw [List.map_singleton]
    by_cases hcounts : counts userId contentType ⟨userId', stored, st.before.now.date⟩ = true
    · -- the gate found nothing against the user, so one more is within the limit
      obtain ⟨huser, hct⟩ : userId' = userId ∧ stored = contentType := counts_iff.1 hcounts
      subst userId' stored
      have hbypass := hl.primary item context verdicts event primary placement rest first
      obtain ⟨w, hw, hlt⟩ := hl.usage_lt hstored hbypass asked free
      have hle := h.charged_le hw
      have hone := Posting.charged_single_le userId contentType (p.firstDay st.before.now.date)
        ⟨⟨userId, contentType, st.before.now.date⟩, st.event.isSubmission⟩
      omega
    · rw [Posting.charged_single_of_not_counts hcounts]
      omega
  | executed event added =>
    refine h.of_added hl added (fun u hu => by rw [List.mem_singleton.1 hu]) ?_
    -- the row of an approval is not the gate's
    rw [event, List.map_singleton]
    change (_ : Int) + ((0 : Nat) : Int) ≤ max 0 limit
    omega
  | @discarded _ day event left =>
    have hdays := date_mono hl.clock
    rw [Step.post_of_left h.rows left]
    refine ⟨?_, fun e he => ?_, ?_⟩
    · rw [left, ← h.rows, List.filter_map]
      rfl
    · exact Nat.le_trans (h.past e (List.mem_filter.1 he).1) hdays
    · have hfilter := Posting.charged_filter_le userId contentType (p.firstDay st.after.now.date)
        (fun e => day.ordinal ≤ e.row.date.ordinal) book
      have hmono := Posting.charged_mono userId contentType (p.firstDay_mono hdays) book
      omega

end InBounds

theorem Linked.inBounds {s s' : Session} {sts : List Step} (h : Linked s sts s')
    {userId : Int} {contentType : String} {p : Period} {limit : Int}
    (hsound : ∀ st ∈ sts, st.Sound) (hl : ∀ st ∈ sts, st.Limited userId contentType p limit)
    {book : List Posting} (hbook : InBounds userId contentType p limit s book) :
    InBounds userId contentType p limit s' (sts.foldl Step.post book) := by
  induction h generalizing book with
  | nil => exact hbook
  | @cons s _ st sts happens _ ih =>
    have hfirst : st ∈ st :: sts := List.mem_cons_self
    rw [← happens.before_eq] at hbook
    exact ih (fun x hx => hsound x (List.mem_cons_of_mem _ hx))
      (fun x hx => hl x (List.mem_cons_of_mem _ hx))
      (hbook.post (hsound st hfirst).counting (hl st hfirst))

theorem Linked.reached_eq {s s' : Session} {sts : List Step} (h : Linked s sts s') :
    Step.reached s sts = s' := by
  induction h with
  | nil => rfl
  | cons _ _ ih => exact ih

/-- Consider any course of operations that starts where nothing is counted and in which a user is
limited for a type of content: a quota of some period is in force with the same limit all along, the
clock does not go back, and no submission bypasses quotas. At each moment the book of what was posted
so far has the rows of the table, and of those in the window of that day the gate wrote no more than
the limit for the user and the type of content. -/
theorem gate_stays_within_limit {s : Session} (hs : Reachable s) (hempty : s.store.usage = [])
    (ts : List Turn) {userId : Int} {contentType : String} {p : Period} {limit : Int}
    (hl : ∀ st ∈ Course.steps ts s, st.Limited userId contentType p limit)
    {past future : List Step} (hsplit : Course.steps ts s = past ++ future) :
    (Step.book past).map Posting.row = (Step.reached s past).store.usage ∧
    ∀ w, p.window (Step.reached s past).now.date = .ok w →
      ((Step.book past).countP fun e =>
        e.byGate && counts userId contentType e.row && w.contains e.row.date : Nat)
        ≤ max 0 limit := by
  have hlinked := Course.linked ts s
  have hsound := (hlinked.sound hs.wellKept).2
  rw [hsplit] at hlinked hsound hl
  obtain ⟨s', hpast, -⟩ := hlinked.split
  have hstart : InBounds userId contentType p limit s [] := ⟨hempty.symm, nofun, Int.le_max_left _ _⟩
  have hbounds := hpast.inBounds (fun st hst => hsound st (List.mem_append_left _ hst))
    (fun st hst => hl st (List.mem_append_left _ hst)) hstart
  rw [hpast.reached_eq]
  refine ⟨hbounds.rows, fun w hw => ?_⟩
  have hle : (Step.book past).countP (fun e =>
      e.byGate && counts userId contentType e.row && w.contains e.row.date)
        ≤ Posting.charged userId contentType (p.firstDay s'.now.date) (Step.book past) := by
    refine List.countP_mono_left fun e _ he => ?_
    rw [Bool.and_eq_true] at he
    have hfirst := ((Period.contains_window hw _).1 he.2).1
    exact (Bool.and_eq_true _ _).mpr ⟨he.1, decide_eq_true hfirst⟩
  have hcharged : (Posting.charged userId contentType (p.firstDay s'.now.date) (Step.book past) : Int)
      ≤ max 0 limit := hbounds.charged
  omega

/-- For instance, one film is routed, a second one waits and is approved, and a third one waits. -/
theorem gate_stays_within_limit_one_a_day :
    let service : Service := {}
    let today : Date := ⟨738959⟩
    let s := Course.run [
      ⟨service, .single (.putUser 1 (.text "Ann") (.bool false))⟩,
      ⟨service, .single (.putQuota ⟨1, .text "movie", .text "daily", .int 1, false⟩)⟩,
      ⟨service, .single (.putInstance { id := 1, type := .text "radarr" })⟩] { now := .ofDate today }
    let steps := Course.steps [
      ⟨service, .single (.film 1 "Dune" ["tmdb:1"])⟩, ⟨service, .single (.film 1 "Heat" ["tmdb:2"])⟩,
      ⟨service, .approveAll [1] (.int 7) .null⟩, ⟨service, .single (.film 1 "Alien" ["tmdb:3"])⟩] s
    (Step.reached s steps).store.usage.length = 2 ∧
      ((Step.book steps).countP fun e =>
        e.byGate && counts 1 "movie" e.row && Window.contains ⟨today, today⟩ e.row.date : Nat)
        ≤ max (0 : Int) 1 := by
  intro service today s steps
  have hs : Reachable s := .run (.start rfl) _
  have hcheck : (steps.all fun st => st.isLimited 1 "movie" .daily 1) = true := by decide +kernel
  have hl : ∀ st ∈ steps, st.Limited 1 "movie" .daily 1 :=
    fun st hst => .of_check (List.all_eq_true.1 hcheck st hst)
  refine ⟨by decide +kernel, ?_⟩
  have hnow : (Step.reached s steps).now.date = today := by decide +kernel
  refine (gate_stays_within_limit hs rfl _ hl (List.append_nil _).symm).2 ⟨today, today⟩ ?_
  rw [hnow]
  rfl

end Watchgate
