import Watchgate.Proofs.Approval.Table
import Watchgate.Proofs.Routing.Finding
import Watchgate.Proofs.Store.RuleTable

/-!
# Listings

Listings are shown page by page. Whatever the size of its pages, a listing shows each request once and
in order, since the order leaves no two requests undecided: two requests made at the same moment differ
in their ids. What is counted for a status is what the listing of that status shows.

Sizes, offsets and ids of users have to fit into 64 bits.
-/

namespace Watchgate

open Act Calendar Store

/-! ## Pages -/

namespace Store

variable {α : Type}

theorem page_eq {k offset : Nat} (hk : Column.fits k) (hoffset : Column.fits offset)
    (rows : List α) : page k offset rows = .ok ((rows.drop offset).take k) := by
  have hlimit : Column.checked k = .ok (k : Int) := if_pos hk
  have hstart : Column.checked offset = .ok (offset : Int) := if_pos hoffset
  have hneg : ¬ (k : Int) < 0 := by omega
  unfold page
  rw [hlimit, hstart]
  change Except.ok (if (k : Int) < 0 then rows.drop offset else (rows.drop offset).take k) = _
  rw [if_neg hneg]

/-- A page of a size for which there is no room is refused. -/
theorem page_refused {limit : Int} (h : ¬ Column.fits limit) (offset : Int) (rows : List α) :
    page limit offset rows = .error .outOfRange := by
  have hlimit : Column.checked limit = .error .outOfRange := if_neg h
  unfold page
  rw [hlimit]
  rfl

/-- Pages of equal size, one after the other, are the rows in their order. -/
theorem flatten_pages (rows : List α) (k n : Nat) :
    ((List.range n).map fun i => (rows.drop (i * k)).take k).flatten = rows.take (n * k) := by
  induction n with
  | zero => simp
  | succ n ih =>
    rw [List.range_succ, List.map_append, List.flatten_append, ih, Nat.succ_mul, List.take_add]
    simp

end Store

namespace Desk

/-- The first pages of a listing, `k` requests on each. -/
def firstPages (list : Int → Int → Act (List Request)) (k n : Nat) : Act (List (List Request)) :=
  (List.range n).mapM fun i => list k (i * k : Nat)

/-- The listing shows the rows by pages and changes nothing; it refuses what no page can be had of. -/
structure Reads (list : Int → Int → Act (List Request)) (s : Session) (rows : List Request) :
    Prop where
  shows : ∀ {limit offset shown}, page limit offset rows = .ok shown →
    list limit offset s = (.ok (shown.map (named s.store)), s)
  refuses : ∀ {limit offset e}, page limit offset rows = .error e →
    (list limit offset s).1 = .error e

/-- What it is that a listing shows the requests asked for: each of them once, in the order. Its first
pages together are the beginning of the listing, and some number of pages is all of it. -/
structure Paging (list : Int → Int → Act (List Request)) (s : Session)
    (order : Request → Request → Prop) (asked : Request → Prop) (rows : List Request) : Prop where
  mem : ∀ r, r ∈ rows ↔ ∃ row ∈ s.store.requests, asked row ∧ r = named s.store row
  once : (rows.map Request.id).Nodup
  ordered : rows.Pairwise order
  first : ∀ k n : Nat, Column.fits k → (∀ i < n, Column.fits (i * k : Nat)) →
    ∃ pages, firstPages list k n s = (.ok pages, s) ∧ pages.flatten = rows.take (n * k)
  all : rows.length ≤ Column.highest → ∀ k : Nat, 1 ≤ k → Column.fits k →
    ∃ n pages, firstPages list k n s = (.ok pages, s) ∧ pages.flatten = rows
  refused : ∀ limit offset, ¬ Column.fits limit → (list limit offset s).1 = .error .outOfRange

variable {list : Int → Int → Act (List Request)} {s : Session} {rows : List Request} {k n : Nat}

theorem Reads.firstPages_eq (h : Reads list s rows) (hk : Column.fits k)
    (hoffsets : ∀ i < n, Column.fits (i * k : Nat)) :
    firstPages list k n s
      = (.ok ((List.range n).map fun i => ((rows.drop (i * k)).take k).map (named s.store)), s) := by
  unfold firstPages
  have hall : ∀ i ∈ List.range n, Column.fits (i * k : Nat) :=
    fun i hi => hoffsets i (List.mem_range.1 hi)
  generalize List.range n = is at hall ⊢
  induction is with
  | nil => rfl
  | cons i is ih =>
    obtain ⟨hfirst, hrest⟩ := List.forall_mem_cons.1 hall
    rw [List.mapM_cons, bind_of_ok (h.shows (page_eq hk hfirst rows)), bind_of_ok (ih hrest)]
    rfl

theorem Reads.first (h : Reads list s rows) (hk : Column.fits k)
    (hoffsets : ∀ i < n, Column.fits (i * k : Nat)) :
    ∃ pages, firstPages list k n s = (.ok pages, s) ∧
      pages.flatten = (rows.map (named s.store)).take (n * k) := by
  refine ⟨_, h.firstPages_eq hk hoffsets, ?_⟩
  rw [← flatten_pages]
  simp only [List.map_take, List.map_drop]

/-- There are as many pages as it takes, since their offsets stay below the number of rows. -/
theorem Reads.all (h : Reads list s rows) (hrows : rows.length ≤ Column.highest) (hpos : 1 ≤ k)
    (hk : Column.fits k) :
    ∃ n pages, firstPages list k n s = (.ok pages, s) ∧
      pages.flatten = rows.map (named s.store) := by
  have hoffsets : ∀ i < rows.length / k + 1, Column.fits (i * k : Nat) := by
    intro i hi
    have hle : i * k ≤ rows.length :=
      Nat.le_trans (Nat.mul_le_mul_right k (Nat.le_of_lt_succ hi)) (Nat.div_mul_le_self _ _)
    unfold Column.fits Column.lowest
    rw [Bool.and_eq_true, decide_eq_true_eq, decide_eq_true_eq]
    omega
  obtain ⟨pages, hpages, hflat⟩ := h.first hk hoffsets
  refine ⟨_, pages, hpages, hflat.trans (List.take_of_length_le ?_)⟩
  rw [List.length_map, Nat.mul_comm]
  exact Nat.le_of_lt (Nat.lt_mul_div_succ _ hpos)

/-- A listing that reads the rows that it keeps, sorted. -/
theorem Reads.paging {order : Request → Request → Prop} {asked : Request → Prop}
    {keeps : Request → Bool} {le : Request → Request → Bool}
    (h : Reads list s ((s.store.requests.filter keeps).mergeSort le))
    (hasked : ∀ r, keeps r = true ↔ asked r) (hids : (s.store.requests.map Request.id).Nodup)
    (hordered : ((s.store.requests.filter keeps).mergeSort le).Pairwise fun a b =>
      order (named s.store a) (named s.store b)) :
    Paging list s order asked
      (((s.store.requests.filter keeps).mergeSort le).map (named s.store)) where
  mem r := by
    rw [List.mem_map]
    constructor
    · rintro ⟨row, hrow, rfl⟩
      obtain ⟨hmem, hkeeps⟩ := List.mem_filter.1 (List.mem_mergeSort.1 hrow)
      exact ⟨row, hmem, (hasked row).1 hkeeps, rfl⟩
    · rintro ⟨row, hmem, hrow, rfl⟩
      exact ⟨row, List.mem_mergeSort.2 (List.mem_filter.2 ⟨hmem, (hasked row).2 hrow⟩), rfl⟩
  once := by
    have hsame : (Request.id ∘ named s.store) = Request.id := rfl
    rw [List.map_map, hsame]
    refine ((List.mergeSort_perm _ _).map _).nodup_iff.2 ?_
    exact hids.sublist (List.filter_sublist.map _)
  ordered := List.pairwise_map.2 hordered
  first k n hk hoffsets := h.first hk hoffsets
  all hlength k hpos hk := h.all (by rwa [List.length_map] at hlength) hpos hk
  refused limit offset hlimit := h.refuses (page_refused hlimit offset _)

end Desk

/-! ## Order -/

namespace Request

/-- `a` was made before `b`, or at the same moment and has the lower id. -/
def Precedes (a b : Request) : Prop :=
  ∃ t u, a.createdAt = some t ∧ b.createdAt = some u ∧
    (t.micros < u.micros ∨ t.micros = u.micros ∧ a.id < b.id)

/-- It is known when the request was made. -/
def Dated (r : Request) : Prop := r.createdAt.isSome = true

theorem isOlder_trans (a b c : Request) (hab : isOlder a b = true) (hbc : isOlder b c = true) :
    isOlder a c = true := by
  unfold isOlder at hab hbc ⊢
  simp only [Bool.or_eq_true, Bool.and_eq_true, decide_eq_true_eq] at hab hbc ⊢
  omega

theorem isOlder_total (a b : Request) : (isOlder a b || isOlder b a) = true := by
  unfold isOlder
  simp only [Bool.or_eq_true, Bool.and_eq_true, decide_eq_true_eq]
  omega

theorem precedes_of_isOlder {a b : Request} (ha : a.Dated) (hb : b.Dated) (hne : a.id ≠ b.id)
    (h : isOlder a b = true) : a.Precedes b := by
  obtain ⟨t, ht⟩ := Option.isSome_iff_exists.1 ha
  obtain ⟨u, hu⟩ := Option.isSome_iff_exists.1 hb
  refine ⟨t, u, ht, hu, ?_⟩
  unfold isOlder at h
  rw [ht, hu] at h
  simp only [Option.map_some, Option.getD_some, Bool.or_eq_true, Bool.and_eq_true,
    decide_eq_true_eq] at h
  omega

variable {rows : List Request}

theorem ne_of_sorted {le : Request → Request → Bool} (hids : (rows.map id).Nodup) :
    (rows.mergeSort le).Pairwise fun a b => a.id ≠ b.id :=
  List.pairwise_map.1 (((List.mergeSort_perm rows le).map id).nodup_iff.2 hids)

/-- Dated requests with distinct ids are sorted strictly. -/
theorem sorted_oldest (hids : (rows.map id).Nodup) (hdated : ∀ r ∈ rows, r.Dated) :
    (rows.mergeSort isOlder).Pairwise Precedes := by
  have hsorted := List.pairwise_mergeSort isOlder_trans isOlder_total rows
  refine List.Pairwise.imp_of_mem ?_ (hsorted.and (ne_of_sorted hids))
  intro a b ha hb h
  exact precedes_of_isOlder (hdated a (List.mem_mergeSort.1 ha)) (hdated b (List.mem_mergeSort.1 hb))
    h.2 h.1

theorem sorted_newest (hids : (rows.map id).Nodup) (hdated : ∀ r ∈ rows, r.Dated) :
    (rows.mergeSort fun a b => isOlder b a).Pairwise fun a b => b.Precedes a := by
  have hsorted : (rows.mergeSort fun a b => isOlder b a).Pairwise fun a b => isOlder b a = true :=
    List.pairwise_mergeSort (fun a b c hab hbc => isOlder_trans c b a hbc hab)
      (fun a b => isOlder_total b a) rows
  refine List.Pairwise.imp_of_mem ?_ (hsorted.and (ne_of_sorted hids))
  intro a b ha hb h
  exact precedes_of_isOlder (hdated b (List.mem_mergeSort.1 hb)) (hdated a (List.mem_mergeSort.1 ha))
    (Ne.symm h.2) h.1

end Request

theorem Store.dated_of_addRequest {n : NewRequest} {now : Moment} {s s' : Store} {request : Request}
    (h : s.addRequest n now = .ok (request, s')) :
    ∀ r ∈ s'.requests, r ∈ s.requests ∨ r.Dated := by
  obtain ⟨kept, row, hkept, -, -, rfl, -⟩ := newRow_of_addRequest h
  obtain ⟨user, row', kept', -, htold, hrow, hlast⟩ := addRequest_told h
  obtain rfl : row = row' := (List.cons.inj (List.append_inj_right' hlast rfl)).1
  have hdated : row.Dated := by
    obtain ⟨_, -, hrow⟩ := ok_of_bind hrow
    obtain ⟨_, -, hrow⟩ := ok_of_bind hrow
    obtain ⟨_, -, hrow⟩ := ok_of_bind hrow
    obtain ⟨_, -, hrow⟩ := ok_of_bind hrow
    obtain ⟨_, -, hrow⟩ := ok_of_bind hrow
    obtain ⟨_, -, hrow⟩ := ok_of_bind hrow
    rw [← pure_ok hrow, htold]
    rfl
  intro r hr
  rcases List.mem_append.1 hr with hr | hr
  · exact .inl (hkept.sublist.subset hr)
  · rw [List.mem_singleton.1 hr]
    exact .inr hdated

/-- Of every stored request it is known when it was made. -/
theorem Reachable.dated {s : Session} (h : Reachable s) : ∀ r ∈ s.store.requests, r.Dated := by
  refine h.each (P := Request.Dated) (fun {r r'} he hr => ?_)
    fun service item context verdicts s r hr => ?_
  · unfold Request.Dated
    rw [he.matter.createdAt]
    exact hr
  · have heffect := Gate.process_effect (g := service.gate) service.quiet_partners item context
      verdicts s
    rcases heffect.requests_cases with
      hsame | ⟨_, _, _, _, _, _, request, store, -, -, -, hadd, hrequests⟩
    · rw [hsame] at hr
      exact .inl hr
    · rw [hrequests] at hr
      exact dated_of_addRequest hadd r hr

/-! ## What is asked for -/

namespace Store

/-- A text, or nothing. -/
def MayBeText (v : Value) : Prop := v = .null ∨ ∃ t, v = .text t

/-- A stored value is the text asked for, unless nothing or the empty text is. -/
def Meets (asked stored : Value) : Prop := ∀ t, asked = .text t → t ≠ "" → stored = .text t

namespace RequestFilter

/-- Every part of the filter is missing or fits into its column. -/
structure IsAsking (f : RequestFilter) : Prop where
  user : ∀ u, f.userId = some u → Column.fits u
  status : MayBeText f.status
  contentType : MayBeText f.contentType
  trigger : MayBeText f.triggeredBy

/-- The request is one of those that the filter asks for. -/
structure Matches (f : RequestFilter) (r : Request) : Prop where
  user : ∀ u, f.userId = some u → r.userId = u
  status : Meets f.status (.text r.status.name)
  contentType : Meets f.contentType r.contentType
  trigger : Meets f.triggeredBy r.triggeredBy

end RequestFilter

theorem isAsked_iff {asked stored : Value} (h : MayBeText asked) :
    isAsked asked stored = true ↔ Meets asked stored := by
  unfold isAsked Meets
  rcases h with rfl | ⟨t, rfl⟩
  · simp [Value.truthy]
  · rw [same_text]
    by_cases ht : t = ""
    · subst ht
      simp [Value.truthy]
    · have hsome : (Value.text t).truthy = true := by simp [Value.truthy, ht]
      rw [hsome, Bool.not_true, Bool.false_or, Rule.isOneOf_singleton]
      constructor
      · intro h t' ht' _
        rw [h, ht']
      · exact fun h => h t rfl ht

theorem mapM_checked {userId : Option Int} (h : ∀ u, userId = some u → Column.fits u) :
    userId.mapM Column.checked = .ok userId := by
  cases userId with
  | none => rfl
  | some u =>
    have hfits : Column.checked u = .ok u := if_pos (h u rfl)
    rw [Option.mapM_some, hfits]
    rfl

/-- What is asked for is a text that is not empty, or nothing. -/
def asked (v : Value) : Value := if v.truthy then v else .null

theorem asked_bind {α : Type} {v : Value} (h : MayBeText v) (next : Value → Except Failure α) :
    (if v.truthy = true then Column.text v >>= next else .ok .null >>= next) = next (asked v) := by
  unfold asked
  rcases h with rfl | ⟨t, rfl⟩
  · rfl
  · split <;> rfl

theorem isAsked_asked {v : Value} (h : MayBeText v) (stored : Value) :
    isAsked (asked v) stored = true ↔ Meets v stored := by
  rw [← isAsked_iff h]
  unfold asked
  split
  · rfl
  · rename_i hfalse
    unfold isAsked
    rw [Bool.not_eq_true] at hfalse
    rw [hfalse]
    rfl

theorem RequestFilter.stored_ok {f : RequestFilter} (h : f.IsAsking) :
    ∃ kept, f.stored = .ok kept ∧ ∀ r, kept.admits r = true ↔ f.Matches r := by
  have huser := mapM_checked h.user
  refine ⟨⟨f.userId, asked f.status, asked f.contentType, asked f.triggeredBy⟩, ?_, fun r => ?_⟩
  · unfold stored
    rw [huser, ok_bind]
    dsimp only
    rw [asked_bind h.status, asked_bind h.contentType, asked_bind h.trigger]
    rfl
  · have hall : f.userId.all (· = r.userId) = true ↔ ∀ u, f.userId = some u → r.userId = u := by
      cases f.userId <;> simp [eq_comm]
    unfold admits
    rw [Bool.and_eq_true, Bool.and_eq_true, Bool.and_eq_true, hall, isAsked_asked h.status,
      isAsked_asked h.contentType, isAsked_asked h.trigger]
    constructor
    · rintro ⟨⟨⟨user, status⟩, contentType⟩, trigger⟩
      exact ⟨user, status, contentType, trigger⟩
    · rintro ⟨user, status, contentType, trigger⟩
      exact ⟨⟨⟨user, status⟩, contentType⟩, trigger⟩

end Store

/-! ## The listings -/

namespace Desk

variable {s : Session} {rows : List Request}

theorem reads_of_read {list : Int → Int → Act (List Request)} {call : StoreCall}
    {f : Int → Int → Store → Except Failure (List Request)} (ho : s.outages = [])
    (hlist : ∀ limit offset, list limit offset s = Act.read call none (f limit offset) s)
    (hf : ∀ limit offset,
      f limit offset s.store = (page limit offset rows).map (·.map (named s.store))) :
    Reads list s rows where
  shows {limit offset shown} h := by
    rw [hlist]
    exact read_of_ok ho (by rw [hf, h]; rfl)
  refuses {limit offset e} h := by
    have hfails : f limit offset s.store = .error e := by
      rw [hf, h]
      rfl
    rw [hlist, Act.read, outage?_nil ho, hfails]

theorem bind_named (x : Except Failure (List Request)) :
    (x >>= fun rows => pure (rows.map (named s.store))) = x.map (·.map (named s.store)) := by
  cases x <;> rfl

theorem reads_listPending (ho : s.outages = []) :
    Reads listPending s ((s.store.requests.filter fun r =>
      r.status = .pending && !r.isStaleAt s.now).mergeSort isOlder) := by
  refine reads_of_read ho (fun limit offset => bind_of_ok (x := Act.now) rfl) fun limit offset => ?_
  exact bind_named _

theorem reads_history (ho : s.outages = []) {f kept : RequestFilter} (h : f.stored = .ok kept) :
    Reads (history f) s ((s.store.requests.filter kept.admits).mergeSort
      fun a b => isOlder b a) := by
  refine reads_of_read ho (fun limit offset => rfl) fun limit offset => ?_
  unfold Store.requestHistory
  rw [h]
  exact bind_named _

/-- The listing of what waits. -/
theorem paging_listPending (hs : Reachable s) (ho : s.outages = []) :
    ∃ rows, Paging listPending s Request.Precedes
      (fun r => r.status = .pending ∧ r.isStaleAt s.now = false) rows := by
  have hids := hs.wellKept.distinct
  refine ⟨_, (reads_listPending ho).paging (fun r => ?_) hids ?_⟩
  · rw [Bool.and_eq_true, decide_eq_true_eq, Bool.not_eq_true']
  · exact Request.sorted_oldest (hids.sublist (List.filter_sublist.map _))
      fun r hr => hs.dated r (List.mem_filter.1 hr).1

/-- The listing of a filter, and how long it is. -/
theorem paging_history (hs : Reachable s) (ho : s.outages = []) {f : RequestFilter}
    (hf : f.IsAsking) :
    ∃ keeps : Request → Bool, (∀ r, keeps r = true ↔ f.Matches r) ∧ ∃ rows,
      Paging (history f) s (fun a b => b.Precedes a) f.Matches rows ∧
        rows.length = s.store.requests.countP keeps := by
  obtain ⟨kept, hstored, hadmits⟩ := RequestFilter.stored_ok hf
  have hids := hs.wellKept.distinct
  refine ⟨kept.admits, hadmits, _, (reads_history ho hstored).paging hadmits hids ?_, ?_⟩
  · exact Request.sorted_newest (hids.sublist (List.filter_sublist.map _))
      fun r hr => hs.dated r (List.mem_filter.1 hr).1
  · rw [List.length_map, List.length_mergeSort, List.countP_eq_length_filter]

/-! ## Counting -/

/-- The statuses of requests divide any of them. -/
theorem countP_statuses (p : Request → Bool) (h : ∀ r ∈ rows, r.status ∈ Status.all) :
    ((Status.all.map fun status => rows.countP fun r => p r && r.status = status)).sum
      = rows.countP p := by
  induction rows with
  | nil => rfl
  | cons r rows ih =>
    obtain ⟨hr, hrows⟩ := List.forall_mem_cons.1 h
    have ih := ih hrows
    simp only [Status.all, List.map_cons, List.map_nil, List.sum_cons, List.sum_nil,
      List.countP_cons] at ih ⊢
    simp only [Status.all, List.mem_cons, List.not_mem_nil, or_false] at hr
    cases hp : p r with
    | false => simpa using ih
    | true =>
      rcases hr with hr | hr | hr | hr <;> simp [hr] <;> omega

/-- What is counted for a user, or for all. -/
def counted (userId : Option Int) (s : Session) (status : Status) : Nat :=
  s.store.requests.countP fun r => userId.all (· = r.userId) && r.status = status

theorem stats_eq (ho : s.outages = []) {userId : Option Int}
    (huser : ∀ u, userId = some u → Column.fits u) :
    stats userId s = (.ok (Status.all.map (fun status => (status.name, .int (counted userId s status)))
      ++ [("total", .int ((Status.all.map (counted userId s)).sum : Nat))]), s) := by
  have hchecked : userId.mapM Column.checked = .ok userId := mapM_checked huser
  have hcount : Store.countRequests userId s.store = .ok (counted userId s) := by
    unfold Store.countRequests
    rw [hchecked]
    rfl
  have hread : Act.countRequests userId s = (.ok (counted userId s), s) := read_of_ok ho hcount
  have hsum : (Status.all.map fun status => (status.name, counted userId s status)).foldl
      (fun n c => n + c.2) 0 = (Status.all.map (counted userId s)).sum := by
    simp only [Status.all, List.map_cons, List.map_nil, List.foldl_cons, List.foldl_nil,
      List.sum_cons, List.sum_nil]
    omega
  unfold stats
  rw [bind_of_ok hread, hsum]
  rfl

/-- The filter for the requests with a status, of one user if one is given. -/
def withStatus (userId : Option Int) (status : Status) : RequestFilter :=
  { userId, status := .text status.name }

theorem isAsking_withStatus {userId : Option Int} (h : ∀ u, userId = some u → Column.fits u)
    (status : Status) : (withStatus userId status).IsAsking :=
  ⟨h, .inr ⟨_, rfl⟩, .inl rfl, .inl rfl⟩

/-- Statuses that requests go through are told apart by their names. -/
theorem matches_withStatus_iff {userId : Option Int} {status : Status} {r : Request}
    (hstatus : status ∈ Status.all) (hr : r.status ∈ Status.all) :
    (withStatus userId status).Matches r ↔
      (userId.all (· = r.userId) && r.status = status) = true := by
  have hnames : ∀ a ∈ Status.all, a.name ≠ "" ∧ ∀ b ∈ Status.all, b.name = a.name → b = a := by
    decide
  obtain ⟨hnonempty, hinj⟩ := hnames status hstatus
  have huser : userId.all (· = r.userId) = true ↔ ∀ u, userId = some u → r.userId = u := by
    cases userId <;> simp [eq_comm]
  rw [Bool.and_eq_true, decide_eq_true_eq, huser]
  constructor
  · intro h
    exact ⟨h.user, hinj _ hr (Value.text.inj (h.status _ rfl hnonempty))⟩
  · rintro ⟨user, rfl⟩
    exact ⟨user, fun t ht _ => ht, (fun t ht => by cases ht), (fun t ht => by cases ht)⟩

/-- What is counted for a status is how long the listing of that status is. -/
theorem paging_withStatus (hs : Reachable s) (ho : s.outages = []) {userId : Option Int}
    (huser : ∀ u, userId = some u → Column.fits u) {status : Status}
    (hstatus : status ∈ Status.all) :
    ∃ rows, Paging (history (withStatus userId status)) s (fun a b => b.Precedes a)
        (withStatus userId status).Matches rows ∧
      rows.length = counted userId s status := by
  obtain ⟨keeps, hkeeps, rows, hrows, hlength⟩ :=
    paging_history hs ho (isAsking_withStatus huser status)
  refine ⟨rows, hrows, hlength.trans (List.countP_congr fun r hr => ?_)⟩
  rw [hkeeps, matches_withStatus_iff hstatus (hs.statuses r hr)]

/-- The statistics of a user, or of all: for each status the length of its listing, and in total the
number of stored requests. -/
theorem stats_tell (hs : Reachable s) (ho : s.outages = []) {userId : Option Int}
    (huser : ∀ u, userId = some u → Column.fits u) :
    ∃ counts, stats userId s = (.ok counts, s) ∧
      (∀ status ∈ Status.all, ∃ rows, Paging (history (withStatus userId status)) s
          (fun a b => b.Precedes a) (withStatus userId status).Matches rows ∧
        Entries.get counts status.name = .int rows.length) ∧
      Entries.get counts "total"
        = .int (s.store.requests.countP fun r => userId.all (· = r.userId)) := by
  refine ⟨_, stats_eq ho huser, fun status hstatus => ?_, ?_⟩
  · obtain ⟨rows, hrows, hlength⟩ := paging_withStatus hs ho huser hstatus
    refine ⟨rows, hrows, ?_⟩
    rw [hlength]
    simp only [Status.all, List.mem_cons, List.not_mem_nil, or_false] at hstatus
    rcases hstatus with rfl | rfl | rfl | rfl <;> rfl
  · rw [← countP_statuses _ hs.statuses]
    rfl

end Desk

/-- Wherever operations lead, and whatever the time, the pages of what waits and the pages of any
history are the requests asked for, each of them once and in order, and the statistics tell for each
status how long its history is and how many requests there are. Sizes of pages for which there is no
room are refused. -/
theorem listings_agree {s : Session} (hs : Reachable s) (ho : s.outages = []) :
    (∀ t, ∃ rows, Desk.Paging Desk.listPending { s with now := t } Request.Precedes
      (fun r => r.status = .pending ∧ r.isStaleAt t = false) rows) ∧
    (∀ f : RequestFilter, f.IsAsking → ∃ rows,
      Desk.Paging (Desk.history f) s (fun a b => b.Precedes a) f.Matches rows) ∧
    ∀ userId, (∀ u, userId = some u → Column.fits u) → ∃ counts,
      Desk.stats userId s = (.ok counts, s) ∧
      (∀ status ∈ Status.all, ∃ rows,
        Desk.Paging (Desk.history (Desk.withStatus userId status)) s (fun a b => b.Precedes a)
          (Desk.withStatus userId status).Matches rows ∧
        Entries.get counts status.name = .int rows.length) ∧
      Entries.get counts "total"
        = .int (s.store.requests.countP fun r => userId.all (· = r.userId)) := by
  refine ⟨fun t => ?_, fun f hf => ?_, fun userId huser => Desk.stats_tell hs ho huser⟩
  · have hclock : Reachable { s with now := t } := hs.perform {} (.setClock t)
    exact Desk.paging_listPending hclock ho
  · obtain ⟨-, -, rows, hrows, -⟩ := Desk.paging_history hs ho hf
    exact ⟨rows, hrows⟩

/-- For instance, the listings agree where two users made requests at the same moment. -/
theorem listings_agree_same_moment :
    let item : Item := { title := .text "Dune", guids := ["tmdb:438631"] }
    let context (userId : Int) : Context := { contentType := .text "movie", userId := .one userId }
    let s := Course.run [
      ⟨{}, .single (.putUser 1 (.text "Ann") (.bool true))⟩,
      ⟨{}, .single (.putUser 2 (.text "Ben") (.bool true))⟩,
      ⟨{}, .single (.process item (context 1) [.route { instanceId := 1 }])⟩,
      ⟨{}, .single (.process item (context 2) [.route { instanceId := 1 }])⟩]
      { now := .ofDate ⟨738959⟩ }
    let ofAnn : RequestFilter := { userId := some 1, contentType := .text "movie" }
    s.store.requests.map (fun r => (r.id, r.createdAt)) = [(1, some s.now), (2, some s.now)] ∧
      (∃ rows, Desk.Paging Desk.listPending { s with now := s.now } Request.Precedes
        (fun r => r.status = .pending ∧ r.isStaleAt s.now = false) rows) ∧
      (∃ rows, Desk.Paging (Desk.history ofAnn) s (fun a b => b.Precedes a) ofAnn.Matches rows) ∧
      ∃ counts, Desk.stats (some 1) s = (.ok counts, s) ∧ Entries.get counts "total" = .int 1 := by
  intro item context s ofAnn
  have hs : Reachable s := .run (.start rfl) _
  have ho : s.outages = [] := by decide +kernel
  have hAnn : ∀ u, some (1 : Int) = some u → Column.fits u := by
    rintro u ⟨⟩
    decide
  obtain ⟨hpending, hhistory, hstats⟩ := listings_agree hs ho
  refine ⟨?_, hpending s.now, hhistory ofAnn ⟨hAnn, .inl rfl, .inr ⟨_, rfl⟩, .inl rfl⟩, ?_⟩
  · decide +kernel
  · obtain ⟨counts, hcounts, -, htotal⟩ := hstats (some 1) hAnn
    refine ⟨counts, hcounts, htotal.trans (congrArg (fun n : Nat => Value.int n) ?_)⟩
    decide +kernel

/-- A page for which there is no room is refused, although a request waits. -/
theorem listPending_too_large :
    let s := waitingFilms {} [] [(⟨738959⟩, "Dune", ["tmdb:438631"])]
    Reachable s ∧ s.outages = [] ∧ s.store.requests.map Request.status = [.pending] ∧
      (Desk.listPending 9223372036854775808 0 s).1 = .error .outOfRange := by
  intro s
  have hs : Reachable s := reachable_waitingFilms ..
  have ho : s.outages = [] := by decide +kernel
  obtain ⟨rows, hlists⟩ := Desk.paging_listPending hs ho
  exact ⟨hs, ho, by decide +kernel, hlists.refused _ 0 (by decide)⟩

end Watchgate
