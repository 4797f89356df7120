import Watchgate.Proofs.Store.RuleTable
import Watchgate.Proofs.Store.UserTable
import Watchgate.Proofs.Store.Upsert
import Watchgate.Proofs.Routing.Finding

/-!
# Which rows the tables take

A row is refused only for a value that its column has no room for: an integer that is too large, a list
or a mapping among texts, something other than a truth value among truth values, and criteria that are
no mapping. Rows are told apart by their keys.
-/

namespace Watchgate

open Store

namespace Store.Column

/-- Whether a column of texts has room for a value. -/
def Writable : Value → Prop
  | .int n => fits n = true
  | .list _ => False
  | .map _ => False
  | _ => True

theorem checked_eq {n : Int} (h : fits n = true) : checked n = .ok n := if_pos h

theorem fits_of_checked {n m : Int} (h : checked n = .ok m) : fits n = true := by
  unfold checked at h
  split at h
  · assumption
  · cases h

theorem exists_text_iff {v : Value} : (∃ w, text v = .ok w) ↔ Writable v := by
  cases v with
  | int n =>
    constructor
    · rintro ⟨w, hw⟩
      obtain ⟨m, hm, -⟩ := ok_of_map hw
      exact fits_of_checked hm
    · intro h
      exact ⟨.text (toString n), by rw [text, checked_eq h]; rfl⟩
  | list items => exact ⟨fun h => (nomatch h.choose_spec), False.elim⟩
  | map entries => exact ⟨fun h => (nomatch h.choose_spec), False.elim⟩
  | _ => exact ⟨fun _ => trivial, fun _ => ⟨_, rfl⟩⟩

theorem writable_of_requiredText {v w : Value} (h : requiredText v = .ok w) : Writable v :=
  exists_text_iff.1 ⟨w, (requiredText_ok h).1⟩

theorem exists_requiredText {v : Value} (hnull : v ≠ .null) (h : Writable v) :
    ∃ w, requiredText v = .ok w := by
  obtain ⟨w, hw⟩ := exists_text_iff.2 h
  refine ⟨w, ?_⟩
  rcases text_ok hw with rfl | ⟨s, rfl⟩
  · cases v with
    | null => exact absurd rfl hnull
    | int n =>
      obtain ⟨m, -, hm⟩ := ok_of_map hw
      cases hm
    | _ => cases hw
  · rw [requiredText, hw]
    rfl

theorem requiredText_text (s : String) : requiredText (.text s) = .ok (.text s) := rfl

end Store.Column

open Column (Writable fits)

/-! ## Instances -/

/-- What an instance is known by in the store. -/
def Instance.key (i : Instance) : Value × Int := (i.type, i.id)

/-- An instance whose type is a text and in which nothing is missing that its table insists on. -/
structure Instance.Complete (i : Instance) : Prop where
  type : ∃ t, i.type = .text t
  texts : ∀ v ∈ [i.name, i.apiKey, i.seasonMonitoring, i.seriesType, i.minimumAvailability],
    v ≠ .null

/-- Whether there is room for an instance. -/
structure Instance.Fits (i : Instance) : Prop where
  id : fits i.id = true
  texts : ∀ v ∈ [i.name, i.apiKey, i.rootFolder, i.seasonMonitoring, i.seriesType,
    i.minimumAvailability], Writable v

namespace Store

/-- How an instance became a row: each value went through its column, and the others are kept. -/
structure InstanceRow (i row : Instance) : Prop where
  id : Column.checked i.id = .ok row.id
  type : Column.requiredText i.type = .ok row.type
  name : Column.requiredText i.name = .ok row.name
  apiKey : Column.requiredText i.apiKey = .ok row.apiKey
  rootFolder : Column.text i.rootFolder = .ok row.rootFolder
  seasonMonitoring : Column.requiredText i.seasonMonitoring = .ok row.seasonMonitoring
  seriesType : Column.requiredText i.seriesType = .ok row.seriesType
  minimumAvailability : Column.requiredText i.minimumAvailability = .ok row.minimumAvailability
  kept : row = { i with
    id := row.id, type := row.type, name := row.name, apiKey := row.apiKey
    rootFolder := row.rootFolder, seasonMonitoring := row.seasonMonitoring
    seriesType := row.seriesType, minimumAvailability := row.minimumAvailability
    qualityProfile := Column.profile i.qualityProfile }

theorem instanceRow_ok {i row : Instance} (h : instanceRow i = .ok row) : InstanceRow i row := by
  obtain ⟨id, hid, h⟩ := ok_of_bind h
  obtain ⟨type, htype, h⟩ := ok_of_bind h
  obtain ⟨name, hname, h⟩ := ok_of_bind h
  obtain ⟨apiKey, hkey, h⟩ := ok_of_bind h
  obtain ⟨rootFolder, hfolder, h⟩ := ok_of_bind h
  obtain ⟨seasonMonitoring, hseason, h⟩ := ok_of_bind h
  obtain ⟨seriesType, hseries, h⟩ := ok_of_bind h
  obtain ⟨minimumAvailability, hminimum, h⟩ := ok_of_bind h
  obtain rfl := pure_ok h
  exact ⟨hid, htype, hname, hkey, hfolder, hseason, hseries, hminimum, rfl⟩

namespace InstanceRow

variable {i row : Instance}

theorem fits (h : InstanceRow i row) : i.Fits := by
  refine ⟨Column.fits_of_checked h.id, ?_⟩
  simp only [List.forall_mem_cons, List.not_mem_nil, false_implies, implies_true, and_true]
  exact ⟨Column.writable_of_requiredText h.name, Column.writable_of_requiredText h.apiKey,
    Column.exists_text_iff.1 ⟨_, h.rootFolder⟩, Column.writable_of_requiredText h.seasonMonitoring,
    Column.writable_of_requiredText h.seriesType,
    Column.writable_of_requiredText h.minimumAvailability⟩

theorem id_eq (h : InstanceRow i row) : row.id = i.id := Column.checked_ok h.id

theorem isDefault_eq (h : InstanceRow i row) : row.isDefault = i.isDefault := by
  rw [h.kept]

theorem profile_eq (h : InstanceRow i row) :
    row.qualityProfile = Column.profile i.qualityProfile := by
  rw [h.kept]

end InstanceRow

/-- The table takes a complete instance wherever there is room for it. -/
theorem exists_instanceRow_iff {i : Instance} (hi : i.Complete) :
    (∃ row, instanceRow i = .ok row) ↔ i.Fits := by
  refine ⟨fun ⟨row, hrow⟩ => (instanceRow_ok hrow).fits, fun h => ?_⟩
  obtain ⟨t, ht⟩ := hi.type
  have hnull := hi.texts
  have hroom := h.texts
  simp only [List.forall_mem_cons, List.not_mem_nil, false_implies, implies_true, and_true]
    at hnull hroom
  obtain ⟨hname, hkey, hseason, hseries, hminimum⟩ := hnull
  obtain ⟨wname, wkey, wfolder, wseason, wseries, wminimum⟩ := hroom
  obtain ⟨name, hname⟩ := Column.exists_requiredText hname wname
  obtain ⟨apiKey, hkey⟩ := Column.exists_requiredText hkey wkey
  obtain ⟨rootFolder, hfolder⟩ := Column.exists_text_iff.2 wfolder
  obtain ⟨seasonMonitoring, hseason⟩ := Column.exists_requiredText hseason wseason
  obtain ⟨seriesType, hseries⟩ := Column.exists_requiredText hseries wseries
  obtain ⟨minimumAvailability, hminimum⟩ := Column.exists_requiredText hminimum wminimum
  unfold instanceRow
  rw [Column.checked_eq h.id, ht, Column.requiredText_text, hname, hkey, hfolder, hseason, hseries,
    hminimum]
  exact ⟨_, rfl⟩

theorem instanceRow_key {i row : Instance} (hi : i.Complete) (h : instanceRow i = .ok row) :
    row.key = i.key := by
  have htype := (instanceRow_ok h).type
  obtain ⟨t, ht⟩ := hi.type
  rw [ht, Column.requiredText_text] at htype
  unfold Instance.key
  rw [(instanceRow_ok h).id_eq, ht, ← Except.ok.inj htype]

theorem isInstance_iff {r : Instance} {id : Int} {t : String} :
    isInstance id (.text t) r = true ↔ r.key = (.text t, id) := by
  unfold isInstance Instance.key
  rw [Bool.and_eq_true, decide_eq_true_eq, Prod.mk.injEq, and_comm, same_text, Rule.isOneOf_singleton]

theorem isInstance_row {i row : Instance} (h : instanceRow i = .ok row) (r : Instance) :
    isInstance row.id row.type r = true ↔ r.key = row.key := by
  obtain ⟨t, ht⟩ := (Column.requiredText_ok (instanceRow_ok h).type).2
  rw [ht, isInstance_iff, ← ht]
  rfl

end Store

/-! ## Users and quotas -/

/-- What a quota is known by in the store. -/
def Quota.key (q : Quota) : Int × Value := (q.userId, q.contentType)

namespace Store

theorem putUser_ok_iff {u : User} {t : String} (hname : u.name = .text t) {s s' : Store} :
    s.putUser u.id u.name (.bool u.requiresApproval) = .ok ((), s') ↔
      fits u.id = true ∧ s' = { s with users := upsert (·.id = u.id) u s.users } := by
  constructor
  · intro h
    obtain ⟨known, hknown, h⟩ := ok_of_bind h
    obtain ⟨id, hid, -⟩ := ok_of_bind hknown
    rw [hname, Column.requiredText_text] at h
    refine ⟨Column.fits_of_checked hid, ?_⟩
    rw [← (Prod.mk.inj (pure_ok h)).2, ← hname]
  · rintro ⟨hfits, rfl⟩
    unfold putUser getUser
    rw [Column.checked_eq hfits, hname, Column.requiredText_text, ← hname]
    rfl

/-- A quota that passes its check is stored as it stands. -/
theorem quotaRow_of_check {q : Quota} (h : q.check = .ok ()) :
    quotaRow q = .ok q ∧ ∃ t, q.contentType = .text t := by
  unfold Quota.check at h
  split at h
  · cases h
  rename_i hcontent
  split at h
  · cases h
  rename_i hperiod
  split at h
  · cases h
  rename_i hlimit
  rcases q with ⟨userId, contentType, period, limit, bypass⟩
  obtain ⟨t, -, rfl⟩ := Value.text_of_isOneOf (by simpa using hcontent)
  obtain ⟨word, rfl⟩ : ∃ word, period = .text word := by
    cases period with
    | text word => exact ⟨word, rfl⟩
    | _ => simp [Period.ofValue?] at hperiod
  obtain ⟨n, rfl, hn⟩ : ∃ n, limit = .int n ∧ fits n = true := by
    cases limit with
    | int n =>
      refine ⟨n, rfl, ?_⟩
      have hrange : 0 ≤ n ∧ n ≤ Quota.highestLimit := by
        simpa [Quota.isLimit] using hlimit
      have hroom : Column.lowest ≤ n ∧ n ≤ Column.highest := by
        unfold Quota.highestLimit at hrange
        unfold Column.lowest Column.highest
        omega
      simpa [fits] using hroom
    | _ => simp [Quota.isLimit] at hlimit
  refine ⟨?_, t, rfl⟩
  unfold quotaRow Column.integer
  dsimp only
  rw [Column.requiredText_text, Column.requiredText_text, Column.checked_eq hn]
  rfl

theorem isQuota_iff {q r : Quota} {t : String} (ht : q.contentType = .text t) :
    isQuota q.userId q.contentType r = true ↔ r.key = q.key := by
  unfold isQuota Quota.key
  rw [Bool.and_eq_true, decide_eq_true_eq, Prod.mk.injEq, ht, same_text, Rule.isOneOf_singleton]

/-- A quota is stored for a stored user only. -/
theorem putQuota_ok_iff {q : Quota} (hq : q.check = .ok ()) {s s' : Store} :
    s.putQuota q = .ok ((), s') ↔
      s.Knows q.userId ∧ s' = { s with quotas := upsert (isQuota q.userId q.contentType) q s.quotas } := by
  have hrow := (quotaRow_of_check hq).1
  constructor
  · intro h
    obtain ⟨u, hu, h⟩ := ok_of_bind h
    rw [hrow] at h
    exact ⟨knows_of_requireUser hu, (Prod.mk.inj (pure_ok h)).2.symm⟩
  · rintro ⟨⟨u, hu⟩, rfl⟩
    unfold putQuota requireUser
    rw [hu, hrow]
    rfl

end Store

/-! ## Rules -/

/-- A rule whose words are texts and which has a name. -/
structure Rule.Complete (r : Rule) : Prop where
  words : ∀ v ∈ [r.type, r.targetType, r.action, r.approvalTrigger], ∃ t, v = .text t
  name : r.name ≠ .null

/-- Whether there is room for a rule. -/
structure Rule.Fits (r : Rule) : Prop where
  criteria : ∃ entries, r.criteria.toMapping = .ok entries
  id : fits r.id = true
  order : fits r.order = true
  texts : ∀ v ∈ [r.name, r.rootFolder, r.seriesType, r.seasonMonitoring, r.minimumAvailability,
    r.approvalReason], Writable v
  searchOnAdd : ∃ v, Column.truth r.searchOnAdd = .ok v

namespace Store

namespace RuleRow

variable {r row : Rule}

theorem fits (h : RuleRow r row) : r.Fits := by
  obtain ⟨entries, hcriteria, -⟩ := h.criteria
  refine ⟨⟨_, hcriteria⟩, Column.fits_of_checked h.id, Column.fits_of_checked h.order, ?_,
    ⟨_, h.searchOnAdd⟩⟩
  simp only [List.forall_mem_cons, List.not_mem_nil, false_implies, implies_true, and_true]
  exact ⟨Column.writable_of_requiredText h.name, Column.exists_text_iff.1 ⟨_, h.rootFolder⟩,
    Column.exists_text_iff.1 ⟨_, h.seriesType⟩, Column.exists_text_iff.1 ⟨_, h.seasonMonitoring⟩,
    Column.exists_text_iff.1 ⟨_, h.minimumAvailability⟩,
    Column.exists_text_iff.1 ⟨_, h.approvalReason⟩⟩

theorem id_eq (h : RuleRow r row) : row.id = r.id := Column.checked_ok h.id

theorem targetId_eq (h : RuleRow r row) : row.targetId = r.targetId := by
  rw [h.kept]

theorem profile_eq (h : RuleRow r row) : row.qualityProfile = Column.profile r.qualityProfile := by
  rw [h.kept]

end RuleRow

/-- The table takes a complete rule wherever there is room for it. -/
theorem exists_ruleRow_iff {r : Rule} (hr : r.Complete) :
    (∃ row, ruleRow r = .ok row) ↔ r.Fits := by
  refine ⟨fun ⟨row, hrow⟩ => (ruleRow_ok hrow).fits, fun h => ?_⟩
  have hwords := hr.words
  have hroom := h.texts
  simp only [List.forall_mem_cons, List.not_mem_nil, false_implies, implies_true, and_true]
    at hwords hroom
  obtain ⟨⟨type, htype⟩, ⟨targetType, htarget⟩, ⟨action, haction⟩, ⟨trigger, htrigger⟩⟩ := hwords
  obtain ⟨wname, wfolder, wseries, wseason, wminimum, wreason⟩ := hroom
  obtain ⟨criteria, hcriteria⟩ := h.criteria
  obtain ⟨name, hname⟩ := Column.exists_requiredText hr.name wname
  obtain ⟨rootFolder, hfolder⟩ := Column.exists_text_iff.2 wfolder
  obtain ⟨seriesType, hseries⟩ := Column.exists_text_iff.2 wseries
  obtain ⟨seasonMonitoring, hseason⟩ := Column.exists_text_iff.2 wseason
  obtain ⟨searchOnAdd, hsearch⟩ := h.searchOnAdd
  obtain ⟨minimumAvailability, hminimum⟩ := Column.exists_text_iff.2 wminimum
  obtain ⟨reason, hreason⟩ := Column.exists_text_iff.2 wreason
  unfold ruleRow
  rw [hcriteria, Column.checked_eq h.id, hname, htype, Column.requiredText_text, htarget,
    Column.requiredText_text, hfolder, Column.checked_eq h.order, hseries, hseason, hsearch, hminimum,
    haction, Column.requiredText_text, hreason, htrigger, Column.requiredText_text]
  exact ⟨_, rfl⟩

theorem target_of_ruleRow {r row : Rule} (hr : r.Complete) (h : ruleRow r = .ok row) :
    (row.targetType, row.targetId) = (r.targetType, r.targetId) := by
  have htype := (ruleRow_ok h).targetType
  obtain ⟨t, ht⟩ := hr.words r.targetType (by simp)
  rw [ht, Column.requiredText_text] at htype
  rw [(ruleRow_ok h).targetId_eq, ht, ← Except.ok.inj htype]

end Store

end Watchgate
