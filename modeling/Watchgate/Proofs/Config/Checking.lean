import Watchgate.Config.Check
import Watchgate.Proofs.Criteria.Shorthand
import Watchgate.Proofs.Store.Rows

/-!
# What the checks let through

A configuration passes if every check says that nothing is wrong. Then its instances are mappings with
distinct integer ids, its users and quotas can be read, and its rules can be read and name what exists.
-/

namespace Watchgate

open Criteria

namespace Value

theorem toInteger_of_whole {v : Value} {n : Int} (h : v.wholeNumber? = some n) :
    v.toInteger = .ok n := by
  cases v with
  | bool b => exact congrArg Except.ok (Option.some.inj h)
  | int m => exact congrArg Except.ok (Option.some.inj h)
  | _ => cases h

/-- A mapping has what it has a whole number under. -/
theorem subscript_of_whole {v : Value} {key : String} {n : Int}
    (h : (v.get key).wholeNumber? = some n) : v.subscript key = .ok (v.get key) := by
  cases v with
  | map fields =>
    change require fields key = .ok (Entries.get fields key)
    change (Entries.get fields key).wholeNumber? = some n at h
    unfold require Entries.get at *
    cases hfield : Entries.get? fields key with
    | none =>
      rw [hfield] at h
      cases h
    | some w => rfl
  | _ => cases h

/-- Whole numbers agree only where they are the same. -/
theorem eq_of_agrees_whole {v w : Value} {m n : Int} (hv : v.wholeNumber? = some m)
    (hw : w.wholeNumber? = some n) (h : v.agrees w = true) : m = n := by
  have hnumbers : v.compareNumbers? w = some (some (compare m n)) := by
    unfold compareNumbers?
    rw [hv, hw]
  have hequal : v.compareNumbers? w = some (some .eq) := by
    cases v <;> first | (cases hv; done) |
      (cases w <;> first | (cases hw; done) | simpa [agrees] using h)
  rw [hnumbers] at hequal
  exact compare_eq_iff_eq.1 (Option.some.inj (Option.some.inj hequal))

end Value

namespace Config

/-! ## Judgements -/

section Judgements

variable {α β : Type}

theorem ok_of_outcome_bind {x : Judgement α} {f : α → Judgement β} {b : β}
    (h : outcome (x >>= f) = .ok b) : ∃ a, outcome x = .ok a ∧ outcome (f a) = .ok b := by
  rw [outcome_bind] at h
  exact ok_of_bind h

/-- Nothing is wrong with a list of things only if nothing is wrong with each. -/
theorem checkEach_ok {check : α → Judgement Bool} {l : List α}
    (h : outcome (checkEach check l) = .ok true) : ∀ a ∈ l, outcome (check a) = .ok true := by
  induction l with
  | nil => exact fun a ha => nomatch ha
  | cons b l ih =>
    obtain ⟨first, hfirst, h⟩ := ok_of_outcome_bind h
    obtain ⟨others, hothers, h⟩ := ok_of_outcome_bind h
    obtain ⟨rfl, rfl⟩ : first = true ∧ others = true := by
      simpa using Except.ok.inj h
    intro a ha
    rcases List.mem_cons.1 ha with rfl | ha
    · exact hfirst
    · exact ih hothers a ha

end Judgements

/-- Whether nothing is wrong with a configuration. -/
def Passes (config : Entries) : Prop := outcome (check config) = .ok true

variable {config : Entries}

theorem Passes.part (h : Passes config) (part : String × (Entries → Judgement Bool))
    (hpart : part ∈ checks) : outcome (part.2 config) = .ok true := checkEach_ok h part hpart

/-! ## Instances -/

/-- What passes for an instance: a mapping with an integer id and a folder. -/
def IsEntry (entry : Value) (id : Int) : Prop :=
  ∃ fields, entry = .map fields ∧ Entries.get fields "id" = .int id ∧
    (Entries.get fields "root_folder").truthy = true

/-- How many entries ask to be the default. -/
def defaultsIn (entries : List Value) : Nat := entries.countP fun e => (e.get "is_default").truthy

variable {type key : String} {seen seen' : Seen}

theorem checkInstanceId_ok {name v : Value} (h : outcome (checkInstanceId type name v seen) = .ok seen')
    (hs : seen'.isSound = true) :
    ∃ id, v = .int id ∧ id ∉ seen.ids ∧ seen' = { seen with ids := id :: seen.ids } := by
  unfold checkInstanceId at h
  split at h
  · rename_i id
    split at h
    · obtain rfl := Except.ok.inj h
      cases hs
    · rename_i hnew
      obtain rfl := Except.ok.inj h
      exact ⟨id, rfl, by simpa using hnew, rfl⟩
  · obtain rfl := Except.ok.inj h
    cases hs

/-- One more entry, which is sound only if all before it are. -/
theorem checkInstance_ok {entry : Value}
    (h : outcome (checkInstance type key seen entry) = .ok seen') (hs : seen'.isSound = true) :
    seen.isSound = true ∧ ∃ id, IsEntry entry id ∧ id ∉ seen.ids ∧ seen'.ids = id :: seen.ids ∧
      seen'.defaults = seen.defaults + defaultsIn [entry] := by
  unfold checkInstance at h
  split at h
  · rename_i fields
    obtain ⟨withId, hid, h⟩ := ok_of_outcome_bind h
    dsimp only at h
    split at h
    · rename_i hfolder
      obtain rfl := Except.ok.inj h
      have hsound : withId.isSound = true := by
        rw [← hs]
        split <;> rfl
      obtain ⟨id, hint, hnew, rfl⟩ := checkInstanceId_ok hid hsound
      refine ⟨hsound, id, ⟨fields, rfl, hint, hfolder⟩, hnew, ?_, ?_⟩
      · split <;> rfl
      · rw [defaultsIn, List.countP_singleton]
        change _ = seen.defaults + if (Entries.get fields "is_default").truthy = true then 1 else 0
        split <;> rfl
    · obtain rfl := Except.ok.inj h
      split at hs <;> cases hs
  · obtain rfl := Except.ok.inj h
    cases hs

theorem checkInstance_foldlM {entries : List Value}
    (h : outcome (entries.foldlM (checkInstance type key) seen) = .ok seen')
    (hs : seen'.isSound = true) :
    seen.isSound = true ∧ ∃ ids, List.Forall₂ IsEntry entries ids ∧ ids.Nodup ∧
      (∀ id ∈ ids, id ∉ seen.ids) ∧ seen'.defaults = seen.defaults + defaultsIn entries := by
  -- Soundness is known at the end only, so it is carried back from the last entry to the first.
  induction entries generalizing seen with
  | nil =>
    obtain rfl := Except.ok.inj h
    exact ⟨hs, [], .nil, List.nodup_nil, fun id hid => (nomatch hid), rfl⟩
  | cons entry entries ih =>
    rw [List.foldlM_cons] at h
    obtain ⟨next, hfirst, hrest⟩ := ok_of_outcome_bind h
    obtain ⟨hsound, ids, hentries, hnodup, hfresh, hdefaults⟩ := ih hrest
    obtain ⟨hsound, id, hentry, hnew, hids, hdefault⟩ := checkInstance_ok hfirst hsound
    rw [hids] at hfresh
    refine ⟨hsound, id :: ids, .cons hentry hentries, ?_, ?_, ?_⟩
    · exact List.nodup_cons.2 ⟨fun hmem => hfresh id hmem List.mem_cons_self, hnodup⟩
    · refine List.forall_mem_cons.2 ⟨hnew, fun other hmem hseen => ?_⟩
      exact hfresh other hmem (List.mem_cons_of_mem _ hseen)
    · rw [hdefaults, hdefault, Nat.add_assoc]
      exact congrArg (seen.defaults + ·) (List.countP_append : defaultsIn ([entry] ++ entries) = _).symm

/-- The list under a key, where one is insisted on. -/
theorem listOf_of_list {entries : List Value}
    (h : (Entries.get config key).orElse (.list []) = .list entries) :
    listOf config key = .ok entries := by
  unfold listOf Value.toItemsOrNone
  unfold Value.orElse at h
  split
  · rename_i htruthy
    rw [if_pos htruthy] at h
    rw [h]
    rfl
  · rename_i hfalsy
    rw [if_neg hfalsy] at h
    exact congrArg Except.ok (Value.list.inj h)

/-- What is listed as the instances of one type. -/
structure Listing (entries : List Value) (ids : List Int) : Prop where
  entry : List.Forall₂ IsEntry entries ids
  distinct : ids.Nodup
  defaults : defaultsIn entries ≤ 1

theorem Passes.listing (h : Passes config) (hlist : (type, key) ∈ instanceLists) :
    ∃ entries ids, listOf config key = .ok entries ∧ Listing entries ids := by
  have hinstances : outcome (checkInstances config) = .ok true :=
    h.part ("instances", checkInstances) List.mem_cons_self
  have hlists : outcome (checkInstancesOf config type key) = .ok true :=
    checkEach_ok hinstances (type, key) hlist
  unfold checkInstancesOf at hlists
  split at hlists
  · rename_i entries hentries
    obtain ⟨seen, hseen, hlists⟩ := ok_of_outcome_bind hlists
    split at hlists
    · cases hlists
    · rename_i hdefaults
      have hsound : seen.isSound = true := Except.ok.inj hlists
      obtain ⟨-, ids, hforall, hnodup, -, hcount⟩ := checkInstance_foldlM hseen hsound
      refine ⟨entries, ids, listOf_of_list hentries, hforall, hnodup, ?_⟩
      change seen.defaults = 0 + _ at hcount
      omega
  · cases hlists

end Config

/-! ### Reading them -/

theorem Value.orElse_ne_null (v : Value) (t : String) : v.orElse (.text t) ≠ .null := by
  unfold orElse
  split
  · rintro rfl
    contradiction
  · exact fun h => nomatch h

theorem Instance.complete_of_decode {data : Value} {t : String} {i : Instance}
    (h : decode data (.text t) = .ok i) : i.Complete := by
  obtain ⟨idValue, -, h⟩ := ok_of_bind h
  obtain ⟨id, -, h⟩ := ok_of_bind h
  obtain ⟨fields, -, h⟩ := ok_of_bind h
  obtain ⟨tags, -, h⟩ := ok_of_bind h
  obtain rfl := pure_ok h
  refine ⟨⟨t, rfl⟩, ?_⟩
  simp [Value.orElse_ne_null]

namespace Config

theorem IsEntry.decode {entry : Value} {id : Int} (h : IsEntry entry id) {t : String} {i : Instance}
    (hread : Instance.decode entry (.text t) = .ok i) :
    i.key = (.text t, id) ∧ i.isDefault = (entry.get "is_default").truthy := by
  obtain ⟨fields, rfl, hid, -⟩ := h
  obtain ⟨idValue, hvalue, hread⟩ := ok_of_bind hread
  obtain ⟨n, hn, hread⟩ := ok_of_bind hread
  obtain ⟨_, hfields, hread⟩ := ok_of_bind hread
  obtain ⟨tags, -, hread⟩ := ok_of_bind hread
  obtain rfl := pure_ok hread
  obtain rfl := Except.ok.inj hfields
  have hwhole : ((Value.map fields).get "id").wholeNumber? = some id := congrArg _ hid
  rw [Value.subscript_of_whole hwhole] at hvalue
  obtain rfl := Except.ok.inj hvalue
  rw [Value.toInteger_of_whole hwhole] at hn
  obtain rfl := Except.ok.inj hn
  exact ⟨rfl, rfl⟩

/-- What is read of a listing: instances with its ids, as many of them defaults as ask to be. -/
theorem read_entries {entries : List Value} {ids : List Int} (h : List.Forall₂ IsEntry entries ids)
    {t : String} {is : List Instance}
    (hread : entries.mapM (fun entry => Instance.decode entry (.text t)) = .ok is) :
    is.map Instance.key = ids.map (Value.text t, ·) ∧ is.countP (·.isDefault) = defaultsIn entries := by
  induction h generalizing is with
  | nil =>
    obtain rfl : [] = is := pure_ok hread
    exact ⟨rfl, rfl⟩
  | cons hentry hentries ih =>
    obtain ⟨i, is, hi, hrest, rfl⟩ := mapM_ok_cons hread
    obtain ⟨hkeys, hdefaults⟩ := ih hrest
    obtain ⟨hkey, hdefault⟩ := hentry.decode hi
    refine ⟨?_, ?_⟩
    · rw [List.map_cons, List.map_cons, hkeys, hkey]
    · rw [defaultsIn, List.countP_cons, List.countP_cons, hdefaults, hdefault]
      rfl

theorem Passes.read_instancesOf (h : Passes config) (hlist : (type, key) ∈ instanceLists)
    {is : List Instance} (hread : instancesOf config type key = .ok is) :
    ∃ entries ids, listOf config key = .ok entries ∧ Listing entries ids ∧
      is.map Instance.key = ids.map (Value.text type, ·) ∧ is.countP (·.isDefault) ≤ 1 := by
  obtain ⟨entries, ids, hentries, hlisting⟩ := h.listing hlist
  obtain ⟨_, hlisted, hread⟩ := ok_of_bind hread
  obtain rfl := Except.ok.inj (hentries.symm.trans hlisted)
  obtain ⟨hkeys, hdefaults⟩ := read_entries hlisting.entry hread
  exact ⟨entries, ids, hentries, hlisting, hkeys, hdefaults.trans_le hlisting.defaults⟩

theorem instances_ok {is : List Instance} (h : instances config = .ok is) :
    ∃ movies shows, instancesOf config "radarr" "RADARR_INSTANCES" = .ok movies ∧
      instancesOf config "sonarr" "SONARR_INSTANCES" = .ok shows ∧ is = movies ++ shows := by
  obtain ⟨lists, hlists, h⟩ := ok_of_bind h
  obtain ⟨movies, rest, hmovies, hrest, rfl⟩ := mapM_ok_cons hlists
  obtain ⟨shows, rest, hshows, hnil, rfl⟩ := mapM_ok_cons hrest
  obtain rfl : [] = rest := pure_ok hnil
  refine ⟨movies, shows, hmovies, hshows, ?_⟩
  rw [← pure_ok h]
  simp

theorem complete_of_instances {is : List Instance} (h : instances config = .ok is) :
    ∀ i ∈ is, i.Complete := by
  have hcomplete : ∀ type key found, instancesOf config type key = .ok found → ∀ i ∈ found, i.Complete := by
    intro type key found hfound i hi
    obtain ⟨entries, -, hread⟩ := ok_of_bind hfound
    obtain ⟨entry, -, hentry⟩ := mem_of_mapM_ok hread hi
    exact Instance.complete_of_decode hentry
  obtain ⟨movies, shows, hmovies, hshows, rfl⟩ := instances_ok h
  intro i hi
  rcases List.mem_append.1 hi with hi | hi
  · exact hcomplete _ _ _ hmovies i hi
  · exact hcomplete _ _ _ hshows i hi

/-- Instances for content of one type that has no rule. -/
def defaultsOf (type : String) (is : List Instance) : List Instance :=
  is.filter fun i => Store.Column.same i.type (.text type) && i.isDefault

theorem length_defaultsOf_le (type : String) (is : List Instance) :
    (defaultsOf type is).length ≤ is.countP (·.isDefault) := by
  rw [defaultsOf, ← List.countP_eq_length_filter]
  refine List.countP_mono_left fun i _ h => ?_
  exact (Bool.and_eq_true_iff.1 h).2

section Keys

variable {t : String} {ids : List Int} {is : List Instance}

theorem type_of_keys (h : is.map Instance.key = ids.map (Value.text t, ·)) :
    ∀ i ∈ is, i.type = .text t := by
  intro i hi
  have hkey : i.key ∈ is.map Instance.key := List.mem_map_of_mem hi
  rw [h] at hkey
  obtain ⟨id, -, hid⟩ := List.mem_map.1 hkey
  exact (congrArg Prod.fst hid).symm

theorem nodup_of_keys (h : is.map Instance.key = ids.map (Value.text t, ·)) (hids : ids.Nodup) :
    (is.map Instance.key).Nodup := by
  rw [h]
  exact hids.map fun _ _ hsame => congrArg Prod.snd hsame

theorem defaultsOf_other (h : is.map Instance.key = ids.map (Value.text t, ·)) (hother : type ≠ t) :
    defaultsOf type is = [] := by
  refine List.filter_eq_nil_iff.2 fun i hi hdefault => ?_
  have hsame := Store.Column.eq_of_same (Bool.and_eq_true_iff.1 hdefault).1
  rw [type_of_keys h i hi] at hsame
  exact hother (Value.text.inj hsame).symm

end Keys

theorem Passes.read_instances (h : Passes config) {is : List Instance} (hread : instances config = .ok is) :
    (is.map Instance.key).Nodup ∧ ∀ type, (defaultsOf type is).length ≤ 1 := by
  obtain ⟨movies, shows, hmovies, hshows, rfl⟩ := instances_ok hread
  obtain ⟨_, movieIds, -, hmovieList, hmovieKeys, hmovieDefaults⟩ :=
    h.read_instancesOf (by simp [instanceLists]) hmovies
  obtain ⟨_, showIds, -, hshowList, hshowKeys, hshowDefaults⟩ :=
    h.read_instancesOf (by simp [instanceLists]) hshows
  constructor
  · rw [List.map_append]
    refine (nodup_of_keys hmovieKeys hmovieList.distinct).append
      (nodup_of_keys hshowKeys hshowList.distinct) fun key hmovie hshow => ?_
    rw [hmovieKeys] at hmovie
    rw [hshowKeys] at hshow
    obtain ⟨id, -, rfl⟩ := List.mem_map.1 hmovie
    obtain ⟨id', -, hsame⟩ := List.mem_map.1 hshow
    exact absurd (Value.text.inj (congrArg Prod.fst hsame)) (by decide)
  · intro type
    have hsplit : defaultsOf type (movies ++ shows) = defaultsOf type movies ++ defaultsOf type shows :=
      List.filter_append _ _
    rw [hsplit]
    by_cases hmovie : type = "radarr"
    · rw [defaultsOf_other hshowKeys (by rw [hmovie]; decide), List.append_nil]
      exact (length_defaultsOf_le type movies).trans hmovieDefaults
    · rw [defaultsOf_other hmovieKeys hmovie, List.nil_append]
      exact (length_defaultsOf_le type shows).trans hshowDefaults

/-! ## Users and quotas -/

theorem decodeUser_of_whole {entry : Value} {n : Int} (h : (entry.get "id").wholeNumber? = some n) :
    ∃ u, decodeUser entry = .ok u ∧ u.id = n := by
  unfold decodeUser
  rw [Value.subscript_of_whole h, ok_bind, Value.toInteger_of_whole h]
  exact ⟨_, rfl, rfl⟩

theorem name_of_decodeUser {entry : Value} {u : User} (h : decodeUser entry = .ok u) :
    ∃ t, u.name = .text t := by
  obtain ⟨idValue, -, h⟩ := ok_of_bind h
  obtain ⟨id, -, h⟩ := ok_of_bind h
  obtain rfl := pure_ok h
  exact ⟨_, rfl⟩

theorem Passes.user_entries (h : Passes config) : ∃ entries, listOf config "USERS" = .ok entries ∧
    ∀ e ∈ entries, ∃ n, (e.get "id").wholeNumber? = some n := by
  have husers : outcome (checkUsers config) = .ok true :=
    h.part ("users", checkUsers) (by simp [checks])
  obtain ⟨entries, hentries, hcheck⟩ := ok_of_outcome_bind husers
  refine ⟨entries, hentries, fun e he => ?_⟩
  have hlooked := checkEach_ok hcheck e he
  split at hlooked
  · rename_i hid
    exact Option.isSome_iff_exists.1 hid
  · cases hlooked

/-- Every user can be read. -/
theorem Passes.read_users (h : Passes config) :
    ∃ us, users config = .ok us ∧ ∀ u ∈ us, ∃ t, u.name = .text t := by
  obtain ⟨entries, hentries, hids⟩ := h.user_entries
  obtain ⟨us, hus⟩ : ∃ us, entries.mapM decodeUser = .ok us := by
    refine exists_mapM_ok fun e he => ?_
    obtain ⟨n, hn⟩ := hids e he
    obtain ⟨u, hu, -⟩ := decodeUser_of_whole hn
    exact ⟨u, hu⟩
  refine ⟨us, ?_, fun u hu => ?_⟩
  · unfold users
    rw [hentries]
    exact hus
  · obtain ⟨e, -, he⟩ := mem_of_mapM_ok hus hu
    exact name_of_decodeUser he

theorem mem_idsIn {entries ids : List Value} (h : idsIn entries = .ok ids) {v : Value} (hv : v ∈ ids) :
    ∃ e ∈ entries, v = e.get "id" := by
  obtain ⟨e, he, hid⟩ := mem_of_mapM_ok h hv
  refine ⟨e, List.mem_of_mem_filter he, ?_⟩
  dsimp only at hid
  split at hid
  · exact (Except.ok.inj hid).symm
  · cases hid

theorem decodeQuota_of_whole {entry : Value} {n : Int}
    (h : (entry.get "user_id").wholeNumber? = some n) :
    ∃ q, decodeQuota entry = .ok q ∧ q.userId = n := by
  unfold decodeQuota
  rw [Value.subscript_of_whole h, ok_bind, Value.toInteger_of_whole h]
  exact ⟨_, rfl, rfl⟩

theorem checkQuota_ok {userIds : List Value} {entry : Value}
    (h : outcome (checkQuota userIds entry) = .ok true) :
    ∃ q v, decodeQuota entry = .ok q ∧ q.check = .ok () ∧ v ∈ userIds ∧
      ∀ m, v.wholeNumber? = some m → m = q.userId := by
  unfold checkQuota at h
  dsimp only at h
  split at h
  · cases h
  rename_i hid
  have hwhole : isWhole (entry.get "user_id") = true := by simpa using hid
  obtain ⟨n, hn⟩ := Option.isSome_iff_exists.1 hwhole
  obtain ⟨q, hq, rfl⟩ := decodeQuota_of_whole hn
  rw [hq] at h
  split at h
  · rename_i hknown
    obtain ⟨v, hv, hagrees⟩ := List.any_eq_true.1 hknown
    obtain ⟨known, hsound, h⟩ := ok_of_outcome_bind h
    obtain ⟨_, hread, h⟩ := ok_of_outcome_bind h
    obtain rfl := Except.ok.inj hread
    split at h
    · rename_i hcheck
      exact ⟨q, v, hq, hcheck, hv, fun m hm => Value.eq_of_agrees_whole hm hn hagrees⟩
    · cases h
  · obtain ⟨known, hfault, h⟩ := ok_of_outcome_bind h
    obtain rfl := Except.ok.inj hfault
    obtain ⟨_, hread, h⟩ := ok_of_outcome_bind h
    split at h <;> cases h

/-- Every quota can be read; it has a limit and a user. -/
theorem Passes.read_quotas (h : Passes config) {us : List User} (hus : users config = .ok us) :
    ∃ qs, quotas config = .ok qs ∧ ∀ q ∈ qs, q.check = .ok () ∧ ∃ u ∈ us, u.id = q.userId := by
  have hquotas : outcome (checkQuotas config) = .ok true :=
    h.part ("quotas", checkQuotas) (by simp [checks])
  obtain ⟨userIds, hids, hquotas⟩ := ok_of_outcome_bind hquotas
  obtain ⟨entries, hentries, hcheck⟩ := ok_of_outcome_bind hquotas
  have hentries : listOf config "USER_QUOTAS" = .ok entries := hentries
  obtain ⟨qs, hqs⟩ : ∃ qs, entries.mapM decodeQuota = .ok qs := by
    refine exists_mapM_ok fun entry hentry => ?_
    obtain ⟨q, v, hq, -⟩ := checkQuota_ok (checkEach_ok hcheck entry hentry)
    exact ⟨q, hq⟩
  refine ⟨qs, ?_, fun q hq => ?_⟩
  · unfold quotas
    rw [hentries]
    exact hqs
  · obtain ⟨entry, hentry, hread⟩ := mem_of_mapM_ok hqs hq
    obtain ⟨q', v, hread', hsound, hv, hid⟩ := checkQuota_ok (checkEach_ok hcheck entry hentry)
    obtain rfl := Except.ok.inj (hread.symm.trans hread')
    obtain ⟨users, husers, hwhole⟩ := h.user_entries
    obtain ⟨listed, hlisted, hids⟩ := ok_of_bind
      (show (listOf config "USERS" >>= idsIn) = .ok userIds from hids)
    obtain ⟨listed', hlisted', hus⟩ := ok_of_bind hus
    obtain rfl := Except.ok.inj (hlisted.symm.trans hlisted')
    obtain rfl := Except.ok.inj (hlisted.symm.trans husers)
    obtain ⟨e, he, rfl⟩ := mem_idsIn hids hv
    obtain ⟨n, hn⟩ := hwhole e he
    obtain ⟨u, hu, hread⟩ := exists_mem_of_mapM_ok hus he
    obtain ⟨u', hread', hn'⟩ := decodeUser_of_whole hn
    obtain rfl := Except.ok.inj (hread.symm.trans hread')
    exact ⟨hsound, u, hu, hn'.trans (hid n hn)⟩

end Config

/-! ## Rules -/

theorem Rule.name_of_decode {data : Value} {r : Rule} (h : decode data = .ok r) : r.name ≠ .null := by
  obtain ⟨fields, -, h⟩ := ok_of_bind h
  obtain ⟨criteria, -, h⟩ := ok_of_bind h
  obtain ⟨idValue, -, h⟩ := ok_of_bind h
  obtain ⟨id, -, h⟩ := ok_of_bind h
  obtain ⟨targetValue, -, h⟩ := ok_of_bind h
  obtain ⟨targetId, -, h⟩ := ok_of_bind h
  obtain ⟨tags, -, h⟩ := ok_of_bind h
  obtain ⟨order, -, h⟩ := ok_of_bind h
  obtain rfl := pure_ok h
  exact Value.orElse_ne_null _ _

namespace Config

variable {known : List (String × List Value)}

theorem checkReadRule_ok {isDuplicate : Bool} {rule : Rule}
    (h : outcome (checkReadRule known isDuplicate rule) = .ok true) :
    isDuplicate = false ∧ ruleProblems rule known = .ok [] := by
  unfold checkReadRule at h
  dsimp only at h
  split at h
  · obtain ⟨isNew, hnew, h⟩ := ok_of_outcome_bind h
    obtain rfl := Except.ok.inj hnew
    obtain ⟨_, -, h⟩ := ok_of_outcome_bind h
    obtain ⟨_, -, h⟩ := ok_of_outcome_bind h
    cases h
  · rename_i hd
    obtain ⟨_, -, h⟩ := ok_of_outcome_bind h
    obtain ⟨problems, hproblems, h⟩ := ok_of_outcome_bind h
    obtain ⟨isSound, hsound, h⟩ := ok_of_outcome_bind h
    obtain ⟨-, rfl⟩ : _ ∧ isSound = true := by
      simpa using Except.ok.inj h
    obtain rfl : problems = [] := List.eq_nil_iff_forall_not_mem.2 fun problem hp => by
      cases checkEach_ok hsound problem hp
    exact ⟨by simpa using hd, hproblems⟩

theorem checkRulesFrom_ok {seen : List Int} {entries : List Value}
    (h : outcome (checkRulesFrom known seen entries) = .ok true) :
    ∃ rs, entries.mapM Rule.decode = .ok rs ∧ (rs.map Rule.id).Nodup ∧
      ∀ r ∈ rs, r.id ∉ seen ∧ ruleProblems r known = .ok [] := by
  induction entries generalizing seen with
  | nil => exact ⟨[], rfl, List.nodup_nil, fun r hr => nomatch hr⟩
  | cons entry entries ih =>
    unfold checkRulesFrom at h
    split at h
    · split at h
      · obtain ⟨_, -, h⟩ := ok_of_outcome_bind h
        obtain ⟨_, -, h⟩ := ok_of_outcome_bind h
        cases h
      · cases h
    · rename_i rule hrule
      obtain ⟨isSound, hfirst, h⟩ := ok_of_outcome_bind h
      obtain ⟨others, hrest, h⟩ := ok_of_outcome_bind h
      obtain ⟨rfl, rfl⟩ : isSound = true ∧ others = true := by
        simpa using Except.ok.inj h
      obtain ⟨hnew, hproblems⟩ := checkReadRule_ok hfirst
      obtain ⟨rs, hrs, hnodup, hall⟩ := ih hrest
      refine ⟨rule :: rs, mapM_ok_of_cons hrule hrs, ?_, ?_⟩
      · refine List.nodup_cons.2 ⟨fun hmem => ?_, hnodup⟩
        obtain ⟨r, hr, hid⟩ := List.mem_map.1 hmem
        exact (hall r hr).1 (hid ▸ List.mem_cons_self)
      · intro r hr
        rcases List.mem_cons.1 hr with rfl | hr
        · exact ⟨by simpa using hnew, hproblems⟩
        · obtain ⟨hother, hsound⟩ := hall r hr
          exact ⟨fun hseen => hother (List.mem_cons_of_mem _ hseen), hsound⟩

theorem nil_of_problemIf {isWrong : Bool} {text : String} (h : problemIf isWrong text = []) :
    isWrong = false := by
  cases isWrong with
  | true => cases h
  | false => rfl

/-- A rule without problems says what it is in known words, and where content goes. -/
theorem ruleProblems_nil {r : Rule} (h : ruleProblems r known = .ok []) :
    (∀ v ∈ [r.type, r.targetType, r.action, r.approvalTrigger], ∃ t, v = .text t) ∧
      ∃ t ∈ targetTypes, r.targetType = .text t ∧
        ((known.lookup t).getD []).any (·.agrees (.int r.targetId)) = true := by
  obtain ⟨criteria, -, h⟩ := ok_of_bind h
  have hnone := pure_ok h
  simp only [List.append_eq_nil_iff] at hnone
  obtain ⟨⟨⟨⟨htype, htarget⟩, haction⟩, htrigger⟩, -⟩ := hnone
  have htype := nil_of_problemIf htype
  have haction := nil_of_problemIf haction
  have htrigger := nil_of_problemIf htrigger
  simp only [Bool.not_eq_false'] at htype haction htrigger
  obtain ⟨type, -, htype⟩ := Value.text_of_isOneOf htype
  obtain ⟨action, -, haction⟩ := Value.text_of_isOneOf haction
  obtain ⟨trigger, -, htrigger⟩ := Value.text_of_isOneOf htrigger
  unfold targetProblems at htarget
  split at htarget
  · cases htarget
  · rename_i hword
    have hword : r.targetType.isOneOf targetTypes = true := by simpa using hword
    obtain ⟨target, hmem, hword⟩ := Value.text_of_isOneOf hword
    refine ⟨?_, target, hmem, hword, ?_⟩
    · simp [htype, hword, haction, htrigger]
    · have hknown := nil_of_problemIf htarget
      rw [hword] at hknown
      simpa using hknown

/-- The known instances of a type are those that are listed. -/
theorem exists_of_known (hknown : knownInstances config = .ok known) {t : String}
    (ht : t ∈ targetTypes) {v : Value} (hv : v ∈ (known.lookup t).getD []) :
    ∃ key entries, (t, key) ∈ instanceLists ∧ listOf config key = .ok entries ∧
      ∃ e ∈ entries, v = e.get "id" := by
  obtain ⟨_, rest, hmovies, hrest, rfl⟩ := mapM_ok_cons hknown
  obtain ⟨_, rest, hshows, hnil, rfl⟩ := mapM_ok_cons hrest
  obtain rfl : [] = rest := pure_ok hnil
  obtain ⟨movies, hmovieList, hread⟩ := ok_of_bind hmovies
  obtain ⟨movieIds, hmovieIds, hread⟩ := ok_of_bind hread
  obtain rfl := pure_ok hread
  obtain ⟨shows, hshowList, hread⟩ := ok_of_bind hshows
  obtain ⟨showIds, hshowIds, hread⟩ := ok_of_bind hread
  obtain rfl := pure_ok hread
  rcases List.mem_pair.1 ht with rfl | rfl
  · have hv : v ∈ movieIds := hv
    exact ⟨_, movies, List.mem_cons_self, hmovieList, mem_idsIn hmovieIds hv⟩
  · have hv : v ∈ showIds := hv
    exact ⟨_, shows, List.mem_cons_of_mem _ List.mem_cons_self, hshowList, mem_idsIn hshowIds hv⟩

theorem exists_instancesOf {is : List Instance} (h : instances config = .ok is)
    (hlist : (type, key) ∈ instanceLists) :
    ∃ found, instancesOf config type key = .ok found ∧ ∀ i ∈ found, i ∈ is := by
  obtain ⟨movies, shows, hmovies, hshows, rfl⟩ := instances_ok h
  rcases List.mem_pair.1 hlist with hmovie | hshow
  · obtain ⟨rfl, rfl⟩ := Prod.mk.inj hmovie
    exact ⟨movies, hmovies, fun i hi => List.mem_append_left _ hi⟩
  · obtain ⟨rfl, rfl⟩ := Prod.mk.inj hshow
    exact ⟨shows, hshows, fun i hi => List.mem_append_right _ hi⟩

theorem id_of_entry {entries : List Value} {ids : List Int} (h : List.Forall₂ IsEntry entries ids) :
    ∀ e ∈ entries, ∃ id ∈ ids, e.get "id" = .int id := by
  induction h with
  | nil => exact fun e he => nomatch he
  | cons hentry _ ih =>
    intro e he
    rcases List.mem_cons.1 he with rfl | he
    · obtain ⟨fields, rfl, hid, -⟩ := hentry
      exact ⟨_, List.mem_cons_self, hid⟩
    · obtain ⟨id, hid, hget⟩ := ih e he
      exact ⟨id, List.mem_cons_of_mem _ hid, hget⟩

/-- Every rule can be read; its words are known and its target is one of the instances. -/
theorem Passes.read_rules (h : Passes config) {is : List Instance} (his : instances config = .ok is) :
    ∃ rs, rules config = .ok rs ∧ (rs.map Rule.id).Nodup ∧
      ∀ r ∈ rs, r.Complete ∧ ∃ i ∈ is, i.key = (r.targetType, r.targetId) := by
  have hrules : outcome (checkRules config) = .ok true :=
    h.part ("rules", checkRules) (by simp [checks])
  obtain ⟨known, hknown, hrules⟩ := ok_of_outcome_bind hrules
  obtain ⟨entries, hentries, hcheck⟩ := ok_of_outcome_bind hrules
  have hentries : listOf config "ROUTER_RULES" = .ok entries := hentries
  obtain ⟨rs, hrs, hnodup, hall⟩ := checkRulesFrom_ok hcheck
  refine ⟨rs, ?_, hnodup, fun r hr => ?_⟩
  · unfold rules
    rw [hentries]
    exact hrs
  · obtain ⟨hwords, t, ht, htype, hknows⟩ := ruleProblems_nil (hall r hr).2
    obtain ⟨entry, -, hread⟩ := mem_of_mapM_ok hrs hr
    refine ⟨⟨hwords, Rule.name_of_decode hread⟩, ?_⟩
    obtain ⟨v, hv, hagrees⟩ := List.any_eq_true.1 hknows
    obtain ⟨key, listed, hlist, hlisted, e, he, rfl⟩ := exists_of_known hknown ht hv
    obtain ⟨found, hfound, hsub⟩ := exists_instancesOf his hlist
    obtain ⟨listed', ids, hlisted', hlisting, hkeys, -⟩ := h.read_instancesOf hlist hfound
    obtain rfl := Except.ok.inj (hlisted.symm.trans hlisted')
    obtain ⟨id, hid, hget⟩ := id_of_entry hlisting.entry e he
    rw [hget] at hagrees
    obtain rfl : id = r.targetId := Value.eq_of_agrees_whole rfl rfl hagrees
    have hkey : (Value.text t, r.targetId) ∈ found.map Instance.key := by
      rw [hkeys]
      exact List.mem_map_of_mem hid
    obtain ⟨i, hi, hi'⟩ := List.mem_map.1 hkey
    exact ⟨i, hsub i hi, htype ▸ hi'⟩

end Config

end Watchgate
