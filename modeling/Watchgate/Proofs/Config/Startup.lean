import Watchgate.Proofs.Config.Seeding

/-!
# Starting with a checked configuration

The checks look at what a configuration says, not at whether the store has room for it. So a
configuration that passes may still end the start: exactly where the tags of an instance are no list, or
where something in it is larger than what is stored, or of a kind that is not. Where the start succeeds,
an empty store holds what the configuration describes and nothing else.
-/

namespace Watchgate.Config

open Store Criteria
open Column (fits)

/-- A configuration all of which can be read, and which the store has room for. -/
structure Storable (config : Entries) : Prop where
  instances : ∃ is, Config.instances config = .ok is ∧ ∀ i ∈ is, i.Fits
  users : ∀ us, Config.users config = .ok us → ∀ u ∈ us, fits u.id = true
  rules : ∀ rs, Config.rules config = .ok rs → ∀ r ∈ rs, r.Fits

/-- A store that holds what a configuration describes. Of several users with one id the last one counts,
and of several quotas of a user for one type of content. -/
structure Stored (config : Entries) (store : Store) : Prop where
  instances : ∃ is, Config.instances config = .ok is ∧ is.mapM instanceRow = .ok store.instances
  users : ∃ us, Config.users config = .ok us ∧ LastWins User.id us store.users
  quotas : ∃ qs, Config.quotas config = .ok qs ∧ LastWins Quota.key qs store.quotas
  rules : ∃ rs, Config.rules config = .ok rs ∧ rs.mapM ruleRow = .ok store.rules
  targets : ∀ r ∈ store.rules, ∃ i ∈ store.instances, i.key = (r.targetType, r.targetId)
  defaults : ∀ type, (defaultsOf type store.instances).length ≤ 1

variable {config : Entries}

/-- There are rows for a configuration that passes exactly if it is storable. -/
theorem Passes.described_iff (h : Passes config) :
    Nonempty (Described config) ↔ Storable config := by
  constructor
  · rintro ⟨d⟩
    obtain ⟨is, his, hinstances⟩ := d.instances_read
    obtain ⟨rs, hrs, hrules⟩ := d.rules_read
    refine ⟨⟨is, his, fun i hi => ?_⟩, fun us hus u hu => ?_, fun rs' hrs' r hr => ?_⟩
    · obtain ⟨row, -, hrow⟩ := exists_mem_of_mapM_ok hinstances hi
      exact (instanceRow_ok hrow).fits
    · obtain rfl := Except.ok.inj (d.users_read.symm.trans hus)
      exact d.users_fit u hu
    · obtain rfl := Except.ok.inj (hrs.symm.trans hrs')
      obtain ⟨row, -, hrow⟩ := exists_mem_of_mapM_ok hrules hr
      exact (ruleRow_ok hrow).fits
  · intro hstorable
    obtain ⟨is, his, hfits⟩ := hstorable.instances
    obtain ⟨us, hus, -⟩ := h.read_users
    obtain ⟨qs, hqs, -⟩ := h.read_quotas hus
    obtain ⟨rs, hrs, -, hcomplete⟩ := h.read_rules his
    obtain ⟨instanceRows, hinstances⟩ := exists_mapM_ok fun i hi =>
      (exists_instanceRow_iff (complete_of_instances his i hi)).2 (hfits i hi)
    obtain ⟨ruleRows, hrules⟩ := exists_mapM_ok fun r hr =>
      (exists_ruleRow_iff (hcomplete r hr).1).2 (hstorable.rules rs hrs r hr)
    exact ⟨⟨instanceRows, us, qs, ruleRows, ⟨is, his, hinstances⟩, hus, hstorable.users us hus, hqs,
      ⟨rs, hrs, hrules⟩⟩⟩

/-! ## The rows in an empty store -/

section Tables

variable {is instanceRows : List Instance} (his : Config.instances config = .ok is)
  (hrows : is.mapM instanceRow = .ok instanceRows)

include his hrows

theorem keys_of_rows : instanceRows.map Instance.key = is.map Instance.key :=
  map_of_mapM_ok (fun i hi _ hrow => instanceRow_key (complete_of_instances his i hi) hrow) hrows

theorem defaults_of_rows (type : String) :
    (defaultsOf type instanceRows).length = (defaultsOf type is).length := by
  have hkept : instanceRows.map (fun i => (i.type, i.isDefault)) = is.map fun i => (i.type, i.isDefault) := by
    refine map_of_mapM_ok (fun i hi row hrow => ?_) hrows
    have hkey := congrArg Prod.fst (instanceRow_key (complete_of_instances his i hi) hrow)
    exact Prod.ext hkey (instanceRow_ok hrow).isDefault_eq
  have hcount : ∀ l : List Instance, (defaultsOf type l).length =
      (l.map fun i => (i.type, i.isDefault)).countP fun p => Column.same p.1 (.text type) && p.2 := by
    intro l
    rw [List.countP_map, List.countP_eq_length_filter]
    rfl
  rw [hcount, hcount, hkept]

end Tables

theorem stored_of_described (hpass : Passes config) (d : Described config) :
    Stored config (d.putInto {}) := by
  obtain ⟨is, his, hinstances⟩ := d.instances_read
  obtain ⟨rs, hrs, hrules⟩ := d.rules_read
  obtain ⟨hkeys, hdefaults⟩ := hpass.read_instances his
  obtain ⟨_, hqs, hchecked⟩ := hpass.read_quotas d.users_read
  obtain rfl := Except.ok.inj (d.quotas_read.symm.trans hqs)
  obtain ⟨_, hrs', hids, htargets⟩ := hpass.read_rules his
  obtain rfl := Except.ok.inj (hrs.symm.trans hrs')
  have hputInstances : (d.putInto {}).instances = d.instances := by
    refine upsertAll_of_nodup Instance.key (fun row hrow => ?_) ?_
    · obtain ⟨i, -, hi⟩ := mem_of_mapM_ok hinstances hrow
      exact isInstance_row hi
    · rw [List.nil_append, keys_of_rows his hinstances]
      exact hkeys
  have hputRules : (d.putInto {}).rules = d.rules := by
    have hall : upsertAll (fun row r : Rule => decide (r.id = row.id)) d.rules [] = d.rules := by
      refine upsertAll_of_nodup Rule.id (fun _ _ _ => decide_eq_true_iff) ?_
      rw [List.nil_append, ids_of_ruleRows hrules]
      exact hids
    change (upsertAll (fun row r : Rule => decide (r.id = row.id)) d.rules []).filter _ = _
    rw [hall]
    exact List.filter_eq_self.2 fun r hr => List.contains_iff_mem.2 (List.mem_map_of_mem hr)
  constructor
  · exact ⟨is, his, hputInstances ▸ hinstances⟩
  · exact ⟨d.users, d.users_read, LastWins.nil.upsertAll fun u _ v => decide_eq_true_iff⟩
  · refine ⟨d.quotas, d.quotas_read, LastWins.nil.upsertAll fun q hq r => ?_⟩
    obtain ⟨t, ht⟩ := (quotaRow_of_check (hchecked q hq).1).2
    exact isQuota_iff ht
  · exact ⟨rs, hrs, hputRules ▸ hrules⟩
  · intro row hrow
    rw [hputRules] at hrow
    rw [hputInstances]
    obtain ⟨r, hr, hrow⟩ := mem_of_mapM_ok hrules hrow
    obtain ⟨hcomplete, i, hi, hkey⟩ := htargets r hr
    obtain ⟨target, htarget, hi'⟩ := exists_mem_of_mapM_ok hinstances hi
    refine ⟨target, htarget, ?_⟩
    rw [instanceRow_key (complete_of_instances his i hi) hi', hkey]
    exact (target_of_ruleRow hcomplete hrow).symm
  · intro type
    rw [hputInstances, defaults_of_rows his hinstances]
    exact hdefaults type

/-! ## Starting -/

/-- Seeding an empty store with a configuration that passes raises nothing exactly if there is room for
all of it, and the store then holds what it describes. -/
theorem seed_of_passes (hpass : Passes config) {s : Session} (hempty : s.store = {})
    (hout : s.outages = []) : ((seed config s).1 = .ok () ↔ Storable config) ∧
      ∀ s', seed config s = (.ok (), s') → Stored config s'.store := by
  have hreturns : ∀ s', seed config s = (.ok (), s') →
      ∃ d : Described config, s'.store = d.putInto {} := by
    intro s' h
    have hseeded := ((stores_seed config).steps h).1
    rw [hempty] at hseeded
    exact described_of_seeded hpass hseeded
  refine ⟨⟨fun h => ?_, fun h => ?_⟩, fun s' h => ?_⟩
  · obtain ⟨d, -⟩ := hreturns (seed config s).2 (Prod.fst_eq_iff.1 h)
    exact hpass.described_iff.1 ⟨d⟩
  · obtain ⟨d⟩ := hpass.described_iff.2 h
    have hseeded : seeded config s.store = .ok ((), d.putInto s.store) := seeded_of_described hpass d
    obtain ⟨s', hs', -⟩ := (stores_seed config).acts hout hseeded
    rw [hs']
  · obtain ⟨d, hd⟩ := hreturns s' h
    rw [hd]
    exact stored_of_described hpass d

/-- Two users under one id, and a rule for one of two instances. -/
theorem seed_of_passes_household :
    let config : Entries := [
      ("RADARR_INSTANCES", .list [
        .map [("id", .int 1), ("root_folder", .text "/movies"), ("is_default", .bool true)],
        .map [("id", .int 2), ("root_folder", .text "/4k"), ("quality_profile", .int 7)]]),
      ("USERS", .list [.map [("id", .int 1), ("name", .text "Ann")],
        .map [("id", .int 1), ("name", .text "Bob")]]),
      ("USER_QUOTAS", .list [.map [("user_id", .int 1), ("content_type", .text "movie"),
        ("quota_type", .text "daily"), ("quota_limit", .int 3)]]),
      ("ROUTER_RULES", .list [.map [("id", .int 1), ("type", .text "genre"),
        ("target_type", .text "radarr"), ("target_instance_id", .int 2),
        ("criteria", .map [("genre", .text "Drama")])]])]
    let s : Session := { now := .ofDate ⟨738959⟩ }
    Passes config ∧ (seed config s).1 = .ok () ∧ Stored config (seed config s).2.store ∧
      (seed config s).2.store.users.length = 1 := by
  intro config s
  have hcheck : (outcome (check config)).toOption = some true := by decide +kernel
  have hpass : Passes config := ok_of_toOption hcheck
  have hends : (seed config s).1.toOption = some () := by decide +kernel
  have hseed : (seed config s).1 = .ok () := ok_of_toOption hends
  refine ⟨hpass, hseed, ?_, ?_⟩
  · exact (seed_of_passes hpass rfl rfl).2 (seed config s).2 (Prod.fst_eq_iff.1 hseed)
  · decide +kernel

/-- Tags that are no list pass, and end the start. -/
theorem seed_fails_for_tags :
    let config : Entries := [("RADARR_INSTANCES", .list [
      .map [("id", .int 1), ("root_folder", .text "/m"), ("tags", .int 5)]])]
    Passes config ∧ (seed config { now := .ofDate ⟨738959⟩ }).1 = .error (.kind (.notIterable "int")) := by
  intro config
  have hcheck : (outcome (check config)).toOption = some true := by decide +kernel
  exact ⟨ok_of_toOption hcheck, rfl⟩

end Watchgate.Config
