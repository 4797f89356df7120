import Watchgate.Proofs.Config.Startup

/-!
# One configuration after the other

A store outlives the configurations that are put into it. An instance that a later configuration leaves
out stays as the last configuration that listed it had it, and so does its being the default. So the
default is unique, and is the one of the last configuration, only while every earlier default is listed
again.
-/

namespace Watchgate.Config

open Store Criteria

/-- What a store holds after configurations that pass were put into it, one after the other; it was
empty at first. -/
inductive Reseeded : List Entries → Store → Prop
  | start : Reseeded [] {}
  | next {configs : List Entries} {config : Entries} {s s' : Session} (h : Reseeded configs s.store)
      (hpass : Passes config) (hseed : seed config s = (.ok (), s')) :
      Reseeded (configs ++ [config]) s'.store

/-- Whether a configuration lists an instance that is stored like this. -/
def Lists (config : Entries) (row : Instance) : Prop :=
  ∃ is, instances config = .ok is ∧ ∃ i ∈ is, instanceRow i = .ok row

/-- Whether an instance is for content of a type that has no rule. -/
def IsDefaultFor (type : String) (i : Instance) : Prop := i.type = .text type ∧ i.isDefault = true

/-- Some configuration lists the instance like this, and none after it lists it at all. -/
def LastListed (configs : List Entries) (row : Instance) : Prop :=
  Latest (Lists · row) (fun config => ∃ row', Lists config row' ∧ row'.key = row.key) configs

/-- Every default that a configuration lists is listed again by a later one, the last configuration
apart. -/
def RelistsDefaults (type : String) (configs : List Entries) : Prop :=
  ∀ front config back, configs = front ++ config :: back → back ≠ [] →
    ∀ row, Lists config row → IsDefaultFor type row →
      ∃ later ∈ back, ∃ row', Lists later row' ∧ row'.key = row.key

variable {configs : List Entries} {config : Entries} {store : Store} {type : String}

theorem mem_defaultsOf {is : List Instance} {i : Instance} :
    i ∈ defaultsOf type is ↔ i ∈ is ∧ IsDefaultFor type i := by
  unfold defaultsOf IsDefaultFor
  rw [List.mem_filter, Bool.and_eq_true, same_text, Rule.isOneOf_singleton]

/-- A configuration that passes lists one default of a type at most. -/
theorem Passes.default_unique (h : Passes config) {a b : Instance} (ha : Lists config a)
    (hda : IsDefaultFor type a) (hb : Lists config b) (hdb : IsDefaultFor type b) : a = b := by
  obtain ⟨is, his, i, hi, hrow⟩ := ha
  obtain ⟨_, his', j, hj, hrow'⟩ := hb
  obtain rfl := Except.ok.inj (his.symm.trans his')
  have hdefault : ∀ i ∈ is, ∀ row, instanceRow i = .ok row → IsDefaultFor type row →
      i ∈ defaultsOf type is := by
    intro i hi row hrow hd
    have hkey := congrArg Prod.fst (instanceRow_key (complete_of_instances his i hi) hrow)
    exact mem_defaultsOf.2 ⟨hi, hkey.symm.trans hd.1, (instanceRow_ok hrow).isDefault_eq.symm.trans hd.2⟩
  have hmem := hdefault i hi a hrow hda
  have hmem' := hdefault j hj b hrow' hdb
  have hone := (h.read_instances his).2 type
  obtain ⟨only, honly⟩ := List.length_eq_one_iff.1
    (Nat.le_antisymm hone (List.length_pos_of_mem hmem))
  rw [honly, List.mem_singleton] at hmem hmem'
  rw [hmem] at hrow
  rw [hmem'] at hrow'
  exact Except.ok.inj (hrow.symm.trans hrow')

/-- The rows of a configuration that passes are the instances that it lists, under distinct keys. -/
theorem Described.lists (hpass : Passes config) (d : Described config) :
    (d.instances.map Instance.key).Nodup ∧ (∀ row, row ∈ d.instances ↔ Lists config row) ∧
      ∀ row ∈ d.instances, ∀ r, isInstance row.id row.type r = true ↔ r.key = row.key := by
  obtain ⟨is, his, hrows⟩ := d.instances_read
  refine ⟨?_, fun row => ⟨fun hrow => ?_, ?_⟩, fun row hrow => ?_⟩
  · rw [keys_of_rows his hrows]
    exact (hpass.read_instances his).1
  · exact ⟨is, his, mem_of_mapM_ok hrows hrow⟩
  · rintro ⟨is', his', i, hi, hrow⟩
    obtain rfl := Except.ok.inj (his.symm.trans his')
    obtain ⟨row', hmem, hrow'⟩ := exists_mem_of_mapM_ok hrows hi
    obtain rfl := Except.ok.inj (hrow.symm.trans hrow')
    exact hmem
  · obtain ⟨i, -, hi⟩ := mem_of_mapM_ok hrows hrow
    exact isInstance_row hi

/-- The store holds each instance as it was last listed. -/
theorem Reseeded.instances (h : Reseeded configs store) : (store.instances.map Instance.key).Nodup ∧
    ∀ row, row ∈ store.instances ↔ LastListed configs row := by
  induction h with
  | start => exact ⟨List.nodup_nil, fun row => ⟨fun h => (nomatch h), fun h => absurd h not_latest_nil⟩⟩
  | @next configs config s s' _ hpass hseed ih =>
    obtain ⟨hdistinct, hlisted⟩ := ih
    obtain ⟨d, hd⟩ := described_of_seeded hpass ((stores_seed config).steps hseed).1
    obtain ⟨hkeys, hrows, hsame⟩ := d.lists hpass
    rw [hd]
    refine ⟨nodup_upsertAll hsame hdistinct, fun row => ?_⟩
    have hkey : row.key ∉ d.instances.map Instance.key ↔
        ¬∃ row', Lists config row' ∧ row'.key = row.key := by
      rw [List.mem_map]
      exact not_congr (exists_congr fun row' => and_congr_left' (hrows row'))
    unfold LastListed
    rw [latest_append_singleton, ← LastListed, ← hlisted, ← hrows, ← hkey]
    exact mem_upsertAll_iff hsame hkeys

theorem Reseeded.passes (h : Reseeded configs store) : ∀ config ∈ configs, Passes config := by
  induction h with
  | start => exact fun config hconfig => nomatch hconfig
  | next _ hpass _ ih =>
    intro config hconfig
    rcases List.mem_append.1 hconfig with hconfig | hconfig
    · exact ih config hconfig
    · rwa [List.mem_singleton.1 hconfig]

/-- All stored defaults are those of the last configuration exactly if earlier defaults are listed
again. -/
theorem Reseeded.defaults_of_last_iff (h : Reseeded configs store) :
    (∀ row ∈ store.instances, IsDefaultFor type row →
      ∃ front last, configs = front ++ [last] ∧ Lists last row) ↔ RelistsDefaults type configs := by
  constructor
  · intro hcurrent front config back hsplit hback row hlists hdefault
    by_contra hnone
    have hstale : row ∈ store.instances := by
      refine (h.instances.2 row).2 ⟨front, config, back, hsplit, hlists, fun later hlater hagain => ?_⟩
      exact hnone ⟨later, hlater, hagain⟩
    obtain ⟨front', last, hsplit', hlast⟩ := hcurrent row hstale hdefault
    obtain ⟨init, last', rfl⟩ := (List.eq_nil_or_concat back).resolve_left hback
    have hends : front' ++ [last] = (front ++ config :: init) ++ [last'] := by
      rw [← hsplit', hsplit]
      simp
    obtain ⟨-, hsame⟩ := List.append_inj' hends rfl
    obtain rfl := List.singleton_inj.1 hsame
    exact hnone ⟨last, by simp, row, hlast, rfl⟩
  · intro hrelists row hrow hdefault
    obtain ⟨front, config, back, hsplit, hlists, hlater⟩ := (h.instances.2 row).1 hrow
    by_cases hback : back = []
    · subst hback
      exact ⟨front, config, hsplit, hlists⟩
    · obtain ⟨later, hmem, hagain⟩ := hrelists front config back hsplit hback row hlists hdefault
      exact absurd hagain (hlater later hmem)

/-- A store holds each instance as it was last listed. While earlier defaults are listed again there is
one default of a type at most, and it is found if the last configuration has it in use. -/
theorem Reseeded.stored_defaults (h : Reseeded configs store) :
    (∀ row, row ∈ store.instances ↔ LastListed configs row) ∧
      ∀ type, RelistsDefaults type configs → (defaultsOf type store.instances).length ≤ 1 ∧
        ∀ front last, configs = front ++ [last] → ∀ row, Lists last row → IsDefaultFor type row →
          row.enabled = true → store.getDefaultInstance type = (readInstance row).map some := by
  obtain ⟨hdistinct, hlisted⟩ := h.instances
  refine ⟨hlisted, fun type hrelists => ?_⟩
  have hunique : ∀ a ∈ store.instances, IsDefaultFor type a → ∀ b ∈ store.instances,
      IsDefaultFor type b → a = b := by
    intro a ha hda b hb hdb
    obtain ⟨front, last, rfl, hla⟩ := h.defaults_of_last_iff.2 hrelists a ha hda
    obtain ⟨front', last', hsplit, hlb⟩ := h.defaults_of_last_iff.2 hrelists b hb hdb
    obtain ⟨-, hlast⟩ := List.append_inj' hsplit rfl
    obtain rfl := List.singleton_inj.1 hlast
    exact (h.passes last (by simp)).default_unique hla hda hlb hdb
  refine ⟨?_, fun front last hsplit row hrow hdefault henabled => ?_⟩
  · have hnodup : (defaultsOf type store.instances).Nodup := (hdistinct.of_map _).filter _
    rcases hfound : defaultsOf type store.instances with _ | ⟨a, _ | ⟨b, rest⟩⟩
    · exact Nat.zero_le 1
    · exact Nat.le_refl 1
    · rw [hfound] at hnodup
      obtain ⟨ha, hda⟩ := mem_defaultsOf.1 (hfound ▸ List.mem_cons_self : a ∈ _)
      obtain ⟨hb, hdb⟩ := mem_defaultsOf.1 (hfound ▸ List.mem_cons_of_mem a List.mem_cons_self : b ∈ _)
      obtain rfl := hunique a ha hda b hb hdb
      simp at hnodup
  · have hmem : row ∈ store.instances :=
      (hlisted row).2 ⟨front, last, [], hsplit, hrow, fun c hc => nomatch hc⟩
    have huse : ∀ i : Instance, (Column.same i.type (.text type) && i.isDefault && i.enabled) = true ↔
        IsDefaultFor type i ∧ i.enabled = true := by
      intro i
      unfold IsDefaultFor
      rw [Bool.and_eq_true, Bool.and_eq_true, same_text, Rule.isOneOf_singleton]
    unfold getDefaultInstance
    split
    · rename_i found hfound
      have hin := List.find?_some hfound
      obtain ⟨hd, -⟩ := (huse found).1 hin
      rw [hunique found (List.mem_of_find?_eq_some hfound) hd row hmem hdefault]
    · rename_i hnone
      exact absurd ((huse row).2 ⟨hdefault, henabled⟩) (List.find?_eq_none.1 hnone row hmem)

/-- Two configurations that pass and go into the store one after the other. -/
theorem Reseeded.pair {first last : Entries} {s : Session} (hempty : s.store = {})
    (hchecks : (outcome (check first)).toOption = some true ∧
      (outcome (check last)).toOption = some true)
    (hends : (seed first s).1.toOption = some () ∧
      (seed last (seed first s).2).1.toOption = some ()) :
    Reseeded [first, last] (seed last (seed first s).2).2.store := by
  have hstart : Reseeded [] s.store := hempty ▸ .start
  have hfirst : Reseeded [first] (seed first s).2.store :=
    hstart.next (ok_of_toOption hchecks.1) (Prod.fst_eq_iff.1 (ok_of_toOption hends.1))
  exact hfirst.next (ok_of_toOption hchecks.2) (Prod.fst_eq_iff.1 (ok_of_toOption hends.2))

/-- A configuration with a single instance, the default. -/
def oneDefault (id : Int) (folder : String) : Entries :=
  [("RADARR_INSTANCES", .list [
    .map [("id", .int id), ("root_folder", .text folder), ("is_default", .bool true)]])]

/-- An empty store into which two configurations are put one after the other. -/
def seededTwice (first last : Entries) : Session :=
  (seed last (seed first { now := .ofDate ⟨738959⟩ }).2).2

/-- The default moves from one instance to another where the first is listed again. -/
theorem reseeded_default_moves :
    let first := oneDefault 1 "/a"
    let last : Entries := [("RADARR_INSTANCES", .list [
      .map [("id", .int 1), ("root_folder", .text "/a")],
      .map [("id", .int 2), ("root_folder", .text "/b"), ("is_default", .bool true)]])]
    let s := seededTwice first last
    Reseeded [first, last] s.store ∧ RelistsDefaults "radarr" [first, last] ∧
      (defaultsOf "radarr" s.store.instances).length ≤ 1 := by
  intro first last s
  have hchecks : (outcome (check first)).toOption = some true ∧
      (outcome (check last)).toOption = some true := by decide +kernel
  have hends : (seed first { now := .ofDate ⟨738959⟩ }).1.toOption = some () ∧
      (seed last (seed first { now := .ofDate ⟨738959⟩ }).2).1.toOption = some () := by decide +kernel
  have hrun : Reseeded [first, last] s.store := .pair rfl hchecks hends
  have hagain : ∃ row, Lists last row ∧ row.key = (.text "radarr", 1) :=
    ⟨_, ⟨_, rfl, _, List.mem_cons_self, rfl⟩, rfl⟩
  have honly : (instances first).toOption.all (fun is =>
      is.all fun i => i.id = 1 && Column.same i.type (.text "radarr")) = true := by decide +kernel
  have hrelists : RelistsDefaults "radarr" [first, last] := by
    rintro (_ | ⟨_, _ | ⟨_, front⟩⟩) config back hsplit hback row ⟨is, his, i, hi, hrow⟩ -
    · obtain ⟨rfl, rfl⟩ := List.cons.inj hsplit
      obtain ⟨row', hrow', hkey⟩ := hagain
      rw [his] at honly
      have hid := List.all_eq_true.1 honly i hi
      rw [Bool.and_eq_true, decide_eq_true_eq] at hid
      have hkeys := instanceRow_key (complete_of_instances his i hi) hrow
      refine ⟨last, List.mem_singleton_self last, row', hrow', ?_⟩
      rw [hkey, hkeys, Instance.key, hid.1, Column.eq_of_same hid.2]
    · exact absurd (List.cons.inj (List.cons.inj hsplit).2).2.symm hback
    · simp at hsplit
  exact ⟨hrun, hrelists, (hrun.stored_defaults.2 "radarr" hrelists).1⟩

/-- A default that the next configuration leaves out stays, beside the new one, and is the one that is
found. -/
theorem stale_default_stays :
    let first := oneDefault 1 "/a"
    let last := oneDefault 2 "/b"
    let s := seededTwice first last
    Reseeded [first, last] s.store ∧ (defaultsOf "radarr" s.store.instances).length = 2 ∧
      (s.store.getDefaultInstance "radarr").toOption.map (·.map Instance.id) = some (some 1) := by
  intro first last s
  have hchecks : (outcome (check first)).toOption = some true ∧
      (outcome (check last)).toOption = some true := by decide +kernel
  have hends : (seed first { now := .ofDate ⟨738959⟩ }).1.toOption = some () ∧
      (seed last (seed first { now := .ofDate ⟨738959⟩ }).2).1.toOption = some () := by decide +kernel
  have hrun : Reseeded [first, last] s.store := .pair rfl hchecks hends
  exact ⟨hrun, by decide +kernel⟩

end Watchgate.Config
