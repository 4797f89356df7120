import Watchgate.Proofs.Config.Checking
import Watchgate.Proofs.Session.Quiet
import Watchgate.Config.Load

/-!
# Putting a checked configuration into the store

What seeding does to the store does not depend on the rest of the session, so it is described as steps
on the store alone. A configuration that passes goes into the store if there is room for everything in
it; the rows are then those that it describes.
-/

namespace Watchgate

open Store
open Column (fits)

/-- Steps on the store, each of which may fail. -/
abbrev Steps := StateT Store (Except Failure)

namespace Steps

variable {α β : Type}

/-- A result that does not depend on the store. -/
def ofResult (x : Except Failure α) : Steps α := fun s => x.map (·, s)

theorem ofResult_ok_iff {x : Except Failure α} {s s' : Store} {a : α} :
    ofResult x s = .ok (a, s') ↔ x = .ok a ∧ s' = s := by
  constructor
  · intro h
    obtain ⟨b, rfl, hb⟩ := ok_of_map h
    obtain ⟨rfl, rfl⟩ := Prod.mk.inj hb
    exact ⟨rfl, rfl⟩
  · rintro ⟨rfl, rfl⟩
    rfl

theorem bind_ok_iff {f : Steps α} {g : α → Steps β} {s s' : Store} {b : β} :
    (f >>= g) s = .ok (b, s') ↔ ∃ a s₁, f s = .ok (a, s₁) ∧ g a s₁ = .ok (b, s') := by
  constructor
  · intro h
    obtain ⟨⟨a, s₁⟩, hf, hg⟩ := ok_of_bind h
    exact ⟨a, s₁, hf, hg⟩
  · rintro ⟨a, s₁, hf, hg⟩
    change (f s >>= fun p => g p.1 p.2) = _
    rw [hf]
    exact hg

end Steps

/-! ## Acts as steps on the store -/

namespace Act

variable {α β : Type}

/-- The act does to the store what the steps do, and if nothing is out of order it does just that. -/
structure Stores (x : Act α) (f : Steps α) : Prop where
  steps : ∀ {s s' a}, x s = (.ok a, s') → f s.store = .ok (a, s'.store) ∧ s'.outages = s.outages
  acts : ∀ {s a store}, s.outages = [] → f s.store = .ok (a, store) →
    ∃ s', x s = (.ok a, s') ∧ s'.store = store ∧ s'.outages = []

theorem stores_write (call : StoreCall) (first : Option Value) (f : Steps α) :
    (write call first f).Stores f where
  steps {s s' a} h := by
    rcases write_cases call first f s with ⟨b, store, hf, hw⟩ | ⟨e, s₁, hw, -⟩
    · obtain ⟨hb, rfl⟩ := Prod.mk.inj (hw.symm.trans h)
      obtain rfl := Except.ok.inj hb
      exact ⟨hf, rfl⟩
    · cases hw.symm.trans h
  acts {s a store} ho hf := ⟨_, write_of_ok ho hf, rfl, ho⟩

theorem stores_ofResult (x : Except Failure α) :
    (ofResult x).Stores (Steps.ofResult x) where
  steps {s s' a} h := by
    obtain ⟨rfl, rfl⟩ := ofResult_returns h
    exact ⟨rfl, rfl⟩
  acts {s a store} ho hf := by
    obtain ⟨rfl, rfl⟩ := Steps.ofResult_ok_iff.1 hf
    exact ⟨s, rfl, rfl, ho⟩

theorem stores_info (text : String) : (info text).Stores (pure ()) where
  steps {s s' a} h := by
    obtain ⟨-, rfl⟩ := Prod.mk.inj h
    exact ⟨rfl, rfl⟩
  acts {s a store} ho hf := by
    obtain ⟨rfl, rfl⟩ := Prod.mk.inj (pure_ok hf)
    exact ⟨_, rfl, rfl, ho⟩

theorem Stores.bind {x : Act α} {f : Steps α} {y : α → Act β} {g : α → Steps β} (hx : x.Stores f)
    (hy : ∀ a, (y a).Stores (g a)) : (x >>= y).Stores (f >>= g) where
  steps {s s' b} h := by
    obtain ⟨a, s₁, hxs, hys⟩ := bind_returns h
    obtain ⟨hf, ho⟩ := hx.steps hxs
    obtain ⟨hg, ho'⟩ := (hy a).steps hys
    exact ⟨Steps.bind_ok_iff.2 ⟨a, s₁.store, hf, hg⟩, ho'.trans ho⟩
  acts {s b store} ho h := by
    obtain ⟨a, store₁, hf, hg⟩ := Steps.bind_ok_iff.1 h
    obtain ⟨s₁, hxs, rfl, ho⟩ := hx.acts ho hf
    obtain ⟨s', hys, hstore, ho⟩ := (hy a).acts ho hg
    exact ⟨s', (bind_of_ok hxs).trans hys, hstore, ho⟩

theorem stores_forM {x : α → Act Unit} {f : α → Steps Unit} (h : ∀ a, (x a).Stores (f a)) :
    ∀ l : List α, (l.forM x).Stores (l.forM f)
  | [] => by
    refine ⟨fun {s s' a} h => ?_, fun {s a store} ho h => ?_⟩
    · obtain ⟨rfl, rfl⟩ := pure_returns h
      exact ⟨rfl, rfl⟩
    · obtain ⟨rfl, rfl⟩ := Prod.mk.inj (pure_ok h)
      exact ⟨s, rfl, rfl, ho⟩
  | a :: l => (h a).bind fun _ => stores_forM h l

end Act

/-! ## One table after the other -/

namespace Store

variable {s s' : Store}

theorem forM_putInstance_iff {is : List Instance} :
    is.forM (m := Steps) putInstance s = .ok ((), s') ↔ ∃ rows, is.mapM instanceRow = .ok rows ∧
      s' = { s with instances := upsertAll (fun row => isInstance row.id row.type) rows s.instances } := by
  have hput : ∀ i ∈ is, ∀ s s', putInstance i s = .ok ((), s') ↔ True ∧ ∃ row, instanceRow i = .ok row ∧
      s' = { s with instances := upsert (isInstance row.id row.type) row s.instances } := by
    intro i _ s s'
    unfold putInstance
    cases instanceRow i with
    | error e => exact ⟨fun h => (nomatch h), fun ⟨_, _, h, _⟩ => (nomatch h)⟩
    | ok row =>
      constructor
      · intro h
        exact ⟨trivial, row, rfl, (Prod.mk.inj (pure_ok h)).2.symm⟩
      · rintro ⟨-, _, hrow, rfl⟩
        obtain rfl := Except.ok.inj hrow
        rfl
  rw [Table.instances.forM_ok_iff hput fun _ _ _ => Iff.rfl]
  simp only [implies_true, true_and]
  rfl

theorem forM_putUser_iff {us : List User} (hus : ∀ u ∈ us, ∃ t, u.name = .text t) :
    us.forM (m := Steps) (fun u => putUser u.id u.name (.bool u.requiresApproval)) s = .ok ((), s') ↔
      (∀ u ∈ us, fits u.id = true) ∧
        s' = { s with users := upsertAll (fun u v => v.id = u.id) us s.users } := by
  have hput : ∀ u ∈ us, ∀ s s', putUser u.id u.name (.bool u.requiresApproval) s = .ok ((), s') ↔
      fits u.id = true ∧ s' = { s with users := upsert (·.id = u.id) u s.users } := by
    intro u hu s s'
    obtain ⟨t, ht⟩ := hus u hu
    exact putUser_ok_iff ht
  exact Table.users.forM_rows_ok_iff hput fun _ _ _ => Iff.rfl

theorem forM_putQuota_iff {qs : List Quota} (hqs : ∀ q ∈ qs, q.check = .ok ()) :
    qs.forM (m := Steps) putQuota s = .ok ((), s') ↔ (∀ q ∈ qs, s.Knows q.userId) ∧
      s' = { s with
        quotas := upsertAll (fun q => isQuota q.userId q.contentType) qs s.quotas } :=
  Table.quotas.forM_rows_ok_iff (fun q hq _ _ => putQuota_ok_iff (hqs q hq)) fun _ _ _ => Iff.rfl

theorem forM_putRule_iff {rs : List Rule} :
    rs.forM (m := Steps) putRule s = .ok ((), s') ↔ (∀ r ∈ rs, requireTarget r s = .ok ()) ∧
      ∃ rows, rs.mapM ruleRow = .ok rows ∧
        s' = { s with rules := upsertAll (fun row r => r.id = row.id) rows s.rules } := by
  have hput : ∀ r ∈ rs, ∀ s s', putRule r s = .ok ((), s') ↔ requireTarget r s = .ok () ∧
      ∃ row, ruleRow r = .ok row ∧ s' = { s with rules := upsert (·.id = row.id) row s.rules } := by
    intro r _ s s'
    unfold putRule
    cases requireTarget r s with
    | error e => exact ⟨fun h => (nomatch h), fun h => (nomatch h.1)⟩
    | ok _ =>
      cases ruleRow r with
      | error e => exact ⟨fun h => (nomatch h), fun ⟨_, _, h, _⟩ => (nomatch h)⟩
      | ok row =>
        constructor
        · intro h
          exact ⟨rfl, row, rfl, (Prod.mk.inj (pure_ok h)).2.symm⟩
        · rintro ⟨-, _, hrow, rfl⟩
          obtain rfl := Except.ok.inj hrow
          rfl
  exact Table.rules.forM_ok_iff hput fun _ _ _ => Iff.rfl

theorem mapM_checked_iff {ids kept : List Int} :
    ids.mapM Column.checked = .ok kept ↔ (∀ id ∈ ids, fits id = true) ∧ kept = ids := by
  induction ids generalizing kept with
  | nil =>
    refine ⟨fun h => ⟨fun id hid => (nomatch hid), (pure_ok h).symm⟩, ?_⟩
    rintro ⟨-, rfl⟩
    rfl
  | cons id ids ih =>
    constructor
    · intro h
      obtain ⟨n, ns, hn, hns, rfl⟩ := mapM_ok_cons h
      obtain ⟨hall, rfl⟩ := ih.1 hns
      refine ⟨List.forall_mem_cons.2 ⟨Column.fits_of_checked hn, hall⟩, ?_⟩
      rw [Column.checked_ok hn]
    · rintro ⟨hall, rfl⟩
      obtain ⟨hid, hids⟩ := List.forall_mem_cons.1 hall
      exact mapM_ok_of_cons (Column.checked_eq hid) (ih.2 ⟨hids, rfl⟩)

theorem keepRules_ok_iff {ids : List Int} :
    (∃ n, keepRules ids s = .ok (n, s')) ↔ (∀ id ∈ ids, fits id = true) ∧
      s' = { s with rules := s.rules.filter fun r => ids.contains r.id } := by
  constructor
  · rintro ⟨n, h⟩
    obtain ⟨kept, hkept, hdrop⟩ := ok_of_bind h
    obtain ⟨hall, rfl⟩ := mapM_checked_iff.1 hkept
    exact ⟨hall, (Prod.mk.inj (pure_ok hdrop)).2.symm⟩
  · rintro ⟨hall, rfl⟩
    unfold keepRules
    rw [mapM_checked_iff.2 ⟨hall, rfl⟩]
    exact ⟨_, rfl⟩

/-- A rule whose target was just put into the store may be put there too. -/
theorem requireTarget_of_mem {r : Rule} (hr : r.Complete) {is rows old : List Instance}
    (hrows : is.mapM instanceRow = .ok rows) (hinstances : s.instances =
      upsertAll (fun row => isInstance row.id row.type) rows old)
    {i : Instance} (hi : i ∈ is) (hcomplete : i.Complete) (hkey : i.key = (r.targetType, r.targetId)) :
    requireTarget r s = .ok () := by
  obtain ⟨t, ht⟩ := hr.words r.targetType (by simp)
  obtain ⟨row, hrow, hi⟩ := exists_mem_of_mapM_ok hrows hi
  have hid : i.id = r.targetId := congrArg Prod.snd hkey
  have hfits : fits r.targetId = true := hid ▸ (instanceRow_ok hi).fits.id
  have hsame : ∀ a ∈ rows, ∀ r, isInstance a.id a.type r = true ↔ r.key = a.key := by
    intro a ha
    obtain ⟨j, -, hj⟩ := mem_of_mapM_ok hrows ha
    exact isInstance_row hj
  have hmem : row.key ∈ s.instances.map Instance.key := by
    rw [hinstances, mem_keys_upsertAll hsame]
    exact .inl (List.mem_map_of_mem hrow)
  obtain ⟨target, htarget, hkeys⟩ := List.mem_map.1 hmem
  rw [instanceRow_key hcomplete hi, hkey, ht] at hkeys
  have hany : s.instances.any (isInstance r.targetId (.text t)) = true :=
    List.any_eq_true.2 ⟨target, htarget, isInstance_iff.2 hkeys⟩
  unfold requireTarget
  rw [ht, Column.checked_eq hfits]
  change (if s.instances.any (isInstance r.targetId (.text t)) = true then _ else _) = _
  rw [if_pos hany]
  rfl

end Store

/-! ## A whole configuration -/

namespace Config

/-- What seeding does to the store. -/
def seeded (config : Entries) : Steps Unit := do
  let is ← Steps.ofResult (instances config)
  is.forM (m := Steps) putInstance
  let us ← Steps.ofResult (users config)
  us.forM (m := Steps) fun u => putUser u.id u.name (.bool u.requiresApproval)
  let qs ← Steps.ofResult (quotas config)
  qs.forM (m := Steps) putQuota
  let rs ← Steps.ofResult (rules config)
  rs.forM (m := Steps) putRule
  let _ ← (keepRules (rs.map Rule.id) : Steps Nat)
  pure ()

theorem stores_seed (config : Entries) : (seed config).Stores (seeded config) := by
  refine (Act.stores_ofResult _).bind fun is => ?_
  refine (Act.stores_forM (fun i => Act.stores_write _ _ _) is).bind fun _ => ?_
  refine (Act.stores_ofResult _).bind fun us => ?_
  refine (Act.stores_forM (fun u => Act.stores_write _ _ _) us).bind fun _ => ?_
  refine (Act.stores_ofResult _).bind fun qs => ?_
  refine (Act.stores_forM (fun q => Act.stores_write _ _ _) qs).bind fun _ => ?_
  refine (Act.stores_ofResult _).bind fun rs => ?_
  refine (Act.stores_forM (fun r => Act.stores_write _ _ _) rs).bind fun _ => ?_
  exact (Act.stores_write _ _ _).bind fun _ => Act.stores_info _

/-- The rows that a configuration describes, each of which its table takes. -/
structure Described (config : Entries) where
  instances : List Instance
  users : List User
  quotas : List Quota
  rules : List Rule
  instances_read : ∃ is, Config.instances config = .ok is ∧ is.mapM instanceRow = .ok instances
  users_read : Config.users config = .ok users
  users_fit : ∀ u ∈ users, fits u.id = true
  quotas_read : Config.quotas config = .ok quotas
  rules_read : ∃ rs, Config.rules config = .ok rs ∧ rs.mapM ruleRow = .ok rules

/-- The store with the rows of a configuration. -/
def Described.putInto {config : Entries} (d : Described config) (s : Store) : Store := { s with
  instances := upsertAll (fun row => isInstance row.id row.type) d.instances s.instances
  users := upsertAll (fun u v => v.id = u.id) d.users s.users
  quotas := upsertAll (fun q => isQuota q.userId q.contentType) d.quotas s.quotas
  rules := (upsertAll (fun row r => r.id = row.id) d.rules s.rules).filter fun r =>
    (d.rules.map Rule.id).contains r.id }

theorem ids_of_ruleRows {rs rows : List Rule} (h : rs.mapM ruleRow = .ok rows) :
    rows.map Rule.id = rs.map Rule.id :=
  map_of_mapM_ok (fun _ _ _ hrow => (ruleRow_ok hrow).id_eq) h

variable {config : Entries} {s s' : Store}

/-- Seeding is one table after the other. -/
theorem seeded_ok_iff : seeded config s = .ok ((), s') ↔
    ∃ is us qs rs, instances config = .ok is ∧ users config = .ok us ∧ quotas config = .ok qs ∧
      rules config = .ok rs ∧ ∃ s₁ s₂ s₃ s₄, is.forM (m := Steps) putInstance s = .ok ((), s₁) ∧
        us.forM (m := Steps) (fun u => putUser u.id u.name (.bool u.requiresApproval)) s₁
          = .ok ((), s₂) ∧
        qs.forM (m := Steps) putQuota s₂ = .ok ((), s₃) ∧
        rs.forM (m := Steps) putRule s₃ = .ok ((), s₄) ∧
        ∃ n, keepRules (rs.map Rule.id) s₄ = .ok (n, s') := by
  constructor
  · intro h
    obtain ⟨is, s₀, hreadInstances, h₁⟩ := Steps.bind_ok_iff.1 h
    obtain ⟨⟨⟩, s₁, hputInstances, h₂⟩ := Steps.bind_ok_iff.1 h₁
    obtain ⟨us, s₁', hreadUsers, h₃⟩ := Steps.bind_ok_iff.1 h₂
    obtain ⟨⟨⟩, s₂, hputUsers, h₄⟩ := Steps.bind_ok_iff.1 h₃
    obtain ⟨qs, s₂', hreadQuotas, h₅⟩ := Steps.bind_ok_iff.1 h₄
    obtain ⟨⟨⟩, s₃, hputQuotas, h₆⟩ := Steps.bind_ok_iff.1 h₅
    obtain ⟨rs, s₃', hreadRules, h₇⟩ := Steps.bind_ok_iff.1 h₆
    obtain ⟨⟨⟩, s₄, hputRules, h₈⟩ := Steps.bind_ok_iff.1 h₇
    obtain ⟨n, s₅, hkeep, h₉⟩ := Steps.bind_ok_iff.1 h₈
    obtain ⟨his, rfl⟩ := Steps.ofResult_ok_iff.1 hreadInstances
    obtain ⟨hus, rfl⟩ := Steps.ofResult_ok_iff.1 hreadUsers
    obtain ⟨hqs, rfl⟩ := Steps.ofResult_ok_iff.1 hreadQuotas
    obtain ⟨hrs, rfl⟩ := Steps.ofResult_ok_iff.1 hreadRules
    obtain ⟨-, rfl⟩ := Prod.mk.inj (pure_ok h₉)
    exact ⟨is, us, qs, rs, his, hus, hqs, hrs, _, _, _, _, hputInstances, hputUsers, hputQuotas,
      hputRules, n, hkeep⟩
  · rintro ⟨is, us, qs, rs, his, hus, hqs, hrs, s₁, s₂, s₃, s₄, hputInstances, hputUsers, hputQuotas,
      hputRules, n, hkeep⟩
    refine Steps.bind_ok_iff.2 ⟨is, s, Steps.ofResult_ok_iff.2 ⟨his, rfl⟩, ?_⟩
    refine Steps.bind_ok_iff.2 ⟨(), s₁, hputInstances, ?_⟩
    refine Steps.bind_ok_iff.2 ⟨us, s₁, Steps.ofResult_ok_iff.2 ⟨hus, rfl⟩, ?_⟩
    refine Steps.bind_ok_iff.2 ⟨(), s₂, hputUsers, ?_⟩
    refine Steps.bind_ok_iff.2 ⟨qs, s₂, Steps.ofResult_ok_iff.2 ⟨hqs, rfl⟩, ?_⟩
    refine Steps.bind_ok_iff.2 ⟨(), s₃, hputQuotas, ?_⟩
    refine Steps.bind_ok_iff.2 ⟨rs, s₃, Steps.ofResult_ok_iff.2 ⟨hrs, rfl⟩, ?_⟩
    refine Steps.bind_ok_iff.2 ⟨(), s₄, hputRules, ?_⟩
    exact Steps.bind_ok_iff.2 ⟨n, s', hkeep, rfl⟩

theorem described_of_seeded (hpass : Passes config) (h : seeded config s = .ok ((), s')) :
    ∃ d : Described config, s' = d.putInto s := by
  obtain ⟨is, us, qs, rs, his, hus, hqs, hrs, s₁, s₂, s₃, s₄, hputInstances, hputUsers, hputQuotas,
    hputRules, n, hkeep⟩ := seeded_ok_iff.1 h
  obtain ⟨_, hus', hnames⟩ := hpass.read_users
  obtain rfl := Except.ok.inj (hus.symm.trans hus')
  obtain ⟨_, hqs', hchecked⟩ := hpass.read_quotas hus
  obtain rfl := Except.ok.inj (hqs.symm.trans hqs')
  obtain ⟨instanceRows, hinstances, rfl⟩ := forM_putInstance_iff.1 hputInstances
  obtain ⟨hfit, rfl⟩ := (forM_putUser_iff hnames).1 hputUsers
  obtain ⟨-, rfl⟩ := (forM_putQuota_iff fun q hq => (hchecked q hq).1).1 hputQuotas
  obtain ⟨-, ruleRows, hrules, rfl⟩ := forM_putRule_iff.1 hputRules
  obtain ⟨-, rfl⟩ := keepRules_ok_iff.1 ⟨n, hkeep⟩
  refine ⟨⟨instanceRows, us, qs, ruleRows, ⟨is, his, hinstances⟩, hus, hfit, hqs, ⟨rs, hrs, hrules⟩⟩, ?_⟩
  unfold Described.putInto
  rw [ids_of_ruleRows hrules]

/-- The rows of a configuration that passes can be put into any store. -/
theorem seeded_of_described (hpass : Passes config) (d : Described config) :
    seeded config s = .ok ((), d.putInto s) := by
  obtain ⟨is, his, hinstances⟩ := d.instances_read
  obtain ⟨rs, hrs, hrules⟩ := d.rules_read
  obtain ⟨_, hus, hnames⟩ := hpass.read_users
  obtain rfl := Except.ok.inj (d.users_read.symm.trans hus)
  obtain ⟨_, hqs, hchecked⟩ := hpass.read_quotas d.users_read
  obtain rfl := Except.ok.inj (d.quotas_read.symm.trans hqs)
  obtain ⟨_, hrs', -, htargets⟩ := hpass.read_rules his
  obtain rfl := Except.ok.inj (hrs.symm.trans hrs')
  have hids : ∀ id ∈ rs.map Rule.id, fits id = true := by
    intro id hid
    obtain ⟨r, hr, rfl⟩ := List.mem_map.1 hid
    obtain ⟨row, -, hrow⟩ := exists_mem_of_mapM_ok hrules hr
    exact (ruleRow_ok hrow).fits.id
  -- Quotas find their users and rules their targets among what was put there just before.
  refine seeded_ok_iff.2 ⟨is, d.users, d.quotas, rs, his, hus, hqs, hrs, _, _, _, _,
    forM_putInstance_iff.2 ⟨d.instances, hinstances, rfl⟩,
    (forM_putUser_iff hnames).2 ⟨d.users_fit, rfl⟩,
    (forM_putQuota_iff fun q hq => (hchecked q hq).1).2 ⟨fun q hq => ?_, rfl⟩,
    forM_putRule_iff.2 ⟨fun r hr => ?_, d.rules, hrules, rfl⟩, keepRules_ok_iff.2 ⟨hids, ?_⟩⟩
  · obtain ⟨u, hu, hid⟩ := (hchecked q hq).2
    have hknown : u.id ∈ (upsertAll (fun u v => v.id = u.id) d.users s.users).map User.id :=
      (mem_keys_upsertAll fun a _ r => decide_eq_true_iff).2 (.inl (List.mem_map_of_mem hu))
    obtain ⟨known, hmem, hsame⟩ := List.mem_map.1 hknown
    rw [← hid]
    exact knows_iff.2 ⟨Column.checked_eq (d.users_fit u hu), known, hmem, hsame⟩
  · obtain ⟨hcomplete, i, hi, hkey⟩ := htargets r hr
    exact requireTarget_of_mem hcomplete hinstances rfl hi (complete_of_instances his i hi) hkey
  · unfold Described.putInto
    rw [ids_of_ruleRows hrules]

end Config

end Watchgate
