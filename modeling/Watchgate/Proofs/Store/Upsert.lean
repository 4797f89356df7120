import Watchgate.Store.Basic
import Watchgate.Proofs.Checks
import Mathlib.Data.List.Nodup

/-!
# Tables with keys

A row that is written replaces the one with its key, or it is added where there is none. So the keys of
a table stay distinct, and a table that started empty holds the last row written under each key.
-/

namespace Watchgate.Store

variable {α κ : Type} {key : α → κ} {isSame : α → Bool} {row : α} {rows : List α}

/-- A row is written in place, or at the end where its key is new. -/
theorem upsert_cases (hkey : ∀ r, isSame r = true ↔ key r = key row) (rows : List α) :
    key row ∈ rows.map key ∧ (upsert isSame row rows).map key = rows.map key ∨
      key row ∉ rows.map key ∧ upsert isSame row rows = rows ++ [row] := by
  have hany : rows.any isSame = true ↔ key row ∈ rows.map key := by
    simp only [List.any_eq_true, hkey, List.mem_map]
  unfold upsert
  by_cases h : key row ∈ rows.map key
  · rw [if_pos (hany.2 h), List.map_map]
    refine .inl ⟨h, List.map_congr_left fun r _ => ?_⟩
    cases hr : isSame r with
    | true => simp [hr, (hkey r).1 hr]
    | false => simp [hr]
  · rw [if_neg (mt hany.1 h)]
    exact .inr ⟨h, rfl⟩

theorem nodup_upsert (hkey : ∀ r, isSame r = true ↔ key r = key row) (h : (rows.map key).Nodup) :
    ((upsert isSame row rows).map key).Nodup := by
  rcases upsert_cases hkey rows with ⟨-, hsame⟩ | ⟨hnew, hadded⟩
  · rwa [hsame]
  · rw [hadded, List.map_append]
    exact h.append (List.nodup_singleton _) (by simpa using hnew)

/-- Afterwards the table holds the row, and what it held under other keys. -/
theorem mem_upsert_iff (hkey : ∀ r, isSame r = true ↔ key r = key row) {a : α} :
    a ∈ upsert isSame row rows ↔ a = row ∨ a ∈ rows ∧ key a ≠ key row := by
  constructor
  · intro ha
    unfold upsert at ha
    split at ha
    · obtain ⟨r, hr, rfl⟩ := List.mem_map.1 ha
      cases hs : isSame r with
      | true => exact .inl (by simp)
      | false => exact .inr ⟨by simpa using hr, by simp [← hkey, hs]⟩
    · rename_i hnone
      rcases List.mem_append.1 ha with ha | ha
      · exact .inr ⟨ha, fun hsame => hnone (List.any_eq_true.2 ⟨a, ha, (hkey a).2 hsame⟩)⟩
      · exact .inl (List.mem_singleton.1 ha)
  · rintro (rfl | ⟨ha, hother⟩)
    · exact mem_upsert_self isSame a rows
    · have hs : isSame a = false := by
        rw [← Bool.not_eq_true, hkey]
        exact hother
      unfold upsert
      split
      · exact List.mem_map.2 ⟨a, ha, by simp [hs]⟩
      · exact List.mem_append_left _ ha

/-- No key is lost, and the one of the row is there. -/
theorem mem_keys_upsert (hkey : ∀ r, isSame r = true ↔ key r = key row) {k : κ} :
    k ∈ (upsert isSame row rows).map key ↔ k = key row ∨ k ∈ rows.map key := by
  rcases upsert_cases hkey rows with ⟨hknown, hsame⟩ | ⟨-, hadded⟩
  · rw [hsame]
    exact ⟨.inr, fun h => h.elim (fun h => h ▸ hknown) id⟩
  · rw [hadded]
    simp [or_comm]

/-! ## One row after the other -/

/-- Some entry is of one kind, and none after it is of another. -/
def Latest (P Q : α → Prop) (entries : List α) : Prop :=
  ∃ front a back, entries = front ++ a :: back ∧ P a ∧ ∀ b ∈ back, ¬Q b

theorem not_latest_nil {P Q : α → Prop} : ¬Latest P Q [] := by
  rintro ⟨front, a, back, hsplit, -⟩
  simp at hsplit

theorem latest_append_singleton {P Q : α → Prop} {entries : List α} {b : α} :
    Latest P Q (entries ++ [b]) ↔ P b ∨ Latest P Q entries ∧ ¬Q b := by
  constructor
  · rintro ⟨front, a, back, hsplit, ha, hback⟩
    rcases List.eq_nil_or_concat back with rfl | ⟨init, last, rfl⟩
    · obtain ⟨-, hlast⟩ := List.append_inj' hsplit rfl
      exact .inl (List.singleton_inj.1 hlast ▸ ha)
    · have hsplit : entries ++ [b] = (front ++ a :: init) ++ [last] := by simpa using hsplit
      obtain ⟨rfl, hlast⟩ := List.append_inj' hsplit rfl
      obtain rfl := List.singleton_inj.1 hlast
      exact .inr ⟨⟨front, a, init, rfl, ha, fun c hc => hback c (by simp [hc])⟩, hback b (by simp)⟩
  · rintro (hb | ⟨⟨front, a, back, rfl, ha, hback⟩, hb⟩)
    · exact ⟨entries, b, [], rfl, hb, fun c hc => nomatch hc⟩
    · refine ⟨front, a, back ++ [b], by simp, ha, fun c hc => ?_⟩
      rcases List.mem_append.1 hc with hc | hc
      · exact hback c hc
      · rwa [List.mem_singleton.1 hc]

/-- Whether an entry is the last one with its key. -/
def IsLast (key : α → κ) (entries : List α) (a : α) : Prop :=
  Latest (· = a) (fun b => key b = key a) entries

/-- A table that holds the last of some entries under each key, and nothing else. -/
structure LastWins (key : α → κ) (entries rows : List α) : Prop where
  distinct : (rows.map key).Nodup
  mem_iff : ∀ a, a ∈ rows ↔ IsLast key entries a

theorem LastWins.nil : LastWins key [] [] where
  distinct := List.nodup_nil
  mem_iff _ := ⟨fun h => (nomatch h), fun h => absurd h not_latest_nil⟩

theorem LastWins.upsert {entries : List α} (h : LastWins key entries rows)
    (hkey : ∀ r, isSame r = true ↔ key r = key row) :
    LastWins key (entries ++ [row]) (upsert isSame row rows) where
  distinct := nodup_upsert hkey h.distinct
  mem_iff a := by
    unfold IsLast
    rw [mem_upsert_iff hkey, h.mem_iff, latest_append_singleton, eq_comm, ne_comm]
    rfl

variable {isSame : α → α → Bool}

/-- Writes rows one after the other. -/
def upsertAll (isSame : α → α → Bool) (new rows : List α) : List α :=
  new.foldl (fun rows row => upsert (isSame row) row rows) rows

theorem LastWins.upsertAll {entries new : List α} (h : LastWins key entries rows)
    (hkey : ∀ a ∈ new, ∀ r, isSame a r = true ↔ key r = key a) :
    LastWins key (entries ++ new) (upsertAll isSame new rows) := by
  induction new generalizing entries rows with
  | nil => rwa [List.append_nil]
  | cons a new ih =>
    have hfirst := h.upsert (hkey a List.mem_cons_self)
    have hrest := ih hfirst fun b hb => hkey b (List.mem_cons_of_mem _ hb)
    rwa [List.append_assoc] at hrest

/-- Rows with new and distinct keys are added as they come. -/
theorem upsertAll_of_nodup (key : α → κ) {new : List α} (hkey : ∀ a ∈ new, ∀ r, isSame a r = true ↔ key r = key a)
    (h : ((rows ++ new).map key).Nodup) : upsertAll isSame new rows = rows ++ new := by
  induction new generalizing rows with
  | nil => exact (List.append_nil rows).symm
  | cons a new ih =>
    have hadded : upsert (isSame a) a rows = rows ++ [a] := by
      rcases upsert_cases (hkey a List.mem_cons_self) rows with ⟨hknown, -⟩ | ⟨-, hadded⟩
      · rw [List.map_append, List.map_cons] at h
        exact absurd rfl (List.nodup_append.1 h |>.2.2 _ hknown _ List.mem_cons_self)
      · exact hadded
    rw [List.append_cons] at h ⊢
    rw [← ih (fun b hb => hkey b (List.mem_cons_of_mem _ hb)) h, ← hadded]
    rfl

/-- Rows with distinct keys are all there afterwards, and the old rows that have other keys. -/
theorem mem_upsertAll_iff {new : List α} (hkey : ∀ a ∈ new, ∀ r, isSame a r = true ↔ key r = key a)
    (hnew : (new.map key).Nodup) {a : α} :
    a ∈ upsertAll isSame new rows ↔ a ∈ new ∨ a ∈ rows ∧ key a ∉ new.map key := by
  induction new generalizing rows with
  | nil => simp [upsertAll]
  | cons b new ih =>
    obtain ⟨hb, hnew⟩ := List.nodup_cons.1 hnew
    change a ∈ upsertAll isSame new (upsert (isSame b) b rows) ↔ _
    rw [ih (fun c hc => hkey c (List.mem_cons_of_mem _ hc)) hnew,
      mem_upsert_iff (hkey b List.mem_cons_self), List.map_cons, List.mem_cons, List.mem_cons]
    constructor
    · rintro (ha | ⟨rfl | ⟨ha, hother⟩, hold⟩)
      · exact .inl (.inr ha)
      · exact .inl (.inl rfl)
      · exact .inr ⟨ha, not_or.2 ⟨hother, hold⟩⟩
    · rintro ((rfl | ha) | ⟨ha, hold⟩)
      · exact .inr ⟨.inl rfl, hb⟩
      · exact .inl ha
      · exact .inr ⟨.inr ⟨ha, fun h => hold (.inl h)⟩, fun h => hold (.inr h)⟩

theorem nodup_upsertAll {new : List α} (hkey : ∀ a ∈ new, ∀ r, isSame a r = true ↔ key r = key a)
    (h : (rows.map key).Nodup) : ((upsertAll isSame new rows).map key).Nodup := by
  induction new generalizing rows with
  | nil => exact h
  | cons a new ih =>
    exact ih (fun b hb => hkey b (List.mem_cons_of_mem _ hb)) (nodup_upsert (hkey a List.mem_cons_self) h)

theorem mem_keys_upsertAll {new : List α} (hkey : ∀ a ∈ new, ∀ r, isSame a r = true ↔ key r = key a)
    {k : κ} : k ∈ (upsertAll isSame new rows).map key ↔ k ∈ new.map key ∨ k ∈ rows.map key := by
  induction new generalizing rows with
  | nil => simp [upsertAll]
  | cons a new ih =>
    change k ∈ (upsertAll isSame new (upsert (isSame a) a rows)).map key ↔ _
    rw [ih fun b hb => hkey b (List.mem_cons_of_mem _ hb), mem_keys_upsert (hkey a List.mem_cons_self),
      List.map_cons, List.mem_cons, or_assoc, or_left_comm]

/-! ## Tables of the store -/

/-- A table of the store, which is read and replaced apart from all others. -/
structure Table (ρ : Type) where
  rows : Store → List ρ
  replace : List ρ → Store → Store
  rows_replace : ∀ new s, rows (replace new s) = new
  replace_rows : ∀ s, replace (rows s) s = s
  replace_replace : ∀ new old s, replace new (replace old s) = replace new s

namespace Table

def instances : Table Instance where
  rows := Store.instances
  replace rows s := { s with instances := rows }
  rows_replace _ _ := rfl
  replace_rows _ := rfl
  replace_replace _ _ _ := rfl

def users : Table User where
  rows := Store.users
  replace rows s := { s with users := rows }
  rows_replace _ _ := rfl
  replace_rows _ := rfl
  replace_replace _ _ _ := rfl

def quotas : Table Quota where
  rows := Store.quotas
  replace rows s := { s with quotas := rows }
  rows_replace _ _ := rfl
  replace_rows _ := rfl
  replace_replace _ _ _ := rfl

def rules : Table Rule where
  rows := Store.rules
  replace rows s := { s with rules := rows }
  rows_replace _ _ := rfl
  replace_rows _ := rfl
  replace_replace _ _ _ := rfl

variable {β ρ : Type} {isSame : ρ → ρ → Bool} {put : β → StateT Store (Except Failure) Unit}
  {row : β → Except Failure ρ} {P : β → Store → Prop}

/-- Entries are written one after the other if each of them has a row and may be written. -/
theorem forM_ok_iff (t : Table ρ) {l : List β}
    (hput : ∀ b ∈ l, ∀ s s', put b s = .ok ((), s') ↔
      P b s ∧ ∃ r, row b = .ok r ∧ s' = t.replace (upsert (isSame r) r (t.rows s)) s)
    (hframe : ∀ b new s, P b (t.replace new s) ↔ P b s) {s s' : Store} :
    l.forM put s = .ok ((), s') ↔ (∀ b ∈ l, P b s) ∧
      ∃ new, l.mapM row = .ok new ∧ s' = t.replace (upsertAll isSame new (t.rows s)) s := by
  induction l generalizing s with
  | nil =>
    constructor
    · intro h
      obtain ⟨-, rfl⟩ := Prod.mk.inj (Except.ok.inj h)
      exact ⟨fun b hb => (nomatch hb), [], rfl, (t.replace_rows s).symm⟩
    · rintro ⟨-, new, hnew, rfl⟩
      obtain rfl : [] = new := pure_ok hnew
      exact congrArg (fun s => Except.ok ((), s)) (t.replace_rows s).symm
  | cons b l ih =>
    have ih := fun s => ih (s := s) fun c hc => hput c (List.mem_cons_of_mem _ hc)
    have hfirst := hput b List.mem_cons_self s
    constructor
    · intro h
      obtain ⟨⟨⟨⟩, s₁⟩, hb, hl⟩ := ok_of_bind h
      obtain ⟨hP, r, hr, rfl⟩ := (hfirst s₁).1 hb
      obtain ⟨hall, new, hnew, rfl⟩ := (ih _).1 hl
      -- What the later entries ask of the store they ask of the one before the first.
      refine ⟨fun c hc => ?_, r :: new, mapM_ok_of_cons hr hnew, ?_⟩
      · rcases List.mem_cons.1 hc with rfl | hc
        · exact hP
        · exact (hframe c _ s).1 (hall c hc)
      · rw [t.replace_replace, t.rows_replace]
        rfl
    · rintro ⟨hall, rows, hrows, rfl⟩
      obtain ⟨r, new, hr, hnew, rfl⟩ := mapM_ok_cons hrows
      have hwritten := (hfirst _).2 ⟨hall b List.mem_cons_self, r, hr, rfl⟩
      have hrest := (ih (t.replace (upsert (isSame r) r (t.rows s)) s)).2
        ⟨fun c hc => (hframe c _ s).2 (hall c (List.mem_cons_of_mem _ hc)), new, hnew,
          by rw [t.replace_replace, t.rows_replace]; rfl⟩
      change (put b s >>= fun p => l.forM put p.2) = _
      rw [hwritten, ok_bind]
      exact hrest

/-- So it is where the entries are the rows. -/
theorem forM_rows_ok_iff (t : Table ρ) {put : ρ → StateT Store (Except Failure) Unit}
    {P : ρ → Store → Prop} {l : List ρ}
    (hput : ∀ r ∈ l, ∀ s s', put r s = .ok ((), s') ↔
      P r s ∧ s' = t.replace (upsert (isSame r) r (t.rows s)) s)
    (hframe : ∀ r new s, P r (t.replace new s) ↔ P r s) {s s' : Store} :
    l.forM put s = .ok ((), s') ↔
      (∀ r ∈ l, P r s) ∧ s' = t.replace (upsertAll isSame l (t.rows s)) s := by
  have hself : ∀ new, l.mapM (pure : ρ → Except Failure ρ) = .ok new ↔ new = l := by
    intro new
    rw [List.mapM_pure, List.map_id']
    exact ⟨fun h => (pure_ok h).symm, fun h => congrArg Except.ok h.symm⟩
  have hrow : ∀ r ∈ l, ∀ s s', put r s = .ok ((), s') ↔ P r s ∧ ∃ row,
      (pure r : Except Failure ρ) = .ok row ∧ s' = t.replace (upsert (isSame row) row (t.rows s)) s := by
    intro r hr s s'
    rw [hput r hr s s']
    refine and_congr_right fun _ => ⟨fun h => ⟨r, rfl, h⟩, ?_⟩
    rintro ⟨_, hsame, h⟩
    obtain rfl := pure_ok hsame
    exact h
  rw [t.forM_ok_iff hrow hframe]
  simp only [hself, exists_eq_left]

end Table

theorem perm_sortedBy (key : α → Int) (rows : List α) : (sortedBy key rows).Perm rows :=
  List.mergeSort_perm rows _

/-- Rows with distinct keys are sorted strictly. -/
theorem sortedBy_strict {key : α → Int} (h : (rows.map key).Nodup) :
    (sortedBy key rows).Pairwise fun a b => key a < key b := by
  have hsorted : (sortedBy key rows).Pairwise fun a b => key a ≤ key b := by
    refine (List.pairwise_mergeSort ?_ ?_ rows).imp of_decide_eq_true
    · intro a b c hab hbc
      simp only [decide_eq_true_eq] at hab hbc ⊢
      omega
    · intro a b
      simp only [Bool.or_eq_true, decide_eq_true_eq]
      omega
  have hdistinct : (sortedBy key rows).Pairwise fun a b => key a ≠ key b :=
    List.pairwise_map.1 (((perm_sortedBy key rows).map key).nodup_iff.2 h)
  refine (hsorted.and hdistinct).imp fun hboth => ?_
  have := hboth.1
  have := hboth.2
  omega

end Watchgate.Store
