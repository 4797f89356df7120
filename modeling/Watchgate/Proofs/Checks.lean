/-!
# Checks one after the other

A sequence of checks that succeeds is taken apart into the checks, each of which succeeded.
-/

namespace Watchgate

variable {ε α β : Type}

/-- A sequence of checks succeeds only if each of them does. -/
theorem ok_of_bind {x : Except ε α} {f : α → Except ε β} {b : β}
    (h : (x >>= f) = .ok b) : ∃ a, x = .ok a ∧ f a = .ok b := by
  cases x with
  | error e => cases h
  | ok a => exact ⟨a, rfl, h⟩

theorem ok_bind (a : α) (f : α → Except ε β) : (Except.ok a >>= f) = f a := rfl

theorem ok_of_map {x : Except ε α} {f : α → β} {b : β} (h : x.map f = .ok b) :
    ∃ a, x = .ok a ∧ f a = b := by
  cases x with
  | error e => cases h
  | ok a => exact ⟨a, rfl, Except.ok.inj h⟩

/-- A sequence of checks fails only if one of them does. -/
theorem error_of_bind {x : Except ε α} {f : α → Except ε β} {e : ε} (h : (x >>= f) = .error e) :
    x = .error e ∨ ∃ a, x = .ok a ∧ f a = .error e := by
  cases x with
  | error e' => exact .inl (congrArg Except.error (Except.error.inj h))
  | ok a => exact .inr ⟨a, rfl, h⟩

theorem error_of_map {x : Except ε α} {f : α → β} {e : ε} (h : x.map f = .error e) :
    x = .error e := by
  cases x with
  | error e' => exact congrArg Except.error (Except.error.inj h)
  | ok a => cases h

theorem pure_ok {a b : α} (h : (pure a : Except ε α) = .ok b) : a = b := Except.ok.inj h

/-- Where a check can only refuse, what comes after it succeeded. -/
theorem ok_of_unless {c : Prop} [Decidable c] {x : Except ε α} {e : ε} {a : α}
    (h : (if c then .error e else x) = .ok a) : x = .ok a := by
  split at h
  · cases h
  · exact h

theorem ok_of_toOption {x : Except ε α} {a : α} (h : x.toOption = some a) : x = .ok a := by
  cases x with
  | error e => cases h
  | ok b => exact congrArg Except.ok (Option.some.inj h)

theorem exists_ok_iff {x : Except ε α} : (∃ a, x = .ok a) ↔ x.toOption.isSome = true := by
  cases x <;> simp [Except.toOption]

variable {f : α → Except ε β}

theorem mapM_ok_cons {a : α} {l : List α} {bs : List β} (h : (a :: l).mapM f = .ok bs) :
    ∃ b bs', f a = .ok b ∧ l.mapM f = .ok bs' ∧ bs = b :: bs' := by
  rw [List.mapM_cons] at h
  obtain ⟨b, hb, h⟩ := ok_of_bind h
  obtain ⟨bs', hbs, h⟩ := ok_of_bind h
  exact ⟨b, bs', hb, hbs, (pure_ok h).symm⟩

theorem mapM_ok_of_cons {a : α} {l : List α} {b : β} {bs : List β} (hb : f a = .ok b)
    (hbs : l.mapM f = .ok bs) : (a :: l).mapM f = .ok (b :: bs) := by
  rw [List.mapM_cons, hb, hbs]
  rfl

/-- A sequence fails only with the failure of one of the checks. -/
theorem error_of_mapM {l : List α} {e : ε} (h : l.mapM f = .error e) : ∃ a ∈ l, f a = .error e := by
  induction l with
  | nil => cases h
  | cons a l ih =>
    rw [List.mapM_cons] at h
    rcases error_of_bind h with ha | ⟨b, -, h⟩
    · exact ⟨a, List.mem_cons_self, ha⟩
    · rcases error_of_bind h with h | ⟨bs, -, h⟩
      · obtain ⟨c, hc, hfc⟩ := ih h
        exact ⟨c, .tail _ hc, hfc⟩
      · cases h

/-- The first check that fails decides with what the sequence does. -/
theorem mapM_error_of_first {left right : List α} {a : α} {e : ε}
    (hleft : ∀ b ∈ left, ∃ c, f b = .ok c) (ha : f a = .error e) :
    (left ++ a :: right).mapM f = .error e := by
  induction left with
  | nil =>
    rw [List.nil_append, List.mapM_cons, ha]
    rfl
  | cons b left ih =>
    obtain ⟨c, hc⟩ := hleft b List.mem_cons_self
    rw [List.cons_append, List.mapM_cons, hc, ok_bind, ih fun d hd => hleft d (.tail _ hd)]
    rfl

theorem mem_of_mapM_ok {l : List α} {bs : List β} (h : l.mapM f = .ok bs) {b : β} (hb : b ∈ bs) :
    ∃ a ∈ l, f a = .ok b := by
  induction l generalizing bs with
  | nil =>
    obtain rfl : [] = bs := pure_ok h
    cases hb
  | cons a l ih =>
    obtain ⟨b', bs', hb', hbs', rfl⟩ := mapM_ok_cons h
    rcases List.mem_cons.1 hb with rfl | hb
    · exact ⟨a, List.mem_cons_self, hb'⟩
    · obtain ⟨a', ha', hfa⟩ := ih hbs' hb
      exact ⟨a', .tail _ ha', hfa⟩

theorem exists_mem_of_mapM_ok {l : List α} {bs : List β} (h : l.mapM f = .ok bs) {a : α}
    (ha : a ∈ l) : ∃ b ∈ bs, f a = .ok b := by
  induction l generalizing bs with
  | nil => cases ha
  | cons c l ih =>
    obtain ⟨b, bs', hb, hbs, rfl⟩ := mapM_ok_cons h
    rcases List.mem_cons.1 ha with rfl | ha
    · exact ⟨b, List.mem_cons_self, hb⟩
    · obtain ⟨b', hb', hfa⟩ := ih hbs ha
      exact ⟨b', .tail _ hb', hfa⟩

/-- Where each check succeeds, all of them do. -/
theorem exists_mapM_ok {l : List α} (h : ∀ a ∈ l, ∃ b, f a = .ok b) : ∃ bs, l.mapM f = .ok bs := by
  induction l with
  | nil => exact ⟨[], rfl⟩
  | cons a l ih =>
    obtain ⟨b, hb⟩ := h a List.mem_cons_self
    obtain ⟨bs, hbs⟩ := ih fun c hc => h c (List.mem_cons_of_mem _ hc)
    exact ⟨b :: bs, mapM_ok_of_cons hb hbs⟩

theorem exists_mapM_iff {l : List α} :
    (∃ bs, l.mapM f = .ok bs) ↔ ∀ a ∈ l, ∃ b, f a = .ok b := by
  refine ⟨fun ⟨bs, hbs⟩ a ha => ?_, exists_mapM_ok⟩
  obtain ⟨b, -, hb⟩ := exists_mem_of_mapM_ok hbs ha
  exact ⟨b, hb⟩

/-- What can be told of each result can be told of the thing it came from. -/
theorem map_of_mapM_ok {γ : Type} {g : α → γ} {g' : β → γ} {l : List α} {bs : List β}
    (hg : ∀ a ∈ l, ∀ b, f a = .ok b → g' b = g a) (h : l.mapM f = .ok bs) : bs.map g' = l.map g := by
  induction l generalizing bs with
  | nil =>
    obtain rfl : [] = bs := pure_ok h
    rfl
  | cons a l ih =>
    obtain ⟨b, bs', hb, hbs, rfl⟩ := mapM_ok_cons h
    rw [List.map_cons, List.map_cons, hg a List.mem_cons_self b hb,
      ih (fun c hc => hg c (List.mem_cons_of_mem _ hc)) hbs]

/-- Reading and then selecting is selecting and then reading, where reading keeps what is selected by. -/
theorem mapM_filter {p : α → Bool} {q : β → Bool} (hpq : ∀ a b, f a = .ok b → q b = p a)
    {l : List α} {bs : List β} (h : l.mapM f = .ok bs) : (l.filter p).mapM f = .ok (bs.filter q) := by
  induction l generalizing bs with
  | nil =>
    obtain rfl : [] = bs := pure_ok h
    rfl
  | cons a l ih =>
    obtain ⟨b, bs', hb, hbs, rfl⟩ := mapM_ok_cons h
    cases hp : p a with
    | true =>
      rw [List.filter_cons_of_pos hp, List.filter_cons_of_pos (by rw [hpq a b hb, hp])]
      exact mapM_ok_of_cons hb (ih hbs)
    | false =>
      rw [List.filter_cons_of_neg (by simp [hp]), List.filter_cons_of_neg (by simp [hpq a b hb, hp])]
      exact ih hbs

/-- Reading commutes with a change of rows that it does not look at. -/
theorem mapM_map {g : α → α} {g' : β → β} (hg : ∀ a b, f a = .ok b → f (g a) = .ok (g' b))
    {l : List α} {bs : List β} (h : l.mapM f = .ok bs) : (l.map g).mapM f = .ok (bs.map g') := by
  induction l generalizing bs with
  | nil =>
    obtain rfl : [] = bs := pure_ok h
    rfl
  | cons a l ih =>
    obtain ⟨b, bs', hb, hbs, rfl⟩ := mapM_ok_cons h
    exact mapM_ok_of_cons (hg a b hb) (ih hbs)

end Watchgate
