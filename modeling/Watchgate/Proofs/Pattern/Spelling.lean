import Watchgate.Pattern.Reader
import Watchgate.Proofs.Checks
import Watchgate.Proofs.Pattern.Screening
import Watchgate.Proofs.Pattern.Tree

/-!
# Tokens and the characters they were cut from

The screen goes through characters, reading goes through tokens. Here both are brought to the same
place: what a step of reading takes from the tokens is, in characters, what the screen passes over.
-/

namespace Watchgate.Pattern

open Text Screen

/-- The characters of a token. -/
def Token.spelled : Token → List Char
  | .plain c => [c]
  | .escaped c => ['\\', c]

/-- The characters of tokens. -/
def spelled (ts : List Token) : List Char :=
  ts.flatMap Token.spelled

@[simp] theorem spelled_nil : spelled [] = [] := rfl

@[simp] theorem spelled_plain (c : Char) (ts : List Token) :
    spelled (.plain c :: ts) = c :: spelled ts := rfl

@[simp] theorem spelled_escaped (c : Char) (ts : List Token) :
    spelled (.escaped c :: ts) = '\\' :: c :: spelled ts := rfl

theorem spelled_plains (cs : List Char) (ts : List Token) :
    spelled (cs.map .plain ++ ts) = cs ++ spelled ts := by
  induction cs with
  | nil => rfl
  | cons c cs ih => simp [ih]

/-- A character that is no backslash was cut as a token of its own. -/
theorem plain_of_spelled {c : Char} {cs : List Char} {ts : List Token} (hc : c ≠ '\\')
    (h : spelled ts = c :: cs) : ∃ us, ts = .plain c :: us ∧ spelled us = cs := by
  cases ts with
  | nil => cases h
  | cons t us =>
    cases t with
    | plain d =>
      cases h
      exact ⟨us, rfl, rfl⟩
    | escaped d =>
      cases h
      exact absurd rfl hc

/-- Tokens spell the text that they were cut from, and no backslash stands alone. -/
theorem spelled_of_tokens? {cs : List Char} {ts : List Token} (h : tokens? cs = some ts) :
    spelled ts = cs ∧ .plain '\\' ∉ ts := by
  fun_induction tokens? cs generalizing ts with
  | case1 =>
    cases h
    exact ⟨rfl, by simp⟩
  | case2 => cases h
  | case3 c cs ih =>
    obtain ⟨us, hus, rfl⟩ := Option.map_eq_some_iff.mp h
    obtain ⟨hspelled, hbackslash⟩ := ih hus
    exact ⟨by simp [hspelled], by simpa using hbackslash⟩
  | case4 c cs halone hpair ih =>
    obtain ⟨us, hus, rfl⟩ := Option.map_eq_some_iff.mp h
    obtain ⟨hspelled, hbackslash⟩ := ih hus
    have hc : c ≠ '\\' := by
      rintro rfl
      cases cs with
      | nil => exact halone rfl rfl
      | cons d ds => exact hpair d ds rfl rfl
    refine ⟨by simp [hspelled], ?_⟩
    simp [hbackslash, hc.symm]

/-- Reading goes from `ts` to `rest` over plain characters that the screen does not look at. -/
def Skips (ts rest : List Token) : Prop :=
  ∃ cs : List Char, (∀ c ∈ cs, isSignal c = false) ∧ ts = cs.map .plain ++ rest

namespace Skips

variable {ts rest more : List Token} {inner b : Bool} {bs : List Bool}

theorem refl (ts : List Token) : Skips ts ts :=
  ⟨[], by simp, rfl⟩

theorem cons {c : Char} (hc : isSignal c = false) (h : Skips ts rest) :
    Skips (.plain c :: ts) rest := by
  obtain ⟨cs, hcs, rfl⟩ := h
  exact ⟨c :: cs, by simpa [hc] using hcs, rfl⟩

theorem trans (h : Skips ts more) (hmore : Skips more rest) : Skips ts rest := by
  obtain ⟨cs, hcs, rfl⟩ := h
  obtain ⟨ds, hds, rfl⟩ := hmore
  refine ⟨cs ++ ds, ?_, by simp⟩
  intro c hc
  rcases List.mem_append.mp hc with hc | hc
  · exact hcs c hc
  · exact hds c hc

theorem suffix (h : Skips ts rest) : rest <:+ ts := by
  obtain ⟨cs, -, rfl⟩ := h
  exact List.suffix_append _ _

theorem awaits (h : Skips ts rest) (ha : Awaits false b bs (spelled ts)) :
    Awaits false b bs (spelled rest) := by
  obtain ⟨cs, hcs, rfl⟩ := h
  rw [spelled_plains] at ha
  exact ha.skips hcs

theorem resumes (h : Skips ts rest) (hr : Resumes (b :: bs) (spelled ts)) :
    Resumes (b :: bs) (spelled rest) := by
  obtain ⟨cs, hcs, rfl⟩ := h
  rw [spelled_plains] at hr
  exact hr.skips hcs

theorem dropSetItems (h : Skips ts rest) :
    dropSetItems (spelled ts) = dropSetItems (spelled rest) := by
  obtain ⟨cs, hcs, rfl⟩ := h
  rw [spelled_plains]
  induction cs with
  | nil => rfl
  | cons c cs ih =>
    have hc := hcs c (by simp)
    rw [List.cons_append, Screen.dropSetItems]
    · exact ih fun d hd => hcs d (by simp [hd])
    · exact ne_of_not_isSignal hc rfl
    · intro _ _ hescape
      exact absurd hescape (ne_of_not_isSignal hc rfl)

end Skips

/-! ### Digits and escapes -/

theorem isSignal_of_digitIn? {base d : Nat} {c : Char} (h : digitIn? base c = some d) :
    isSignal c = false := by
  have hnone : signals.all (fun c => !(digitIn? base c).isSome) = true := rfl
  exact isSignal_eq_false_of hnone (by rw [h]; rfl)

theorem takeDigits_skips (base n : Nat) (ts : List Token) :
    Skips ts (takeDigits base n ts).2 := by
  fun_induction takeDigits base n ts with
  | case1 ts => exact Skips.refl ts
  | case2 n c ts d hd ds rest hrest ih =>
    rw [hrest] at ih
    exact ih.cons (isSignal_of_digitIn? hd)
  | case3 n c ts => exact Skips.refl _
  | case4 n ts => exact Skips.refl ts

theorem hexEscape_skips {n code : Nat} {ts rest : List Token}
    (h : hexEscape n ts = .ok (code, rest)) : Skips ts rest := by
  have hskips := takeDigits_skips 16 n ts
  simp only [hexEscape] at h
  split at h <;> cases h
  exact hskips

theorem readSetEscape_skips {flags : Flags} {c : Char} {ts rest : List Token} {a : SetItem}
    (h : readSetEscape flags c ts = .ok (a, rest)) : Skips ts rest := by
  have hhex : ∀ n, ((hexEscape n ts).map fun x => (SetItem.one x.1, x.2)) = .ok (a, rest) →
      Skips ts rest := by
    intro n hmap
    obtain ⟨⟨code, r⟩, hread, hr⟩ := ok_of_map hmap
    cases hr
    exact hexEscape_skips hread
  unfold readSetEscape at h
  split at h
  · cases h
    exact Skips.refl _
  · cases h
    exact Skips.refl _
  · split at h
    · exact hhex 2 h
    split at h
    · exact hhex 4 h
    split at h
    · exact hhex 8 h
    split at h
    · have hskips := takeDigits_skips 8 2 ts
      simp only at h
      split at h <;> cases h
      exact hskips
    · split at h <;> cases h
      exact Skips.refl _

theorem readBackref_ok {flags : Flags} {g g' : Groups} {i : Nat} {ts rest : List Token} {n : Node}
    (h : readBackref flags g i ts = .ok (n, g', rest)) :
    n.holdsMany = false ∧ g' = g ∧ rest = ts := by
  unfold readBackref at h
  split at h <;> cases h
  exact ⟨rfl, rfl, rfl⟩

theorem readEscape_skips {flags : Flags} {g g' : Groups} {c : Char} {ts rest : List Token}
    {n : Node} (h : readEscape flags g c ts = .ok (n, g', rest)) :
    n.holdsMany = false ∧ g' = g ∧ Skips ts rest := by
  have hhex : ∀ k, ((hexEscape k ts).map fun r => (Node.literal r.1 flags.caseRule, g, r.2)) =
      .ok (n, g', rest) → n.holdsMany = false ∧ g' = g ∧ Skips ts rest := by
    intro k hmap
    obtain ⟨⟨code, r⟩, hread, hr⟩ := ok_of_map hmap
    cases hr
    exact ⟨rfl, rfl, hexEscape_skips hread⟩
  have hbackref : ∀ i more, Skips ts more → readBackref flags g i more = .ok (n, g', rest) →
      n.holdsMany = false ∧ g' = g ∧ Skips ts rest := by
    intro i more hskips hread
    obtain ⟨hn, hg, rfl⟩ := readBackref_ok hread
    exact ⟨hn, hg, hskips⟩
  simp only [readEscape] at h
  split at h
  · cases h
    exact ⟨rfl, rfl, Skips.refl _⟩
  · cases h
    exact ⟨rfl, rfl, Skips.refl _⟩
  · cases h
    exact ⟨rfl, rfl, Skips.refl _⟩
  · cases h
    exact ⟨rfl, rfl, Skips.refl _⟩
  · exact hhex 2 h
  · exact hhex 4 h
  · exact hhex 8 h
  · cases h
    exact ⟨rfl, rfl, takeDigits_skips 8 2 ts⟩
  · split at h
    · cases h
      exact ⟨rfl, rfl, Skips.refl _⟩
    · cases h
      exact ⟨rfl, rfl, Skips.refl _⟩
    next d _ _ _ =>
      have hfirst := takeDigits_skips 10 1 ts
      split at h
      next e _ more hmore =>
        rw [hmore] at hfirst
        have hsecond := takeDigits_skips 8 1 more
        split at h
        next last hlast =>
          rw [hlast] at hsecond
          split at h
          · split at h <;> cases h
            exact ⟨rfl, rfl, hfirst.trans hsecond⟩
          · exact hbackref _ _ hfirst h
        next => exact hbackref _ _ hfirst h
      next => exact hbackref _ _ (Skips.refl _) h
    next =>
      split at h <;> cases h
      exact ⟨rfl, rfl, Skips.refl _⟩

/-! ### Sets -/

theorem readSetItem_skips {flags : Flags} {t : Token} {ts rest : List Token} {a : SetItem}
    (h : readSetItem flags t ts = .ok (a, rest)) : Skips ts rest := by
  cases t with
  | plain c =>
    cases h
    exact Skips.refl _
  | escaped c => exact readSetEscape_skips h

/-- A token inside a set is passed whole. -/
theorem dropSetItems_spelled_cons {t : Token} (ts : List Token) (hclose : t ≠ .plain ']')
    (hescape : t ≠ .plain '\\') : dropSetItems (spelled (t :: ts)) = dropSetItems (spelled ts) := by
  cases t with
  | plain c =>
    rw [spelled_plain, dropSetItems]
    · rintro rfl
      exact hclose rfl
    · rintro d ds rfl
      exact absurd rfl hescape
  | escaped c => rw [spelled_escaped, dropSetItems]

/-- One element of a set is passed whole, and then the set ends or goes on. -/
theorem readSetItems_step {flags : Flags} {fuel : Nat} {seen items : List SetItem}
    {t : Token} {ts rest : List Token} (hescape : .plain '\\' ∉ ts)
    (hfirst : t ≠ .plain ']' ∨ seen = [])
    (h : readSetItems flags (fuel + 1) seen (t :: ts) = .ok (items, rest)) :
    ∃ more, more <:+ ts ∧ dropSetItems (spelled ts) = dropSetItems (spelled more) ∧
      (more = .plain ']' :: rest ∨
        ∃ x xs, readSetItems flags fuel (x :: xs) more = .ok (items, rest)) := by
  have hitem : ¬(t = .plain ']' && !seen.isEmpty) = true := by
    rcases hfirst with ht | rfl <;> simp_all
  rw [readSetItems, if_neg hitem] at h
  obtain ⟨⟨a, us⟩, hread, h⟩ := ok_of_bind h
  have hskips := readSetItem_skips hread
  have hus : ∀ u ∈ us, u ≠ .plain '\\' := by
    rintro u hu rfl
    exact hescape (hskips.suffix.subset hu)
  simp only at h
  split at h
  · cases h
  next after =>
    cases h
    refine ⟨.plain ']' :: rest, ?_, ?_, .inl rfl⟩
    · exact (List.suffix_cons _ _).trans hskips.suffix
    · rw [hskips.dropSetItems]
      exact dropSetItems_spelled_cons _ (by decide) (by decide)
  next u after hnotclose =>
    obtain ⟨⟨b, more⟩, hhigh, h⟩ := ok_of_bind h
    have hmore := readSetItem_skips hhigh
    have hdrop : dropSetItems (spelled ts) = dropSetItems (spelled more) := by
      rw [hskips.dropSetItems, dropSetItems_spelled_cons _ (by decide) (by decide),
        dropSetItems_spelled_cons _ hnotclose (hus u (by simp)),
        hmore.dropSetItems]
    have hsuffix : more <:+ ts :=
      hmore.suffix.trans (((List.suffix_cons _ _).trans (List.suffix_cons _ _)).trans hskips.suffix)
    simp only at h
    split at h
    next low high =>
      split at h
      · cases h
      · exact ⟨more, hsuffix, hdrop, .inr ⟨_, _, h⟩⟩
    next => cases h
  next => exact ⟨us, hskips.suffix, hskips.dropSetItems, .inr ⟨_, _, h⟩⟩

/-- Inside a set both sides end it at the same bracket. -/
theorem readSetItems_dropSetItems {flags : Flags} {fuel : Nat} {x : SetItem}
    {seen items : List SetItem} {ts rest : List Token} (hescape : .plain '\\' ∉ ts)
    (h : readSetItems flags fuel (x :: seen) ts = .ok (items, rest)) :
    dropSetItems (spelled ts) = spelled rest ∧ rest <:+ ts := by
  induction fuel generalizing x seen ts with
  | zero => cases h
  | succ fuel ih =>
    cases ts with
    | nil => cases h
    | cons t ts =>
      by_cases ht : t = .plain ']'
      · subst ht
        cases h
        exact ⟨rfl, List.suffix_cons _ _⟩
      · have hus : .plain '\\' ∉ ts := fun hu => hescape (.tail _ hu)
        have hne : t ≠ .plain '\\' := by
          rintro rfl
          exact hescape List.mem_cons_self
        obtain ⟨more, hmore, hdrop, hend⟩ := readSetItems_step hus (.inl ht) h
        rw [dropSetItems_spelled_cons ts ht hne, hdrop]
        rcases hend with rfl | ⟨y, ys, hgo⟩
        · exact ⟨rfl, (List.suffix_cons _ _).trans (hmore.trans (List.suffix_cons _ _))⟩
        · obtain ⟨hrest, hsuffix⟩ := ih (fun hu => hus (hmore.subset hu)) hgo
          exact ⟨hrest, hsuffix.trans (hmore.trans (List.suffix_cons _ _))⟩

/-- At the start of a set a closing bracket belongs to it. -/
theorem readSetItems_first {flags : Flags} {fuel : Nat} {items : List SetItem}
    {ts rest : List Token} (hescape : .plain '\\' ∉ ts)
    (h : readSetItems flags (fuel + 1) [] ts = .ok (items, rest)) :
    (match spelled ts with
      | ']' :: cs => dropSetItems cs
      | _ => dropSetItems (spelled ts)) = spelled rest ∧ rest <:+ ts := by
  cases ts with
  | nil => cases h
  | cons t ts =>
    have hus : .plain '\\' ∉ ts := fun hu => hescape (.tail _ hu)
    obtain ⟨more, hmore, hdrop, hend⟩ := readSetItems_step hus (.inr rfl) h
    have htail : dropSetItems (spelled ts) = spelled rest ∧ rest <:+ ts := by
      rw [hdrop]
      rcases hend with rfl | ⟨y, ys, hgo⟩
      · exact ⟨rfl, (List.suffix_cons _ _).trans hmore⟩
      · obtain ⟨hrest, hsuffix⟩ := readSetItems_dropSetItems (fun hu => hus (hmore.subset hu)) hgo
        exact ⟨hrest, hsuffix.trans hmore⟩
    refine ⟨?_, htail.2.trans (List.suffix_cons _ _)⟩
    by_cases ht : t = .plain ']'
    · rw [ht]
      exact htail.1
    · have hne : t ≠ .plain '\\' := by
        rintro rfl
        exact hescape List.mem_cons_self
      rw [← htail.1, ← dropSetItems_spelled_cons ts ht hne]
      split
      next cs hcs =>
        obtain ⟨us, hcons, -⟩ := plain_of_spelled (by decide) hcs
        exact absurd (List.cons.inj hcons).1 ht
      next => rfl

/-- A set is passed whole. -/
theorem readSet_dropSet {flags : Flags} {ts rest : List Token} {n : Node}
    (hescape : .plain '\\' ∉ ts) (h : readSet flags ts = .ok (n, rest)) :
    n.holdsMany = false ∧ dropSet (spelled ts) = spelled rest ∧ rest <:+ ts := by
  unfold readSet at h
  simp only at h
  split at h
  next us =>
    obtain ⟨⟨items, after⟩, hread, hn⟩ := ok_of_bind h
    have hus : .plain '\\' ∉ us := fun hu => hescape (.tail _ hu)
    obtain ⟨hdrop, hsuffix⟩ := readSetItems_first hus hread
    cases hn
    exact ⟨rfl, hdrop, hsuffix.trans (List.suffix_cons _ _)⟩
  next hcaret =>
    obtain ⟨⟨items, after⟩, hread, hn⟩ := ok_of_bind h
    obtain ⟨hdrop, hsuffix⟩ := readSetItems_first hescape hread
    have hset : dropSet (spelled ts) = spelled after := by
      unfold dropSet
      split
      next cs hcs =>
        obtain ⟨us, hus, -⟩ := plain_of_spelled (by decide) hcs
        exact absurd hus (hcaret us)
      next => exact hdrop
    simp only at hn
    split at hn <;> cases hn
    · exact ⟨rfl, hset, hsuffix⟩
    · exact ⟨rfl, hset, hsuffix⟩

/-! ### Names and flags -/

theorem isSignal_of_isWordChar {c : Char} (h : isWordChar c = true) : isSignal c = false :=
  isSignal_eq_false_of (by decide) h

theorem isSignal_of_isName {name : String} (h : isName name = true) :
    ∀ c ∈ name.toList, isSignal c = false := by
  intro c hc
  unfold isName at h
  split at h
  next => cases h
  next d ds hname =>
    rw [hname] at hc
    simp only [Bool.and_eq_true, Bool.or_eq_true, decide_eq_true_eq, List.all_eq_true] at h
    apply isSignal_of_isWordChar
    rcases List.mem_cons.mp hc with rfl | hc
    · rcases h.1 with hunder | hletter
      · simp [isWordChar, hunder]
      · simp [isWordChar, hletter.1]
    · exact h.2 c hc

theorem isSignal_of_isDigit {c : Char} (h : c.isDigit = true) : isSignal c = false := by
  apply isSignal_of_isWordChar
  have hsmall : c.toNat < 128 := by
    simp only [Char.isDigit, Bool.and_eq_true, decide_eq_true_eq] at h
    have : c.val ≤ 57 := h.2
    have : c.toNat ≤ 57 := this
    omega
  simp [isWordChar, isAlphanumeric, hsmall, Char.isAlphanum, h]

theorem isSignal_of_conditionIndex? {g : Groups} {name : String} {i : Nat}
    (h : conditionIndex? g name = some i) : ∀ c ∈ name.toList, isSignal c = false := by
  unfold conditionIndex? at h
  split at h
  next hname => exact isSignal_of_isName hname
  next =>
    split at h
    next hdigits =>
      simp only [Bool.and_eq_true, List.all_eq_true] at hdigits
      intro c hc
      exact isSignal_of_isDigit (hdigits.2 c hc)
    next => cases h

/-- A name without backslashes was written as it is. -/
theorem readUntil_plains {close : Char} {seen : List Char} {ts rest : List Token} {name : String}
    (h : readUntil close seen ts = .ok (name, rest)) :
    ∃ cs, name.toList = seen.reverse ++ cs ∧
      ('\\' ∉ cs → ts = cs.map .plain ++ .plain close :: rest) := by
  induction ts generalizing seen with
  | nil => cases h
  | cons t ts ih =>
    cases t with
    | plain c =>
      rw [readUntil] at h
      split at h
      next hclose =>
        split at h <;> cases h
        exact ⟨[], by simp, fun _ => by rw [hclose]; rfl⟩
      next =>
        obtain ⟨cs, hname, hplain⟩ := ih h
        refine ⟨c :: cs, by simp [hname], ?_⟩
        intro hescape
        rw [hplain fun hcs => hescape (.tail _ hcs)]
        rfl
    | escaped c =>
      rw [readUntil] at h
      obtain ⟨cs, hname, -⟩ := ih h
      refine ⟨'\\' :: c :: cs, by simp [hname], ?_⟩
      intro hescape
      exact absurd List.mem_cons_self hescape

theorem readUntil_skips {close : Char} {ts rest : List Token} {name : String}
    (h : readUntil close [] ts = .ok (name, rest))
    (hname : ∀ c ∈ name.toList, isSignal c = false) : Skips ts (.plain close :: rest) := by
  obtain ⟨cs, hcs, hplain⟩ := readUntil_plains h
  rw [List.reverse_nil, List.nil_append] at hcs
  rw [hcs] at hname
  have hescape : '\\' ∉ cs := by
    intro hmem
    cases hname _ hmem
  exact ⟨cs, hname, hplain hescape⟩

theorem isSignal_of_flagLetter? {c : Char} {l : FlagLetter} (h : flagLetter? c = some l) :
    isSignal c = false := by
  have hnone : signals.all (fun c => !(flagLetter? c).isSome) = true := by decide
  exact isSignal_eq_false_of hnone (by rw [h]; rfl)

theorem takeFlags_skips (ts : List Token) : Skips ts (takeFlags ts).2 := by
  fun_induction takeFlags ts with
  | case1 c ts l hl ls rest hrest ih =>
    rw [hrest] at ih
    exact ih.cons (isSignal_of_flagLetter? hl)
  | case2 => exact Skips.refl _
  | case3 => exact Skips.refl _

theorem readFlags_whole {ts rest : List Token} {on : List FlagLetter}
    (h : readFlags ts = .ok (.whole on, rest)) :
    on = (takeFlags ts).1 ∧ Skips ts (.plain ')' :: rest) := by
  have hskips := takeFlags_skips ts
  simp only [readFlags] at h
  split at h
  · cases h
  split at h
  next after hafter =>
    split at h <;> cases h
    exact ⟨rfl, hafter ▸ hskips⟩
  next => split at h <;> cases h
  next =>
    split at h
    · cases h
    · split at h <;> cases h
  next => cases h

theorem readFlags_scoped {ts rest : List Token} {on off : List FlagLetter}
    (h : readFlags ts = .ok (.scoped on off, rest)) :
    on = (takeFlags ts).1 ∧ Skips ts rest := by
  have hskips := takeFlags_skips ts
  simp only [readFlags] at h
  split at h
  · cases h
  split at h
  next => split at h <;> cases h
  next after hafter =>
    split at h <;> cases h
    rw [hafter] at hskips
    exact ⟨rfl, hskips.trans (.cons rfl (.refl _))⟩
  next more hmore =>
    have hoff := takeFlags_skips more
    split at h
    · cases h
    · split at h
      next after hafter =>
        cases h
        rw [hmore] at hskips
        rw [hafter] at hoff
        exact ⟨rfl, hskips.trans (.cons rfl (hoff.trans (.cons rfl (.refl _))))⟩
      next => cases h
  next => cases h

theorem verbose_switched {f : Flags} {ls : List FlagLetter} (on : Bool)
    (hx : on = true → .x ∉ ls) (hf : f.verbose = false) :
    (ls.foldl (fun f l => f.switch on l) f).verbose = false := by
  induction ls generalizing f with
  | nil => exact hf
  | cons l ls ih =>
    have hl : (f.switch on l).verbose = false := by
      cases l <;> try exact hf
      cases on
      · rfl
      · exact absurd List.mem_cons_self (hx rfl)
    exact ih (fun hon hmem => hx hon (.tail _ hmem)) hl

theorem verbose_within {f : Flags} {on off : List FlagLetter} (hx : .x ∉ on)
    (hf : f.verbose = false) : (f.within on off).verbose = false := by
  unfold Flags.within
  apply verbose_switched false (by simp)
  apply verbose_switched true fun _ => hx
  split <;> exact hf

end Watchgate.Pattern
