import Watchgate.Proofs.Pattern.Spelling
import Mathlib.Data.List.Basic

/-!
# Quantifiers on both sides

The screen and reading find the same quantifiers with the same bounds, with two exceptions in
braces: the screen counts with decimals of every script, and it takes braces with a comma alone for
ordinary characters.
-/

namespace Watchgate.Pattern

open Text Screen

/-- A character that bounds in braces are made of. -/
def isCounting (c : Char) : Bool :=
  isDecimal c || c = ','

/-- The decimals that could stand in braces from here on are those of ASCII. -/
def isLegible (cs : List Char) : Bool :=
  (cs.takeWhile isCounting).all fun c => c.isDigit || c = ','

theorem isLegible_cons {c : Char} {cs : List Char} (hc : isCounting c = true)
    (h : isLegible (c :: cs) = true) : (c.isDigit = true ∨ c = ',') ∧ isLegible cs = true := by
  unfold isLegible at h
  rw [List.takeWhile_cons_of_pos hc, List.all_cons, Bool.and_eq_true] at h
  exact ⟨by simpa using h.1, h.2⟩

theorem isDigit_of_isLegible {c : Char} {cs : List Char} (hc : isDecimal c = true)
    (h : isLegible (c :: cs) = true) : c.isDigit = true := by
  rcases (isLegible_cons (by simp [isCounting, hc]) h).1 with hdigit | rfl
  · exact hdigit
  · exact absurd hc (by decide)

theorem isDecimal_of_isDigit {c : Char} (h : c.isDigit = true) : isDecimal c = true := by
  simp [isDecimal, decimalValue?, h]

theorem digitIn?_ten (c : Char) :
    digitIn? 10 c = if c.isDigit then some (c.toNat - 48) else none := by
  unfold digitIn?
  by_cases hdigit : c.isDigit = true
  · have hle : c.toNat ≤ 57 := by
      simp only [Char.isDigit, Bool.and_eq_true, decide_eq_true_eq] at hdigit
      exact hdigit.2
    rw [if_pos hdigit, if_pos hdigit, Option.filter_some]
    exact if_pos (decide_eq_true (by omega))
  rw [if_neg hdigit, if_neg hdigit]
  split
  next h =>
    simp only [Bool.and_eq_true, decide_eq_true_eq] at h
    have hlow : 97 ≤ c.toNat := UInt32.le_iff_toNat_le.mp (Char.le_def.mp h.1)
    exact if_neg (by simp only [decide_eq_true_eq]; omega)
  next =>
    split
    next h =>
      simp only [Bool.and_eq_true, decide_eq_true_eq] at h
      have hlow : 65 ≤ c.toNat := UInt32.le_iff_toNat_le.mp (Char.le_def.mp h.1)
      exact if_neg (by simp only [decide_eq_true_eq]; omega)
    next => rfl

/-- Where the decimals are those of ASCII, reading takes all that the screen takes. -/
theorem takeDigits_legible {n : Nat} {ts : List Token} (hn : ts.length ≤ n)
    (h : isLegible (spelled ts) = true) :
    (∀ c ∈ (spelled ts).takeWhile isDecimal, c.isDigit = true) ∧
      (takeDigits 10 n ts).1 = ((spelled ts).takeWhile isDecimal).map (fun c => c.toNat - 48) ∧
      spelled (takeDigits 10 n ts).2 = (spelled ts).dropWhile isDecimal ∧
      isLegible (spelled (takeDigits 10 n ts).2) = true := by
  induction n generalizing ts with
  | zero =>
    obtain rfl := List.eq_nil_of_length_eq_zero (Nat.le_zero.mp hn)
    simpa [takeDigits] using h
  | succ n ih =>
    cases ts with
    | nil => simpa [takeDigits] using h
    | cons t ts =>
      cases t with
      | escaped c =>
        have hslash : isDecimal '\\' = false := by decide
        simpa [takeDigits, hslash] using h
      | plain c =>
        rw [spelled_plain] at h ⊢
        by_cases hdigit : c.isDigit = true
        · have hc := isDecimal_of_isDigit hdigit
          obtain ⟨hall, hvalues, hrest, hlegible⟩ :=
            ih (Nat.le_of_succ_le_succ hn) (isLegible_cons (by simp [isCounting, hc]) h).2
          rw [List.takeWhile_cons_of_pos hc, List.dropWhile_cons_of_pos hc]
          simp only [takeDigits, digitIn?_ten, hdigit, if_true]
          refine ⟨?_, ?_, hrest, hlegible⟩
          · simpa [hdigit] using hall
          · rw [hvalues, List.map_cons]
        · have hc : ¬isDecimal c = true := fun hc => hdigit (isDigit_of_isLegible hc h)
          rw [List.takeWhile_cons_of_neg hc, List.dropWhile_cons_of_neg hc]
          simpa [takeDigits, digitIn?_ten, hdigit] using h

theorem decimalNumber_eq_numeral {cs : List Char} (h : ∀ c ∈ cs, c.isDigit = true) :
    decimalNumber cs = numeral 10 (cs.map fun c => c.toNat - 48) := by
  unfold decimalNumber numeral
  rw [List.foldl_map]
  refine List.foldl_ext _ _ _ ?_
  intro n c hc
  simp [decimalValue?, h c hc]

/-- The bounds as the screen sees them. -/
def Bounds.quantifier (b : Bounds) : Quantifier :=
  match b.high with
  | none => .unbounded
  | some n => .upTo n

theorem Bounds.repeats_quantifier (b : Bounds) : b.quantifier.repeats = b.high.all (1 < ·) := by
  unfold Bounds.quantifier
  cases b.high <;> rfl

theorem Bounds.tooHigh_quantifier (b : Bounds) (h : b.quantifier.tooHigh = false) :
    b.high.all (· ≤ maxRepetition) = true := by
  unfold Bounds.quantifier at h
  cases hhigh : b.high with
  | none => rfl
  | some n => simpa [hhigh, Quantifier.tooHigh] using h

theorem readBraces?_some {ts rest : List Token} {low high : List Nat} {comma : Bool}
    (h : readBraces? ts = some (low, comma, high, rest)) :
    (comma = true ∧ ∃ more, takeDigits 10 ts.length ts = (low, .plain ',' :: more) ∧
        takeDigits 10 more.length more = (high, .plain '\x7d' :: rest)) ∨
      (comma = false ∧ high = [] ∧ takeDigits 10 ts.length ts = (low, .plain '\x7d' :: rest)) := by
  simp only [readBraces?] at h
  split at h
  next more hmore =>
    split at h
    next hhigh =>
      cases h
      exact .inl ⟨rfl, more, Prod.ext rfl hmore, hhigh⟩
    next => cases h
  next hrest =>
    cases h
    exact .inr ⟨rfl, rfl, Prod.ext rfl hrest⟩
  next => cases h

theorem takeDigits_suffix {base n : Nat} {ts rest : List Token} {ds : List Nat}
    (h : takeDigits base n ts = (ds, rest)) : rest <:+ ts := by
  have hskips := takeDigits_skips base n ts
  rw [h] at hskips
  exact hskips.suffix

theorem readBraces?_suffix {ts rest : List Token} {low high : List Nat} {comma : Bool}
    (h : readBraces? ts = some (low, comma, high, rest)) : rest <:+ ts := by
  rcases readBraces?_some h with ⟨-, more, hlow, hhigh⟩ | ⟨-, -, hlow⟩
  · have hmore := (List.suffix_cons _ _).trans (takeDigits_suffix hlow)
    exact (List.suffix_cons _ _).trans ((takeDigits_suffix hhigh).trans hmore)
  · exact (List.suffix_cons _ _).trans (takeDigits_suffix hlow)

theorem eq_of_takeDigits_nil {base n : Nat} {ts rest : List Token}
    (h : takeDigits base n ts = ([], rest)) : rest = ts := by
  unfold takeDigits at h
  split at h
  · cases h
    rfl
  · split at h <;> cases h
    rfl
  · cases h
    rfl

/-- Braces hold the same numbers on both sides. -/
theorem braces?_spelled {ts : List Token} (hlegible : isLegible (spelled ts) = true) :
    braces? (spelled ts) = (readBraces? ts).bind fun (low, comma, high, rest) =>
      if low.isEmpty && high.isEmpty then none
      else if comma && high.isEmpty then some (.unbounded, spelled rest)
      else some (.upTo (numeral 10 (if comma then high else low)), spelled rest) := by
  obtain ⟨hdigits, hlow, hrest, hgoes⟩ := takeDigits_legible (Nat.le_refl _) hlegible
  simp only [braces?, readBraces?]
  rw [← hrest, hlow]
  split
  next more hmore =>
    obtain ⟨us, hus, rfl⟩ := plain_of_spelled (by decide) hmore
    rw [hus, spelled_plain] at hgoes
    obtain ⟨hdigits', hhigh, hrest', -⟩ :=
      takeDigits_legible (Nat.le_refl _) (isLegible_cons (by decide) hgoes).2
    rw [hus]
    simp only
    rw [← hrest']
    split
    next after hafter =>
      obtain ⟨vs, hvs, rfl⟩ := plain_of_spelled (by decide) hafter
      rw [show takeDigits 10 us.length us = (_, _) from Prod.ext hhigh hvs]
      simp only [Option.bind_some, List.isEmpty_map, Bool.true_and, if_true,
        decimalNumber_eq_numeral hdigits']
    next hopen =>
      split
      next high vs hvs =>
        rw [hvs] at hopen
        exact absurd rfl (hopen _)
      next => rfl
  next after hafter =>
    obtain ⟨us, hus, rfl⟩ := plain_of_spelled (by decide) hafter
    rw [hus]
    simp [decimalNumber_eq_numeral hdigits]
  next hcomma hclose =>
    split
    next us hus =>
      rw [hus] at hcomma
      exact absurd rfl (hcomma _)
    next us hus =>
      rw [hus] at hclose
      exact absurd rfl (hclose _)
    next => rfl

theorem readBounds_suffix {c : Char} {ts rest : List Token} {b : Bounds}
    (h : readBounds c ts = .ok (some (b, rest))) : rest <:+ ts := by
  simp only [readBounds] at h
  split at h
  · cases h
    exact List.suffix_refl _
  split at h
  · cases h
    exact List.suffix_refl _
  split at h
  · cases h
    exact List.suffix_refl _
  split at h
  · cases h
  split at h
  · cases h
  next low comma high after hbraces =>
    have hsuffix := readBraces?_suffix hbraces
    generalize (if comma then high else low) = top at h
    split at h
    · cases h
    split at h
    · cases h
      exact hsuffix
    split at h
    · cases h
    split at h <;> cases h
    exact hsuffix

/-- In braces with a bound both sides find the same quantifier, if one of them finds any. -/
theorem braces?_of_readBounds {ts : List Token} {r : Option (Bounds × List Token)}
    (hlegible : isLegible (spelled ts) = true)
    (hbound : ∀ us, ts ≠ .plain ',' :: .plain '\x7d' :: us)
    (h : readBounds '\x7b' ts = .ok r) :
    braces? (spelled ts) = r.map fun (b, rest) => (b.quantifier, spelled rest) := by
  rw [braces?_spelled hlegible]
  rw [readBounds, if_neg (by decide), if_neg (by decide), if_neg (by decide)] at h
  split at h
  next hhead =>
    cases h
    cases ts with
    | nil => cases hhead
    | cons t us =>
      cases hhead
      rfl
  next hhead =>
    split at h
    next hnone =>
      cases h
      rw [hnone]
      rfl
    next low comma high after hbraces =>
      rw [hbraces]
      simp only at h
      split at h
      · cases h
      rcases readBraces?_some hbraces with ⟨rfl, more, hlow, hhigh⟩ | ⟨rfl, rfl, hlow⟩
      · rw [if_pos rfl] at h
        cases high with
        | nil =>
          cases h
          have hsome : low ≠ [] := by
            rintro rfl
            have hts := eq_of_takeDigits_nil hlow
            have hmore := eq_of_takeDigits_nil hhigh
            exact hbound after (by rw [← hts, ← hmore])
          simp [Bounds.quantifier, hsome]
        | cons d ds =>
          rw [if_neg (by simp)] at h
          split at h
          · cases h
          split at h <;> cases h
          simp [Bounds.quantifier]
      · rw [if_neg Bool.false_ne_true] at h
        cases low with
        | nil =>
          have hts := eq_of_takeDigits_nil hlow
          exact absurd (by rw [← hts]; rfl) hhead
        | cons d ds =>
          rw [if_neg (by simp)] at h
          split at h
          · cases h
          split at h <;> cases h
          simp [Bounds.quantifier]

/-- Both sides find the same quantifier, if one of them finds any. -/
theorem quantifier?_of_readBounds {c : Char} {ts : List Token} {r : Option (Bounds × List Token)}
    (hc : c = '?' ∨ c = '*' ∨ c = '+' ∨ c = '\x7b')
    (hlegible : c = '\x7b' → isLegible (spelled ts) = true)
    (hbound : c = '\x7b' → ∀ us, ts ≠ .plain ',' :: .plain '\x7d' :: us)
    (h : readBounds c ts = .ok r) :
    quantifier? (c :: spelled ts) = r.map fun (b, rest) => (b.quantifier, spelled rest) := by
  rcases hc with rfl | rfl | rfl | rfl
  · cases h
    rfl
  · cases h
    rfl
  · cases h
    rfl
  · exact braces?_of_readBounds (hlegible rfl) (hbound rfl) h

theorem spelled_readMode (ts : List Token) : spelled (readMode ts).2 = dropMark (spelled ts) := by
  unfold readMode
  split
  · rfl
  · rfl
  next hlazy hpossessive =>
    unfold dropMark
    split
    next cs hcs =>
      obtain ⟨us, hus, -⟩ := plain_of_spelled (by decide) hcs
      exact absurd hus (hlazy us)
    next cs hcs =>
      obtain ⟨us, hus, -⟩ := plain_of_spelled (by decide) hcs
      exact absurd hus (hpossessive us)
    next => rfl

theorem readMode_suffix (ts : List Token) : (readMode ts).2 <:+ ts := by
  unfold readMode
  split
  · exact List.suffix_cons _ _
  · exact List.suffix_cons _ _
  · exact List.suffix_refl _

end Watchgate.Pattern
