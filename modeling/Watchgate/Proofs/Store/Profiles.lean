import Watchgate.Proofs.Store.Rows

/-!
# What comes back from columns

A quality profile is stored as a text, and a text of digits is read as a number. So a number comes
back as itself and a text as itself or as the number that it writes; but a text that only looks like
digits, and one with more digits than are read, is stored and cannot be read. All other fields of a
rule or an instance whose texts are texts come back as they are.
-/

namespace Watchgate

/-! ## Decimal digits -/

namespace Number

open Text

theorem isBlank_of_isDigit {c : Char} (h : c.isDigit = true) : isBlank c = false := by
  have hrange : 48 ≤ c.toNat ∧ c.toNat ≤ 57 := by
    rw [Char.isDigit, Bool.and_eq_true, decide_eq_true_eq, decide_eq_true_eq] at h
    exact ⟨h.1, h.2⟩
  simp only [isBlank, Bool.or_eq_false_iff, Bool.and_eq_false_iff, decide_eq_false_iff_not]
  omega

/-- Without blanks there is nothing to trim. -/
theorem trimChars_of_digits {cs : List Char} (h : ∀ c ∈ cs, c.isDigit = true) : trimChars cs = cs := by
  have hdrop : ∀ ds : List Char, (∀ c ∈ ds, c.isDigit = true) → ds.dropWhile isBlank = ds := by
    intro ds hds
    cases ds with
    | nil => rfl
    | cons d ds => rw [List.dropWhile_cons, isBlank_of_isDigit (hds d List.mem_cons_self), if_neg (by simp)]
  unfold trimChars dropBlankEnd
  rw [hdrop cs h, hdrop cs.reverse fun c hc => h c (List.mem_reverse.1 hc), List.reverse_reverse]

theorem digitValues?_of_digits {cs : List Char} (h : ∀ c ∈ cs, c.isDigit = true) :
    digitValues? true cs = some (cs.map fun c => c.toNat - 48) := by
  induction cs with
  | nil => rfl
  | cons c cs ih =>
    have hc : decimalValue? c = some (c.toNat - 48) := if_pos (h c List.mem_cons_self)
    rw [digitValues?, hc, ih fun d hd => h d (List.mem_cons_of_mem _ hd)]
    rfl

theorem ofDigitValues_chars (cs : List Char) :
    ofDigitValues (cs.map fun c => c.toNat - 48) = Nat.ofDigitChars 10 cs 0 := by
  unfold ofDigitValues
  rw [List.foldl_map, Nat.ofDigitChars_eq_foldl]
  rfl

theorem isDigit_of_decimal (n : Nat) : ∀ c ∈ Nat.toDigits 10 n, c.isDigit = true :=
  fun _ hc => Nat.isDigit_of_mem_toDigits (by decide) (by decide) hc

theorem readDigits_toDigits (n : Nat) : readDigits (Nat.toDigits 10 n)
    = if maxDigits < (Nat.toDigits 10 n).length then .error (.tooLong (Nat.toDigits 10 n).length)
      else .ok n := by
  have hdigits := isDigit_of_decimal n
  have hvalues : digitValues? false (Nat.toDigits 10 n)
      = some ((Nat.toDigits 10 n).map fun c => c.toNat - 48) := by
    rw [← digitValues?_of_digits hdigits]
    cases hcs : Nat.toDigits 10 n with
    | nil => exact absurd hcs Nat.toDigits_ne_nil
    | cons c cs =>
      have hc : decimalValue? c = some (c.toNat - 48) := if_pos (hdigits c (hcs ▸ List.mem_cons_self))
      rw [digitValues?, digitValues?, hc]
  unfold readDigits
  rw [hvalues]
  dsimp only
  rw [List.length_map, ofDigitValues_chars, Nat.ofDigitChars_ten_toDigits]

/-- The text of a number is read as that number, unless it has more digits than are read. -/
theorem readInteger_integerText (n : Nat) : readInteger (integerText n)
    = if maxDigits < (Nat.toDigits 10 n).length then .error (.tooLong (Nat.toDigits 10 n).length)
      else .ok n := by
  have hdigits := isDigit_of_decimal n
  have hchars : trimChars (integerText n).toList = Nat.toDigits 10 n := by
    change trimChars (String.ofList (Nat.toDigits 10 n)).toList = _
    rw [String.toList_ofList, trimChars_of_digits hdigits]
  have hread : readInteger (integerText n)
      = (readDigits (Nat.toDigits 10 n)).map fun m => (m : Int) := by
    unfold readInteger
    rw [hchars]
    -- Neither sign is a digit, so nothing is cut off.
    split
    · rename_i cs hcs
      cases hdigits '-' (hcs ▸ List.mem_cons_self)
    · rename_i cs hcs
      cases hdigits '+' (hcs ▸ List.mem_cons_self)
    · rfl
  rw [hread, readDigits_toDigits]
  split <;> rfl

theorem allDigits_integerText (n : Nat) : allDigits (integerText n) = true := by
  change allDigits (String.ofList (Nat.toDigits 10 n)) = true
  rw [allDigits, Bool.and_eq_true, String.toList_ofList]
  constructor
  · rw [Bool.not_eq_true', String.isEmpty_eq_false_iff]
    intro h
    exact Nat.toDigits_ne_nil (String.ofList_eq_empty_iff.1 h)
  · refine List.all_eq_true.2 fun c hc => ?_
    have hc : decimalValue? c = some (c.toNat - 48) :=
      if_pos (isDigit_of_decimal n c hc)
    simp [isDigitLike, isDecimal, hc]

end Number

/-! ## Quality profiles -/

namespace Store.Column

open Number (maxDigits)

variable {v w : Value}

/-- A quality profile as one is given: none, a number that is not negative, or a text. -/
inductive IsProfile : Value → Prop where
  | none : IsProfile .null
  | number (n : Nat) : IsProfile (.int n)
  | text (s : String) : IsProfile (.text s)

/-- A quality profile whose text writes a number if it looks like digits. -/
def Legible (v : Value) : Prop :=
  Text.allDigits v.display = true → ∃ n, Value.integerOfText v.display = .ok n

/-- A quality profile comes back as it was, or as the number that its digits write. -/
def ComesBack (v w : Value) : Prop :=
  w = v ∨ ∃ s n, v = .text s ∧ Text.allDigits s = true ∧ Value.integerOfText s = .ok n ∧ w = .int n

theorem readProfile_number (n : Nat) : readProfile (profile (.int n))
    = if maxDigits < (Nat.toDigits 10 n).length
      then .error (.value (.tooManyDigits (Nat.toDigits 10 n).length)) else .ok (.int n) := by
  change readProfile (.text (Number.integerText n)) = _
  rw [readProfile, if_pos (Number.allDigits_integerText n), Value.integerOfText,
    Number.readInteger_integerText]
  by_cases hlong : maxDigits < (Nat.toDigits 10 n).length
  · rw [if_pos hlong, if_pos hlong]
    rfl
  · rw [if_neg hlong, if_neg hlong]
    rfl

/-- What is stored of a quality profile can be read exactly if the profile is legible. -/
theorem exists_readProfile_iff : (∃ w, readProfile (profile v) = .ok w) ↔ Legible v := by
  by_cases hnull : v = .null
  · subst hnull
    exact ⟨fun _ h => absurd h (by decide +kernel), fun _ => ⟨.null, rfl⟩⟩
  have hwritten : profile v = .text v.display := by
    cases v with
    | null => exact absurd rfl hnull
    | _ => rfl
  rw [hwritten, readProfile]
  unfold Legible
  split
  · rename_i hdigits
    constructor
    · rintro ⟨w, hw⟩ -
      obtain ⟨n, hn, -⟩ := ok_of_map hw
      exact ⟨n, hn⟩
    · intro h
      obtain ⟨n, hn⟩ := h hdigits
      exact ⟨.int n, by rw [hn]; rfl⟩
  · rename_i hdigits
    exact ⟨fun _ h => absurd h hdigits, fun _ => ⟨_, rfl⟩⟩

theorem comesBack_of_readProfile (hv : IsProfile v) (h : readProfile (profile v) = .ok w) :
    ComesBack v w := by
  cases hv with
  | none => exact .inl (Except.ok.inj h).symm
  | number n =>
    rw [readProfile_number] at h
    split at h
    · cases h
    · exact .inl (Except.ok.inj h).symm
  | text s =>
    change readProfile (.text s) = .ok w at h
    rw [readProfile] at h
    split at h
    · rename_i hdigits
      obtain ⟨n, hn, rfl⟩ := ok_of_map h
      exact .inr ⟨s, n, rfl, hdigits, hn, rfl⟩
    · exact .inl (Except.ok.inj h).symm

/-! ## Texts and truth values -/

/-- Nothing or a text is written as it is. -/
theorem text_plain (hv : v = .null ∨ ∃ t, v = .text t) (h : text v = .ok w) : w = v := by
  rcases hv with rfl | ⟨t, rfl⟩
  · exact (Except.ok.inj h).symm
  · exact (Except.ok.inj h).symm

theorem requiredText_plain (hv : ∃ t, v = .text t) (h : requiredText v = .ok w) : w = v :=
  text_plain (.inr hv) (requiredText_ok h).1

theorem compareInt?_of_integer? {x : Number.Binary64} {n : Int} (h : x.integer? = some n) :
    x.compareInt? n = some .eq := by
  obtain ⟨m, hm, h⟩ := Option.bind_eq_some_iff.1 h
  split at h
  · rename_i hsame
    obtain rfl := Option.some.inj h
    cases x with
    | finite negative k e => simpa [Number.Binary64.dyadic?, Number.Binary64.compareInt?] using hsame
    | _ => cases hm
  · cases h

/-- What is written for a truth value means the same. -/
theorem agrees_of_truth (h : truth v = .ok w) : v.agrees w = true := by
  cases v with
  | null =>
    obtain rfl := Except.ok.inj h
    simp [Value.agrees]
  | bool b =>
    obtain rfl := Except.ok.inj h
    cases b <;> simp [Value.agrees, Value.compareNumbers?, Value.wholeNumber?]
  | int n =>
    rw [truth] at h
    split at h
    · obtain rfl := Except.ok.inj h
      subst n
      simp [Value.agrees, Value.compareNumbers?, Value.wholeNumber?]
    · split at h
      · obtain rfl := Except.ok.inj h
        subst n
        simp [Value.agrees, Value.compareNumbers?, Value.wholeNumber?]
      · cases h
  | real x =>
    rw [truth] at h
    split at h
    · rename_i hx
      obtain rfl := Except.ok.inj h
      simp [Value.agrees, Value.compareNumbers?, Value.wholeNumber?, compareInt?_of_integer? hx]
    · rename_i hx
      obtain rfl := Except.ok.inj h
      simp [Value.agrees, Value.compareNumbers?, Value.wholeNumber?, compareInt?_of_integer? hx]
    · cases h
  | text s => cases h
  | list items => cases h
  | map entries => cases h

end Store.Column

/-! ## Rules and instances -/

/-- A rule with texts in its text fields, and a quality profile as one is given. -/
structure Rule.IsTextual (r : Rule) : Prop where
  words : ∀ v ∈ [r.name, r.type, r.targetType, r.action, r.approvalTrigger], ∃ t, v = .text t
  texts : ∀ v ∈ [r.rootFolder, r.seriesType, r.seasonMonitoring, r.minimumAvailability,
    r.approvalReason], v = .null ∨ ∃ t, v = .text t
  profile : Store.Column.IsProfile r.qualityProfile

/-- A rule comes back with every field as it was: the criteria as a mapping, the wish to search at once
as the truth value that it stands for, and the quality profile as such profiles do. -/
structure Rule.ComesBack (r back : Rule) : Prop where
  rest : back = { r with
    criteria := back.criteria, searchOnAdd := back.searchOnAdd, qualityProfile := back.qualityProfile }
  criteria : ∃ entries, r.criteria.toMapping = .ok entries ∧ back.criteria = .map entries
  searchOnAdd : r.searchOnAdd.agrees back.searchOnAdd = true
  profile : Store.Column.ComesBack r.qualityProfile back.qualityProfile

/-- An instance with texts in its text fields, and a quality profile as one is given. -/
structure Instance.IsTextual (i : Instance) : Prop where
  words : ∀ v ∈ [i.type, i.name, i.apiKey, i.seasonMonitoring, i.seriesType, i.minimumAvailability],
    ∃ t, v = .text t
  rootFolder : i.rootFolder = .null ∨ ∃ t, i.rootFolder = .text t
  profile : Store.Column.IsProfile i.qualityProfile

/-- An instance comes back with every field as it was, the quality profile as such profiles do. -/
structure Instance.ComesBack (i back : Instance) : Prop where
  rest : back = { i with qualityProfile := back.qualityProfile }
  profile : Store.Column.ComesBack i.qualityProfile back.qualityProfile

namespace Store

variable {r row back : Rule}

theorem ruleRow_textual (hr : r.IsTextual) (h : ruleRow r = .ok row) :
    ∃ entries b, r.criteria.toMapping = .ok entries ∧ Column.truth r.searchOnAdd = .ok b ∧
      row = { r with
        criteria := .map entries, searchOnAdd := b
        qualityProfile := Column.profile r.qualityProfile } := by
  have hwords := hr.words
  have htexts := hr.texts
  simp only [List.forall_mem_cons, List.not_mem_nil, false_implies, implies_true, and_true]
    at hwords htexts
  have hrow := ruleRow_ok h
  obtain ⟨entries, hcriteria, hentries⟩ := hrow.criteria
  refine ⟨entries, row.searchOnAdd, hcriteria, hrow.searchOnAdd, hrow.kept.trans ?_⟩
  rw [hentries, hrow.id_eq, Column.requiredText_plain hwords.1 hrow.name,
    Column.requiredText_plain hwords.2.1 hrow.type,
    Column.requiredText_plain hwords.2.2.1 hrow.targetType,
    Column.text_plain htexts.1 hrow.rootFolder, Column.checked_ok hrow.order,
    Column.text_plain htexts.2.1 hrow.seriesType,
    Column.text_plain htexts.2.2.1 hrow.seasonMonitoring,
    Column.text_plain htexts.2.2.2.1 hrow.minimumAvailability,
    Column.requiredText_plain hwords.2.2.2.1 hrow.action,
    Column.text_plain htexts.2.2.2.2 hrow.approvalReason,
    Column.requiredText_plain hwords.2.2.2.2 hrow.approvalTrigger]

/-- The row of a rule can be read exactly if its quality profile can. -/
theorem exists_readRule_iff (h : ruleRow r = .ok row) :
    (∃ back, readRule row = .ok back) ↔ Column.Legible r.qualityProfile := by
  rw [← Column.exists_readProfile_iff]
  unfold readRule
  rw [(ruleRow_ok h).profile_eq]
  cases Column.readProfile (Column.profile r.qualityProfile) with
  | ok p => exact ⟨fun _ => ⟨p, rfl⟩, fun _ => ⟨_, rfl⟩⟩
  | error e => exact ⟨fun h => (nomatch h.choose_spec), fun h => (nomatch h.choose_spec)⟩

theorem comesBack_of_readRule (hr : r.IsTextual) (hrow : ruleRow r = .ok row)
    (h : readRule row = .ok back) : r.ComesBack back := by
  obtain ⟨entries, b, hcriteria, hsearch, rfl⟩ := ruleRow_textual hr hrow
  obtain ⟨p, hp, rfl⟩ := readRule_ok h
  exact ⟨rfl, ⟨entries, hcriteria, rfl⟩, Column.agrees_of_truth hsearch,
    Column.comesBack_of_readProfile hr.profile hp⟩

variable {i iRow iBack : Instance}

theorem instanceRow_textual (hi : i.IsTextual) (h : instanceRow i = .ok iRow) :
    iRow = { i with qualityProfile := Column.profile i.qualityProfile } := by
  have hwords := hi.words
  simp only [List.forall_mem_cons, List.not_mem_nil, false_implies, implies_true, and_true] at hwords
  have hrow := instanceRow_ok h
  refine hrow.kept.trans ?_
  rw [hrow.id_eq, Column.requiredText_plain hwords.1 hrow.type,
    Column.requiredText_plain hwords.2.1 hrow.name,
    Column.requiredText_plain hwords.2.2.1 hrow.apiKey, Column.text_plain hi.rootFolder hrow.rootFolder,
    Column.requiredText_plain hwords.2.2.2.1 hrow.seasonMonitoring,
    Column.requiredText_plain hwords.2.2.2.2.1 hrow.seriesType,
    Column.requiredText_plain hwords.2.2.2.2.2 hrow.minimumAvailability]

/-- The row of an instance can be read exactly if its quality profile can. -/
theorem exists_readInstance_iff (h : instanceRow i = .ok iRow) :
    (∃ back, readInstance iRow = .ok back) ↔ Column.Legible i.qualityProfile := by
  rw [← Column.exists_readProfile_iff]
  unfold readInstance
  rw [(instanceRow_ok h).profile_eq]
  cases Column.readProfile (Column.profile i.qualityProfile) with
  | ok p => exact ⟨fun _ => ⟨p, rfl⟩, fun _ => ⟨_, rfl⟩⟩
  | error e => exact ⟨fun h => (nomatch h.choose_spec), fun h => (nomatch h.choose_spec)⟩

theorem comesBack_of_readInstance (hi : i.IsTextual) (hrow : instanceRow i = .ok iRow)
    (h : readInstance iRow = .ok iBack) : i.ComesBack iBack := by
  obtain rfl := instanceRow_textual hi hrow
  obtain ⟨p, hp, rfl⟩ := ok_of_map h
  exact ⟨rfl, Column.comesBack_of_readProfile hi.profile hp⟩

end Store

end Watchgate
