import Watchgate.Proofs.Criteria.Faults
import Mathlib.Data.List.TakeWhile

/-!
# Operators and their opposites

A family that has an operator and its opposite compares the same data by both. Without data neither holds
(`holds_of_absent`), so the opposite is no plain negation. With data, and a value of the kind that
the operator asks for, it is one (`outcome_holds_negative`), and there is an answer unless a user is named
by digits that write no number (`exists_outcome_holds`).
-/

namespace Watchgate.Criteria

/-- What the families compare. -/
inductive Subject where
  | genre
  | user
  | year
  | season
  | language
  | certification
deriving DecidableEq

/-- The operators that have an opposite. -/
inductive Comparison where
  | equality
  | membership
  | containment
deriving DecidableEq

namespace Comparison

/-- The operator. -/
def positive : Comparison → String
  | .equality => "equals"
  | .membership => "in"
  | .containment => "contains"

/-- Its opposite. -/
def negative : Comparison → String
  | .equality => "notEquals"
  | .membership => "notIn"
  | .containment => "notContains"

end Comparison

namespace Subject

/-- The family that compares the subject. -/
def family : Subject → Family
  | .genre => Criteria.genre
  | .user => Criteria.user
  | .year => Criteria.year
  | .season => Criteria.season
  | .language => Criteria.language
  | .certification => Criteria.certification

theorem map_family :
    [genre, user, year, season, language, certification].map family = fieldFamilies := rfl

/-- Nothing is known about the subject. -/
def Absent (item : Item) (context : Context) : Subject → Prop
  | .genre => ∀ g ∈ item.genres, g.truthy = false
  | .user => context.userIds = [] ∧ context.userNames = []
  | .year => Year.year? item = none
  | .season => Season.isShow context = false ∨ Season.numbers item = []
  | .language => Language.language? item = none
  | .certification => Certification.certification? item = none

/-- The value is of the kind that a comparison asks for. -/
def Suits : Subject → Comparison → Value → Prop
  | .genre, _, v => ∃ t, .text t ∈ v.toListOfOne
  | .user, _, v => User.candidates v ≠ []
  | .year, .equality, v | .season, .equality, v => ∃ n, v = .int n
  | .year, _, v | .season, _, v => ∃ items, v = .list items ∧ ∀ w ∈ items, ∃ n, w = .int n
  | .language, .membership, _ | .certification, .membership, _ => True
  | .language, _, v | .certification, _, v => ∃ t, v = .text t ∧ Text.isBlankText t = false

/-- No user is named by digits that write no number. The blanks around a name do not count. -/
def Legible : Subject → Value → Prop
  | .user, v => ∀ t, .text t ∈ User.candidates v → Text.allDigits (Text.trim t) = true →
      ∃ n, Value.integerOfText (Text.trim t) = .ok n
  | _, _ => True

end Subject

/-! ## Digits

Only texts are shown as digits alone: all else that is no integer is shown with a letter, a point or a
bracket. -/

theorem mem_trimChars {c : Char} {cs : List Char} (h : c ∈ cs) (hblank : Text.isBlank c = false) :
    c ∈ Text.trimChars cs := by
  have hdrop : ∀ {ds : List Char}, c ∈ ds → c ∈ ds.dropWhile Text.isBlank := by
    intro ds hds
    rw [← List.takeWhile_append_dropWhile (p := Text.isBlank) (l := ds), List.mem_append] at hds
    rcases hds with hds | hds
    · rw [List.mem_takeWhile_imp hds] at hblank
      cases hblank
    · exact hds
  unfold Text.trimChars Text.dropBlankEnd
  rw [List.mem_reverse]
  exact hdrop (List.mem_reverse.2 (hdrop h))

theorem not_allDigits_trim {s : String} {c : Char} (h : c ∈ s.toList)
    (hblank : Text.isBlank c = false) (hdigit : Text.isDigitLike c = false) :
    Text.allDigits (Text.trim s) = false := by
  have hmem : c ∈ (Text.trim s).toList := by
    rw [Text.trim, String.toList_ofList]
    exact mem_trimChars h hblank
  rw [Text.allDigits, Bool.and_eq_false_iff]
  exact .inr (List.all_eq_false.2 ⟨c, hmem, by simp [hdigit]⟩)

/-- A decimal has a point or an exponent. -/
theorem point_or_exponent_mem (d : Number.Decimal) : '.' ∈ d.chars ∨ 'e' ∈ d.chars := by
  unfold Number.Decimal.chars
  dsimp only
  split
  · simp
  · split <;> simp

theorem not_allDigits_real (x : Number.Binary64) : Text.allDigits (Text.trim x.text) = false := by
  cases x with
  | notANumber => decide
  | infinite negative => cases negative <;> decide
  | finite negative m e =>
    have htext : ∀ c, (c = '.' ∨ c = 'e') → c ∈ (Number.Binary64.finite negative m e).text.toList →
        Text.allDigits (Text.trim (Number.Binary64.finite negative m e).text) = false := by
      rintro c (rfl | rfl) hc
      · exact not_allDigits_trim hc (by decide) (by decide)
      · exact not_allDigits_trim hc (by decide) (by decide)
    by_cases hm : m = 0
    · exact htext '.' (.inl rfl) (by cases negative <;> simp [Number.Binary64.text, hm])
    · rcases point_or_exponent_mem (Number.shortest m e) with hc | hc
      · exact htext '.' (.inl rfl) (by cases negative <;> simp [Number.Binary64.text, hm, hc])
      · exact htext 'e' (.inr rfl) (by cases negative <;> simp [Number.Binary64.text, hm, hc])

/-- Whatever is neither a text nor an integer is not shown as digits. -/
theorem not_allDigits_display {v : Value} (htext : v.text? = none) (hint : v.int? = none) :
    Text.allDigits (Text.trim v.display) = false := by
  cases v with
  | null => decide
  | bool b => cases b <;> decide
  | int n => cases hint
  | real x => exact not_allDigits_real x
  | text s => cases htext
  | list items =>
    refine not_allDigits_trim (c := '[') ?_ (by decide) (by decide)
    simp [Value.display, Value.source]
  | map entries =>
    refine not_allDigits_trim (c := '\x7b') ?_ (by decide) (by decide)
    simp [Value.display, Value.source]

/-! ## Comparing -/

namespace Subject

variable {item : Item} {context : Context} {v : Value}

theorem integers?_of_forall {items : List Value} (h : ∀ w ∈ items, ∃ n, w = .int n) :
    ∃ ns, integers? items = some ns := by
  induction items with
  | nil => exact ⟨[], rfl⟩
  | cons w items ih =>
    rw [List.forall_mem_cons] at h
    obtain ⟨⟨n, rfl⟩, h⟩ := h
    obtain ⟨ns, hns⟩ := ih h
    refine ⟨n :: ns, ?_⟩
    unfold integers? at hns ⊢
    rw [List.mapM_cons, hns]
    rfl

/-- The comparison holds or fails, and its opposite does the other. -/
def Opposes (f : Family) (k : Comparison) (v : Value) (item : Item) (context : Context) : Prop :=
  ∃ b, f.holds k.positive v item context = pure b ∧ f.holds k.negative v item context = pure (!b)

theorem genre_opposes (hdata : ¬ Absent item context .genre) {k : Comparison}
    (hk : k.negative ∈ Criteria.genre.operatorNames) (hv : Suits .genre k v) :
    Opposes Criteria.genre k v item context := by
  obtain ⟨g, hg, htruthy⟩ : ∃ g ∈ item.genres, g.truthy = true := by
    simpa [Absent] using hdata
  have hheld : (Genre.present item).isEmpty = false :=
    List.isEmpty_eq_false_iff_exists_mem.2
      ⟨normal g, List.mem_map_of_mem (List.mem_filter.2 ⟨hg, htruthy⟩)⟩
  obtain ⟨t, ht⟩ := hv
  have hwanted : (Genre.wanted v).isEmpty = false :=
    List.isEmpty_eq_false_iff_exists_mem.2
      ⟨normal (.text t), List.mem_map_of_mem (List.mem_filter.2 ⟨ht, rfl⟩)⟩
  refine ⟨Genre.meet (Genre.wanted v) (Genre.present item), ?_, ?_⟩
  all_goals
    change Genre.holds _ v item context = _
    unfold Genre.holds
    cases k with
    | equality => exact absurd hk (by decide)
    | membership => simp [hheld, hwanted, Comparison.positive, Comparison.negative]
    | containment => simp [hheld, hwanted, Comparison.positive, Comparison.negative]

theorem year_opposes (hdata : ¬ Absent item context .year) {k : Comparison}
    (hk : k.negative ∈ Criteria.year.operatorNames) (hv : Suits .year k v) :
    Opposes Criteria.year k v item context := by
  obtain ⟨n, hn⟩ := Option.ne_none_iff_exists'.1 hdata
  simp only [Opposes, Criteria.year, hn, Option.any_some]
  cases k with
  | equality =>
    obtain ⟨m, rfl⟩ := hv
    exact ⟨decide (n = m), rfl, by simp [Year.holds, Year.compare, Comparison.negative]⟩
  | membership =>
    obtain ⟨items, rfl, hitems⟩ := hv
    obtain ⟨ns, hns⟩ := integers?_of_forall hitems
    refine ⟨ns.contains n, ?_, ?_⟩
    · simp [Year.holds, hns, Comparison.positive]
    · simp [Year.holds, hns, Comparison.negative]
  | containment => exact absurd hk (by decide)

theorem season_opposes (hdata : ¬ Absent item context .season) {k : Comparison}
    (hk : k.negative ∈ Criteria.season.operatorNames) (hv : Suits .season k v) :
    Opposes Criteria.season k v item context := by
  simp only [Absent, not_or, Bool.not_eq_false] at hdata
  obtain ⟨hshow, hnumbers⟩ := hdata
  obtain ⟨s, rest, hseasons⟩ := List.exists_cons_of_ne_nil hnumbers
  simp only [Opposes, Criteria.season, hshow, hseasons, Bool.true_and]
  cases k with
  | equality =>
    obtain ⟨m, rfl⟩ := hv
    exact ⟨(s :: rest).contains m, rfl, rfl⟩
  | membership =>
    obtain ⟨items, rfl, hitems⟩ := hv
    obtain ⟨ns, hns⟩ := integers?_of_forall hitems
    refine ⟨(s :: rest).any ns.contains, ?_, ?_⟩
    · simp [Season.holds, hns, Comparison.positive]
    · simp [Season.holds, hns, Comparison.negative]
  | containment => exact absurd hk (by decide)

theorem language_opposes (hdata : ¬ Absent item context .language) {k : Comparison}
    (hk : k.negative ∈ Criteria.language.operatorNames) (hv : Suits .language k v) :
    Opposes Criteria.language k v item context := by
  obtain ⟨spoken, hspoken⟩ := Option.ne_none_iff_exists'.1 hdata
  simp only [Opposes, Criteria.language, hspoken, Option.any_some]
  cases k with
  | equality =>
    obtain ⟨t, rfl, hblank⟩ := hv
    refine ⟨decide (normal spoken = normal (.text t)), ?_, ?_⟩
    · simp [Language.holds, Language.isBlank, hblank, Comparison.positive]
    · simp [Language.holds, Comparison.negative]
  | membership =>
    refine ⟨Language.isAmong (normal spoken) v.toListOfOne, ?_, ?_⟩
    · simp [Language.holds, Comparison.positive]
    · simp [Language.holds, Comparison.negative]
  | containment => exact absurd hk (by decide)

theorem certification_opposes (hdata : ¬ Absent item context .certification) {k : Comparison}
    (hv : Suits .certification k v) : Opposes Criteria.certification k v item context := by
  obtain ⟨rating, hrating⟩ := Option.ne_none_iff_exists'.1 hdata
  simp only [Opposes, Criteria.certification, hrating]
  cases k with
  | equality =>
    obtain ⟨t, rfl, -⟩ := hv
    refine ⟨decide (normal rating = normal (.text t)), ?_, ?_⟩
    · simp [Certification.holds, Comparison.positive]
    · simp [Certification.holds, Comparison.negative]
  | membership =>
    refine ⟨Certification.isAmong (normal rating) v.toListOfOne, ?_, ?_⟩
    · simp [Certification.holds, Comparison.positive]
    · simp [Certification.holds, Comparison.negative]
  | containment =>
    obtain ⟨t, rfl, -⟩ := hv
    refine ⟨Text.isInside (normal (.text t)) (normal rating), ?_, ?_⟩
    · simp [Certification.holds, Comparison.positive]
    · simp [Certification.holds, Comparison.negative]

theorem isKnown_of_not_absent (h : ¬ Absent item context .user) : User.isKnown context = true := by
  simp only [Absent, not_and_or] at h
  simpa [User.isKnown] using h

theorem user_holds_positive (hdata : ¬ Absent item context .user) {k : Comparison}
    (hk : k.negative ∈ Criteria.user.operatorNames) :
    Criteria.user.holds k.positive v item context
      = ofResult (User.isAmong context (User.candidates v)) := by
  have hknown := isKnown_of_not_absent hdata
  change User.holds _ v item context = _
  unfold User.holds
  cases k with
  | containment => exact absurd hk (by decide)
  | _ => simp [hknown, Comparison.positive]

theorem user_holds_negative (hdata : ¬ Absent item context .user) {k : Comparison}
    (hk : k.negative ∈ Criteria.user.operatorNames) (hv : Suits .user k v) :
    Criteria.user.holds k.negative v item context
      = ofResult ((User.isAmong context (User.candidates v)).map (!·)) := by
  have hknown := isKnown_of_not_absent hdata
  have hsome : (User.candidates v).isEmpty = false := List.isEmpty_eq_false_iff.2 hv
  change User.holds _ v item context = _
  unfold User.holds
  cases k with
  | containment => exact absurd hk (by decide)
  | _ => simp [hknown, hsome, Comparison.negative]

/-- Among legible candidates a user is found or not. -/
theorem exists_isAmong (h : Legible .user v) :
    ∃ b, User.isAmong context (User.candidates v) = .ok b := by
  cases hamong : User.isAmong context (User.candidates v) with
  | ok b => exact ⟨b, rfl⟩
  | error failure =>
    obtain ⟨w, hw, hint, hdigits, hfails⟩ := User.isAmong_fails hamong
    cases htext : w.text? with
    | none =>
      rw [not_allDigits_display htext hint] at hdigits
      cases hdigits
    | some t =>
      obtain rfl : w = .text t := by
        cases w <;> cases htext
        rfl
      obtain ⟨n, hn⟩ := h t hw hdigits
      rw [Value.display_text, hn] at hfails
      cases hfails

/-! ## Opposites -/

/-- Without data no operator holds. -/
theorem holds_of_absent {s : Subject} (h : s.Absent item context) (operator : String) (v : Value) :
    s.family.holds operator v item context = pure false := by
  have hmem : s.family ∈ fieldFamilies := by
    rw [← map_family]
    cases s <;> simp
  cases s with
  | genre =>
    have hpresent : Genre.present item = [] := by
      unfold Genre.present
      rw [List.map_eq_nil_iff, List.filter_eq_nil_iff]
      intro g hg
      simp [h g hg]
    change Genre.holds operator v item context = pure false
    unfold Genre.holds
    rw [hpresent]
    rfl
  | user =>
    obtain ⟨hids, hnames⟩ := h
    refine Family.holds_of_no_data hmem ?_ _ _
    simp [family, Criteria.user, User.isKnown, hids, hnames]
  | season =>
    refine Family.holds_of_no_data hmem ?_ _ _
    rcases h with hshow | hnumbers
    · simp [family, Criteria.season, hshow]
    · simp [family, Criteria.season, hnumbers]
  | year =>
    refine Family.holds_of_no_data hmem ?_ _ _
    simpa [family, Criteria.year, Absent] using h
  | language =>
    refine Family.holds_of_no_data hmem ?_ _ _
    simpa [family, Criteria.language, Absent] using h
  | certification =>
    refine Family.holds_of_no_data hmem ?_ _ _
    simpa [family, Criteria.certification, Absent] using h

theorem judge_eq_holds {f : Family} {field operator : String} (hfield : f.claims field = true)
    (hoperator : operator ∈ f.operatorNames) (v : Value) :
    f.judge ⟨field, .text operator, v⟩ item context = f.holds operator v item context := by
  unfold Family.judge
  simp [hfield, Value.hashable, Value.isOneOf, hoperator]

/-- A family that knows the opposite of an operator knows the operator. -/
theorem positive_mem {s : Subject} {k : Comparison} (h : k.negative ∈ s.family.operatorNames) :
    k.positive ∈ s.family.operatorNames := by
  revert h
  cases s <;> cases k <;> decide

/-- Of subjects other than users the data is compared without reading numbers. -/
theorem opposes {s : Subject} (huser : s ≠ .user) (hdata : ¬ s.Absent item context) {k : Comparison}
    (hk : k.negative ∈ s.family.operatorNames) (hv : s.Suits k v) :
    Opposes s.family k v item context := by
  cases s with
  | genre => exact genre_opposes hdata hk hv
  | user => exact absurd rfl huser
  | year => exact year_opposes hdata hk hv
  | season => exact season_opposes hdata hk hv
  | language => exact language_opposes hdata hk hv
  | certification => exact certification_opposes hdata hv

/-- The opposite of an operator is answered by the negation of its answer. -/
theorem outcome_holds_negative {s : Subject} (hdata : ¬ s.Absent item context) {k : Comparison}
    (hk : k.negative ∈ s.family.operatorNames) (hv : s.Suits k v) :
    outcome (s.family.holds k.negative v item context)
      = (outcome (s.family.holds k.positive v item context)).map (!·) := by
  by_cases huser : s = .user
  · subst huser
    change outcome (Criteria.user.holds _ _ _ _) = (outcome (Criteria.user.holds _ _ _ _)).map _
    rw [user_holds_positive hdata hk, user_holds_negative hdata hk hv]
    rfl
  · obtain ⟨b, hpositive, hnegative⟩ := opposes huser hdata hk hv
    rw [hpositive, hnegative]
    rfl

theorem exists_outcome_holds {s : Subject} (hdata : ¬ s.Absent item context) {k : Comparison}
    (hk : k.negative ∈ s.family.operatorNames) (hv : s.Suits k v) (hlegible : s.Legible v) :
    ∃ b, outcome (s.family.holds k.positive v item context) = .ok b := by
  by_cases huser : s = .user
  · subst huser
    change ∃ b, outcome (Criteria.user.holds _ _ _ _) = .ok b
    rw [user_holds_positive hdata hk]
    exact exists_isAmong hlegible
  · obtain ⟨b, hpositive, -⟩ := opposes huser hdata hk hv
    exact ⟨b, by rw [hpositive]; rfl⟩

/-- Without data no operator of a family holds. With data and a value that suits the comparison, the
opposite of an operator is the negation of the operator, and both are answered unless a user is named by
digits that write no number. -/
theorem negative_complements_positive (s : Subject) (item : Item) (context : Context)
    {field : String} (hfield : s.family.claims field = true) :
    (s.Absent item context → ∀ operator v,
        outcome (s.family.holds operator v item context) = .ok false ∧
          outcome (s.family.judge ⟨field, .text operator, v⟩ item context) = .ok false) ∧
      (¬ s.Absent item context → ∀ k v, k.negative ∈ s.family.operatorNames → s.Suits k v →
        outcome (s.family.judge ⟨field, .text k.negative, v⟩ item context)
            = (outcome (s.family.judge ⟨field, .text k.positive, v⟩ item context)).map (!·) ∧
          (s.Legible v → ∃ b,
            outcome (s.family.judge ⟨field, .text k.positive, v⟩ item context) = .ok b ∧
              outcome (s.family.judge ⟨field, .text k.negative, v⟩ item context) = .ok (!b))) := by
  refine ⟨fun habsent operator v => ?_, fun hdata k v hk hv => ?_⟩
  · have hholds := holds_of_absent habsent operator v
    refine ⟨by rw [hholds]; rfl, ?_⟩
    by_cases hknown : operator ∈ s.family.operatorNames
    · rw [judge_eq_holds hfield hknown, hholds]
      rfl
    · unfold Family.judge
      simp [hfield, Value.hashable, Value.isOneOf, hknown]
      rfl
  · rw [judge_eq_holds hfield hk, judge_eq_holds hfield (positive_mem hk)]
    have hnegative := outcome_holds_negative hdata hk hv
    refine ⟨hnegative, fun hlegible => ?_⟩
    obtain ⟨b, hb⟩ := exists_outcome_holds hdata hk hv hlegible
    exact ⟨b, hb, by rw [hnegative, hb]; rfl⟩

/-- A user is not among an id and a name, with blanks around it, of others. -/
theorem negative_complements_positive_two_candidates :
    let item : Item := { title := .text "Dune" }
    let context : Context := { contentType := .text "movie", userName := .one (.text "Ann") }
    let v : Value := .map [("ids", .int 5), ("names", .list [.text " bob "])]
    user.family.claims "users" = true ∧ ¬ user.Absent item context ∧
      Comparison.membership.negative ∈ user.family.operatorNames ∧ user.Suits .membership v ∧
      user.Legible v ∧
      outcome (user.family.judge ⟨"users", .text "in", v⟩ item context) = .ok false ∧
      outcome (user.family.judge ⟨"users", .text "notIn", v⟩ item context) = .ok true := by
  intro item context v
  have hfield : user.family.claims "users" = true := by decide
  have hdata : ¬ user.Absent item context := by
    rintro ⟨-, hnames⟩
    cases hnames
  have hk : Comparison.membership.negative ∈ user.family.operatorNames := by decide
  have hv : user.Suits .membership v := List.cons_ne_nil _ _
  have hlegible : user.Legible v := by
    have hcandidates : User.candidates v = [.int 5, .text " bob "] := rfl
    intro t ht hdigits
    rw [hcandidates] at ht
    obtain rfl : t = " bob " := by simpa using ht
    exact absurd hdigits (by decide)
  obtain ⟨b, hpositive, hnegative⟩ :=
    ((negative_complements_positive user item context hfield).2 hdata .membership v hk hv).2 hlegible
  have hout : outcome (user.family.judge ⟨"users", .text "in", v⟩ item context) = .ok false := by cbv
  obtain rfl : b = false := Except.ok.inj (hpositive.symm.trans hout)
  exact ⟨hfield, hdata, hk, hv, hlegible, hout, hnegative⟩

end Subject

end Watchgate.Criteria
