import Watchgate.Proofs.Routing.Resolution

/-!
# The data that families compare

A family sees an item through the data that it compares. Two items that it sees alike are judged alike,
and the rules that are found for them are the same. Genres and users do not look at metadata; the year
and the language look at one field of it.
-/

namespace Watchgate.Criteria

/-- The family sees the same data in two items. -/
structure Family.SeesSame (f : Family) (context : Context) (item item' : Item) : Prop where
  hasData : f.hasData item' context = f.hasData item context
  holds : ∀ operator v, f.holds operator v item' context = f.holds operator v item context

namespace Family

variable {context : Context} {item item' : Item}

theorem SeesSame.refl (f : Family) (context : Context) (item : Item) : f.SeesSame context item item :=
  ⟨rfl, fun _ _ => rfl⟩

theorem seesSame_genre (h : item'.genres = item.genres) : genre.SeesSame context item item' := by
  constructor
  · simp only [genre, h]
  · intro operator v
    have hpresent : Genre.present item' = Genre.present item := by
      unfold Genre.present
      rw [h]
    change Genre.holds operator v item' context = Genre.holds operator v item context
    unfold Genre.holds
    rw [hpresent]

theorem seesSame_user (context : Context) (item item' : Item) : user.SeesSame context item item' :=
  ⟨rfl, fun _ _ => rfl⟩

theorem seesSame_year (h : Year.year? item' = Year.year? item) : year.SeesSame context item item' := by
  constructor
  · simp only [year, h]
  · intro operator v
    simp only [year, h]

theorem seesSame_language (h : Language.language? item' = Language.language? item) :
    language.SeesSame context item item' := by
  constructor
  · simp only [language, h]
  · intro operator v
    simp only [language, h]

theorem SeesSame.judge {f : Family} (h : f.SeesSame context item item') (leaf : Leaf) :
    f.judge leaf item' context = f.judge leaf item context := by
  unfold Family.judge
  rw [h.holds]

end Family

namespace Evaluator

variable {context : Context} {item item' : Item}

theorem answer_congr {f : Family} (h : f.SeesSame context item item') (rule : Rule) :
    answer { family := f } item' context rule = answer { family := f } item context rule := by
  change (matchesShorthand f rule item' context).run.value
    = (matchesShorthand f rule item context).run.value
  unfold matchesShorthand
  simp only [h.judge]

theorem matched_congr {e : Evaluator} (h : ∀ rule, e.answer item' context rule = e.answer item context rule)
    (rules : List Rule) : e.matched item' context rules = e.matched item context rules := by
  induction rules with
  | nil => rfl
  | cons rule rules ih => rw [matched, matched, h, ih]

theorem found_congr {f : Family} (h : f.SeesSame context item item') (rules : List Rule) :
    found { family := f } rules item' context = found { family := f } rules item context := by
  unfold found
  rw [matched_congr (answer_congr h), h.hasData]

theorem found_of_none_inUse {e : Evaluator} {rules : List Rule}
    (h : Rule.inUse rules e.family.ruleType context = []) (item : Item) :
    e.found rules item context = [] := by
  unfold found
  rw [h]
  split <;> rfl

theorem found_of_no_data {e : Evaluator} (h : e.family.hasData item context = false)
    (rules : List Rule) : e.found rules item context = [] := by
  unfold found
  rw [h]
  rfl

/-- The evaluators that compare metadata are those whose rules ask for it. -/
theorem cases_of_mem {e : Evaluator} (he : e ∈ evaluators) :
    e = { family := genre } ∨ e = { family := user } ∨
      e.family.ruleType ∈ Router.metadataFamilies := by
  rw [evaluators_eq] at he
  simp only [fieldFamilies, List.map_cons, List.map_nil, List.mem_cons, List.not_mem_nil,
    or_false] at he
  rcases he with rfl | rfl | rfl | rfl | rfl | rfl | rfl
  · exact .inr (.inr (by decide))
  · exact .inl rfl
  · exact .inr (.inl rfl)
  all_goals exact .inr (.inr (by decide))

end Evaluator

/-- A rule in use asks for metadata, unless a plugin looks it up for its type. -/
theorem needsMetadata_of_inUse {r : Router} {rules : List Rule} {context : Context} {type : String}
    (hmetadata : type ∈ Router.metadataFamilies) (hplugins : type ∉ r.plugins.map Runner.ruleType)
    (h : Rule.inUse rules type context ≠ []) :
    r.needsMetadata (rules.filter (·.isActiveFor context.targetType)) = true := by
  obtain ⟨rule, hrule⟩ := List.exists_mem_of_ne_nil _ h
  obtain ⟨hmem, htype, hactive⟩ := Rule.mem_inUse.1 hrule
  refine List.any_eq_true.2 ⟨rule, List.mem_filter.2 ⟨hmem, hactive⟩, ?_⟩
  rw [htype, Bool.and_eq_true, Bool.not_eq_true']
  exact ⟨by simpa [Value.isOneOf] using hmetadata, by simpa [Value.isOneOf] using hplugins⟩

end Watchgate.Criteria
