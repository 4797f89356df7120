import Watchgate.Proofs.Checks
import Watchgate.Proofs.Condition.Tree

/-!
# The grammar of conditions

A value describes a condition if it is a mapping that holds a group, all of whose children describe
conditions, or a leaf (`Written`). Exactly these values are read (`decode_ok_iff`); every other value is
refused with the fault of the first node from the left that is at fault (`decode_error_iff`).

What is read can be written and read again without a change (`decode_encode`), and its literals are
those of the value's own leaves, from left to right (`literals_of_decode`).
-/

namespace Watchgate

/-- A text in capitals. Only the letters of ASCII are changed, and no other letter has one of those in AND
and OR as its capital. -/
def capitals (s : String) : String := String.ofList (s.toList.map Char.toUpper)

theorem Combination.ofWord?_eq_some_iff {s : String} {k : Combination} :
    ofWord? s = some k ↔ capitals s = k.word := by
  have hunfold : ofWord? s = if capitals s = "AND" then some .all
      else if capitals s = "OR" then some .any else none := rfl
  rw [hunfold]
  cases k <;> simp only [word]
  · by_cases h : capitals s = "AND" <;> simp [h]
  · by_cases h : capitals s = "AND" <;> simp [h]

theorem Entries.sizeOf_lt_of_get? {entries : Entries} {key : String} {v : Value}
    (h : Entries.get? entries key = some v) : sizeOf v < sizeOf entries := by
  obtain ⟨⟨key', v'⟩, hfind, hv⟩ := Option.map_eq_some_iff.1 h
  obtain rfl : v' = v := hv
  have hlt := List.sizeOf_lt_of_mem (List.mem_of_find?_eq_some hfind)
  simp only [Prod.mk.sizeOf_spec] at hlt
  omega

namespace Condition

/-! ## Groups and leaves among the entries of a mapping -/

/-- The mapping holds a group: a list of children and the word for their combination, in any case. -/
structure HoldsGroup (entries : Entries) (k : Combination) (items : List Value) : Prop where
  conditions : Entries.get? entries "conditions" = some (.list items)
  operator : ∃ operator, Entries.get? entries "operator" = some operator ∧
    capitals operator.display = k.word

/-- The mapping holds a leaf: no children, but a field, an operator and a value. -/
structure HoldsLeaf (entries : Entries) (l : Leaf) : Prop where
  conditions : Entries.get? entries "conditions" = none
  field : Entries.get? entries "field" = some (.text l.field)
  named : l.field ≠ ""
  operator : ∃ operator, Entries.get? entries "operator" = some operator ∧
    l.operator = .text operator.display
  value : Entries.get? entries "value" = some l.value

/-- The value describes a condition. -/
inductive Written : Value → Prop
  /-- A group of descriptions. -/
  | group {entries : Entries} {k : Combination} {items : List Value}
    (h : HoldsGroup entries k items) (hitems : ∀ v ∈ items, Written v) : Written (.map entries)
  /-- A leaf. -/
  | leaf {entries : Entries} {l : Leaf} (h : HoldsLeaf entries l) : Written (.map entries)

/-- Why a value describes no condition. -/
inductive Refused : Value → ConditionFault → Prop
  /-- It is no mapping. -/
  | notMapping {v : Value} (h : v.entries? = none) : Refused v (.notMapping v.kind)
  /-- The children are no list. -/
  | childrenNotList {entries : Entries} {v : Value}
    (hconditions : Entries.get? entries "conditions" = some v) (h : v.items? = none) :
    Refused (.map entries) .childrenNotList
  /-- The children are not combined by AND or OR. -/
  | groupOperator {entries : Entries} {items : List Value}
    (hconditions : Entries.get? entries "conditions" = some (.list items))
    (h : ∀ k, ¬ HoldsGroup entries k items) :
    Refused (.map entries) (.groupOperator (Entries.get entries "operator").display)
  /-- Some child is refused, and those to its left are not. -/
  | child {entries : Entries} {k : Combination} {left right : List Value} {v : Value}
    {fault : ConditionFault} (h : HoldsGroup entries k (left ++ v :: right))
    (hleft : ∀ w ∈ left, Written w) (hv : Refused v fault) : Refused (.map entries) fault
  /-- The field of a leaf is no text or an empty one. -/
  | emptyField {entries : Entries} {field : Value}
    (hconditions : Entries.get? entries "conditions" = none)
    (hfield : Entries.get? entries "field" = some field)
    (hoperator : (Entries.get? entries "operator").isSome = true)
    (hvalue : (Entries.get? entries "value").isSome = true)
    (h : ∀ name, field = .text name → name = "") : Refused (.map entries) .emptyField
  /-- There are no children, and part of a leaf is missing. -/
  | shapeless {entries : Entries} (hconditions : Entries.get? entries "conditions" = none)
    (h : Entries.get? entries "field" = none ∨ Entries.get? entries "operator" = none ∨
      Entries.get? entries "value" = none) : Refused (.map entries) .shapeless

/-! ## Every value describes a condition or is refused -/

variable {entries : Entries} {k : Combination} {items : List Value} {l : Leaf}

/-- A node without children is a leaf, or it is refused for itself. -/
theorem holdsLeaf_or_refused (h : Entries.get? entries "conditions" = none) :
    Written (.map entries) ∨ ∃ fault, Refused (.map entries) fault := by
  cases hfield : Entries.get? entries "field" with
  | none => exact .inr ⟨_, .shapeless h (.inl hfield)⟩
  | some field =>
    cases hoperator : Entries.get? entries "operator" with
    | none => exact .inr ⟨_, .shapeless h (.inr (.inl hoperator))⟩
    | some operator =>
      cases hvalue : Entries.get? entries "value" with
      | none => exact .inr ⟨_, .shapeless h (.inr (.inr hvalue))⟩
      | some v =>
        by_cases hname : ∃ name, field = .text name ∧ name ≠ ""
        · obtain ⟨name, rfl, hname⟩ := hname
          exact .inl (.leaf (l := ⟨name, .text operator.display, v⟩)
            ⟨h, hfield, hname, ⟨operator, hoperator, rfl⟩, hvalue⟩)
        · refine .inr ⟨_, .emptyField h hfield (by rw [hoperator]; rfl) (by rw [hvalue]; rfl) ?_⟩
          intro name hfield
          exact Decidable.byContradiction fun hne => hname ⟨name, hfield, hne⟩

/-- A node with children is a group, or it is refused for itself. -/
theorem holdsGroup_or_refused {v : Value} (h : Entries.get? entries "conditions" = some v) :
    (∃ k items, v = .list items ∧ HoldsGroup entries k items) ∨
      ∃ fault, Refused (.map entries) fault := by
  cases hv : v.items? with
  | none => exact .inr ⟨_, .childrenNotList h hv⟩
  | some items =>
    obtain rfl : v = .list items := by
      cases v <;> cases hv
      rfl
    by_cases hgroup : ∃ k, HoldsGroup entries k items
    · obtain ⟨k, hk⟩ := hgroup
      exact .inl ⟨k, items, rfl, hk⟩
    · exact .inr ⟨_, .groupOperator h fun k hk => hgroup ⟨k, hk⟩⟩

/-- What holds of each value whose children it holds of holds of every value. -/
@[elab_as_elim]
theorem value_induction {motive : Value → Prop}
    (node : ∀ v, (∀ entries items, v = .map entries →
      Entries.get? entries "conditions" = some (.list items) → ∀ w ∈ items, motive w) → motive v)
    (v : Value) : motive v := by
  refine node v fun entries items hv hitems w hw => ?_
  exact value_induction node w
termination_by sizeOf v
decreasing_by
  have hmem := List.sizeOf_lt_of_mem hw
  have hget := Entries.sizeOf_lt_of_get? hitems
  simp only [hv, Value.map.sizeOf_spec]
  simp only [Value.list.sizeOf_spec] at hget
  omega

/-- A value describes a condition, or it is refused. -/
theorem written_or_refused (v : Value) : Written v ∨ ∃ fault, Refused v fault := by
  classical
  induction v using value_induction with
  | node v ih =>
    cases v with
    | map entries =>
      cases hconditions : Entries.get? entries "conditions" with
      | none => exact holdsLeaf_or_refused hconditions
      | some children =>
        rcases holdsGroup_or_refused hconditions with ⟨k, items, rfl, hk⟩ | hrefused
        · cases hfirst : items.find? fun w => ¬ Written w with
          | none =>
            rw [List.find?_eq_none] at hfirst
            exact .inl (.group hk fun w hw => by simpa using hfirst w hw)
          | some w =>
            obtain ⟨hw, left, right, rfl, hleft⟩ := List.find?_eq_some_iff_append.1 hfirst
            rcases ih entries _ rfl hconditions w (by simp) with hwritten | ⟨fault, hrefused⟩
            · simp [hwritten] at hw
            · exact .inr ⟨fault, .child hk (fun u hu => by simpa using hleft u hu) hrefused⟩
        · exact .inr hrefused
    | _ => exact .inr ⟨_, .notMapping rfl⟩

/-! ## Reading one node -/

theorem decodeChildren_eq (entries : Entries) :
    decodeChildren entries = (Entries.get? entries "conditions").map decodeItems := by
  induction entries with
  | nil => rfl
  | cons entry rest ih =>
    obtain ⟨key, v⟩ := entry
    rw [decodeChildren, Entries.get?_cons]
    split
    · rfl
    · exact ih

theorem decodeList_eq_mapM (vs : List Value) : decodeList vs = vs.mapM decode := by
  induction vs with
  | nil => rfl
  | cons v vs ih => rw [decodeList, ih, List.mapM_cons]

theorem decode_map (entries : Entries) :
    decode (.map entries) = match (Entries.get? entries "conditions").map decodeItems with
      | some children => decodeGroup entries children
      | none => decodeLeaf entries := by
  rw [← decodeChildren_eq]
  rfl

theorem decode_of_conditions (h : Entries.get? entries "conditions" = some (.list items)) :
    decode (.map entries) = decodeGroup entries (some (items.mapM decode)) := by
  rw [decode_map, h, Option.map_some, decodeItems, decodeList_eq_mapM]

theorem decode_of_no_conditions (h : Entries.get? entries "conditions" = none) :
    decode (.map entries) = decodeLeaf entries := by
  rw [decode_map, h, Option.map_none]

/-- A group is read by reading its children. -/
theorem HoldsGroup.decode_eq (h : HoldsGroup entries k items) :
    decode (.map entries) =
      (items.mapM decode).map (.group k · (Entries.get entries "negate").truthy) := by
  obtain ⟨operator, hoperator, hword⟩ := h.operator
  rw [decode_of_conditions h.conditions, decodeGroup]
  simp only [hoperator, Option.getD_some, Combination.ofWord?_eq_some_iff.2 hword]
  cases items.mapM decode <;> rfl

theorem HoldsLeaf.decode_eq (h : HoldsLeaf entries l) :
    decode (.map entries) = .ok (.leaf l (Entries.get entries "negate").truthy) := by
  obtain ⟨field, operator, v⟩ := l
  obtain ⟨shown, hshown, rfl⟩ := h.operator
  have hnamed : field.isEmpty = false := by simpa using h.named
  rw [decode_of_no_conditions h.conditions, decodeLeaf]
  simp only [h.field, hshown, h.value, hnamed]
  rfl

theorem decode_of_no_group (hconditions : Entries.get? entries "conditions" = some (.list items))
    (h : ∀ k, ¬ HoldsGroup entries k items) :
    decode (.map entries) = .error (.groupOperator (Entries.get entries "operator").display) := by
  have hword : Combination.ofWord? ((Entries.get? entries "operator").getD (.text "")).display
      = none := by
    cases hoperator : Entries.get? entries "operator" with
    | none => rfl
    | some operator =>
      rw [Option.getD_some, Option.eq_none_iff_forall_ne_some]
      intro k hk
      exact h k ⟨hconditions, operator, hoperator, Combination.ofWord?_eq_some_iff.1 hk⟩
  rw [decode_of_conditions hconditions, decodeGroup]
  simp only [hword]

theorem decodeLeaf_of_unnamed {field operator v : Value}
    (hfield : Entries.get? entries "field" = some field)
    (hoperator : Entries.get? entries "operator" = some operator)
    (hvalue : Entries.get? entries "value" = some v) (h : ∀ name, field = .text name → name = "") :
    decodeLeaf entries = .error .emptyField := by
  rw [decodeLeaf, hfield, hoperator, hvalue]
  cases field with
  | text name =>
    obtain rfl := h name rfl
    rfl
  | _ => rfl

theorem decodeLeaf_of_missing (h : Entries.get? entries "field" = none ∨
    Entries.get? entries "operator" = none ∨ Entries.get? entries "value" = none) :
    decodeLeaf entries = .error .shapeless := by
  rw [decodeLeaf]
  rcases h with h | h | h <;> rw [h]
  · cases Entries.get? entries "field" <;> rfl
  · cases Entries.get? entries "field" <;> cases Entries.get? entries "operator" <;> rfl

/-! ## Exactly the grammar is read -/

theorem decode_of_written {v : Value} (h : Written v) : ∃ c, decode v = .ok c := by
  induction h with
  | group h _ ih =>
    obtain ⟨cs, hcs⟩ := exists_mapM_ok ih
    exact ⟨_, by rw [h.decode_eq, hcs]; rfl⟩
  | leaf h => exact ⟨_, h.decode_eq⟩

theorem decode_of_refused {v : Value} {fault : ConditionFault} (h : Refused v fault) :
    decode v = .error fault := by
  induction h with
  | @notMapping v h =>
    cases v with
    | map entries => cases h
    | _ => rw [decode]; exact fun _ h => (by cases h)
  | @childrenNotList entries v hconditions h =>
    rw [decode_map, hconditions]
    cases v with
    | list items => cases h
    | _ => rfl
  | groupOperator hconditions h => exact decode_of_no_group hconditions h
  | child h hleft _ ih =>
    rw [h.decode_eq, mapM_error_of_first (fun w hw => decode_of_written (hleft w hw)) ih]
    rfl
  | emptyField hconditions hfield hoperator hvalue h =>
    obtain ⟨operator, hoperator⟩ := Option.isSome_iff_exists.1 hoperator
    obtain ⟨v, hvalue⟩ := Option.isSome_iff_exists.1 hvalue
    rw [decode_of_no_conditions hconditions, decodeLeaf_of_unnamed hfield hoperator hvalue h]
  | shapeless hconditions h =>
    rw [decode_of_no_conditions hconditions, decodeLeaf_of_missing h]

/-- A value is read exactly if it describes a condition. -/
theorem decode_ok_iff {v : Value} : (∃ c, decode v = .ok c) ↔ Written v := by
  refine ⟨fun ⟨c, hc⟩ => ?_, decode_of_written⟩
  rcases written_or_refused v with hv | ⟨fault, hv⟩
  · exact hv
  · rw [decode_of_refused hv] at hc
    cases hc

/-- A value that describes no condition is refused with the fault of the first node at fault. -/
theorem decode_error_iff {v : Value} {fault : ConditionFault} :
    decode v = .error fault ↔ Refused v fault := by
  refine ⟨fun h => ?_, decode_of_refused⟩
  rcases written_or_refused v with hv | ⟨fault', hv⟩
  · obtain ⟨c, hc⟩ := decode_of_written hv
    rw [hc] at h
    cases h
  · rw [decode_of_refused hv] at h
    exact Except.error.inj h ▸ hv

/-! ## The leaves of a value -/

mutual

/-- The mappings without children that a value holds, from left to right. -/
def leafEntries : Value → List Entries
  | .map entries => (leafEntriesBelow entries).getD [entries]
  | _ => []

/-- Those that the children of a mapping hold, if it has children. -/
def leafEntriesBelow : Entries → Option (List Entries)
  | [] => none
  | (key, v) :: rest => if key = "conditions" then some (leafEntriesOf v) else leafEntriesBelow rest

/-- Those that the items of a list hold. -/
def leafEntriesOf : Value → List Entries
  | .list items => leafEntriesOfAll items
  | _ => []

/-- Those that several values hold. -/
def leafEntriesOfAll : List Value → List Entries
  | [] => []
  | v :: vs => leafEntries v ++ leafEntriesOfAll vs

end

theorem leafEntriesOfAll_eq_flatMap (vs : List Value) :
    leafEntriesOfAll vs = vs.flatMap leafEntries := by
  induction vs with
  | nil => rfl
  | cons v vs ih => rw [leafEntriesOfAll, List.flatMap_cons, ih]

theorem leafEntriesBelow_eq (entries : Entries) :
    leafEntriesBelow entries = (Entries.get? entries "conditions").map leafEntriesOf := by
  induction entries with
  | nil => rfl
  | cons entry rest ih =>
    obtain ⟨key, v⟩ := entry
    rw [leafEntriesBelow, Entries.get?_cons]
    split
    · rfl
    · exact ih

/-- The leaf that the entries of a mapping write, and whether it is negated. -/
def literalOf (entries : Entries) : Leaf × Bool :=
  ({ field := (Entries.get entries "field").display
     operator := .text (Entries.get entries "operator").display
     value := Entries.get entries "value" },
   (Entries.get entries "negate").truthy)

theorem HoldsGroup.leafEntries_eq (h : HoldsGroup entries k items) :
    leafEntries (.map entries) = items.flatMap leafEntries := by
  rw [leafEntries, leafEntriesBelow_eq, h.conditions, Option.map_some, Option.getD_some,
    leafEntriesOf, leafEntriesOfAll_eq_flatMap]

theorem HoldsLeaf.leafEntries_eq (h : HoldsLeaf entries l) :
    leafEntries (.map entries) = [entries] := by
  rw [leafEntries, leafEntriesBelow_eq, h.conditions]
  rfl

theorem HoldsLeaf.literalOf_eq (h : HoldsLeaf entries l) :
    literalOf entries = (l, (Entries.get entries "negate").truthy) := by
  obtain ⟨field, operator, v⟩ := l
  obtain ⟨shown, hshown, rfl⟩ := h.operator
  unfold literalOf
  simp only [Entries.get, h.field, hshown, h.value, Option.getD_some, Value.display_text]

/-- The literals of what is read are those that the value writes, in the same order. -/
theorem literals_of_decode {v : Value} {c : Condition} (h : decode v = .ok c) :
    c.literals = (leafEntries v).map literalOf := by
  induction v using value_induction generalizing c with
  | node v ih =>
    cases decode_ok_iff.1 ⟨c, h⟩ with
    | group hk _ =>
      rw [hk.decode_eq] at h
      obtain ⟨cs, hcs, rfl⟩ := ok_of_map h
      have hchildren : cs.map literals = _ :=
        map_of_mapM_ok (fun w hw d hd => ih _ _ rfl hk.conditions w hw hd) hcs
      rw [literals, literalsOf_eq_flatMap, hk.leafEntries_eq, List.map_flatMap, List.flatMap_def,
        hchildren, List.flatMap_def]
    | leaf hl =>
      rw [hl.decode_eq] at h
      obtain rfl := Except.ok.inj h
      rw [literals, hl.leafEntries_eq, List.map_singleton, hl.literalOf_eq]

/-! ## Writing and reading again -/

/-- A leaf that can be written: its field has a name and its operator is a text. -/
def Writable (l : Leaf) : Prop := l.field ≠ "" ∧ ∃ operator, l.operator = .text operator

theorem writable_of_decode {v : Value} {c : Condition} (h : decode v = .ok c) :
    ∀ l ∈ c.leaves, Writable l := by
  induction v using value_induction generalizing c with
  | node v ih =>
    cases decode_ok_iff.1 ⟨c, h⟩ with
    | group hk _ =>
      rw [hk.decode_eq] at h
      obtain ⟨cs, hcs, rfl⟩ := ok_of_map h
      intro l hl
      rw [leaves_group, List.mem_flatMap] at hl
      obtain ⟨d, hd, hl⟩ := hl
      obtain ⟨w, hw, hdecode⟩ := mem_of_mapM_ok hcs hd
      exact ih _ _ rfl hk.conditions w hw hdecode l hl
    | leaf hl =>
      rw [hl.decode_eq] at h
      obtain rfl := Except.ok.inj h
      obtain ⟨shown, -, hoperator⟩ := hl.operator
      rw [leaves_leaf]
      exact List.forall_mem_singleton.2 ⟨hl.named, _, hoperator⟩

theorem encodeList_eq_map (cs : List Condition) : encodeList cs = cs.map encode := by
  induction cs with
  | nil => rfl
  | cons c cs ih => rw [encodeList, List.map_cons, ih]

theorem holdsGroup_encode (k : Combination) (children : List Condition) (negated : Bool) :
    HoldsGroup ([("operator", .text k.word), ("conditions", .list (encodeList children))]
      ++ negation negated) k (children.map encode) := by
  refine ⟨by simp [encodeList_eq_map], .text k.word, by simp, ?_⟩
  cases k <;> decide

theorem holdsLeaf_encode (h : Writable l) (negated : Bool) :
    HoldsLeaf ([("field", .text l.field), ("operator", l.operator), ("value", l.value)]
      ++ negation negated) l := by
  obtain ⟨hnamed, operator, hoperator⟩ := h
  refine ⟨?_, by simp, hnamed, ⟨l.operator, by simp, by rw [hoperator]; rfl⟩, by simp⟩
  cases negated <;> simp [negation]

theorem mapM_decode_encode {cs : List Condition} (h : ∀ c ∈ cs, decode c.encode = .ok c) :
    (cs.map encode).mapM decode = .ok cs := by
  induction cs with
  | nil => rfl
  | cons c cs ih =>
    rw [List.forall_mem_cons] at h
    exact mapM_ok_of_cons h.1 (ih h.2)

/-- What can be written is read again without a change. -/
theorem decode_encode {c : Condition} (h : ∀ l ∈ c.leaves, Writable l) :
    decode c.encode = .ok c := by
  induction c using children_induction with
  | leaf l negated =>
    rw [leaves_leaf, List.forall_mem_singleton] at h
    rw [encode, (holdsLeaf_encode h negated).decode_eq]
    cases negated <;> simp [negation, Entries.get, Value.truthy]
  | group k children negated ih =>
    rw [leaves_group, List.forall_mem_flatMap] at h
    have hchildren := mapM_decode_encode fun d hd => ih d hd (h d hd)
    rw [encode, (holdsGroup_encode k children negated).decode_eq, hchildren]
    cases negated <;> simp [negation, Entries.get, Value.truthy, Except.map]

/-! ## Reading conditions -/

/-- Exactly the values that describe a condition are read, and all others are refused as malformed. What
is read is the same after being written and read again, and its leaves are those of the value. -/
theorem decode_grammar (v : Value) :
    ((∃ c, decode v = .ok c) ↔ Written v) ∧
      (¬ Written v → ∃ fault, decode v = .error fault ∧ Refused v fault) ∧
      ∀ c, decode v = .ok c →
        decode c.encode = .ok c ∧ c.literals = (leafEntries v).map literalOf ∧
          c.leaves = (leafEntries v).map fun entries => (literalOf entries).1 := by
  refine ⟨decode_ok_iff, fun h => ?_, fun c hc => ⟨?_, literals_of_decode hc, ?_⟩⟩
  · rcases written_or_refused v with hv | ⟨fault, hv⟩
    · exact absurd hv h
    · exact ⟨fault, decode_of_refused hv, hv⟩
  · exact decode_encode (writable_of_decode hc)
  · rw [← map_fst_literals, literals_of_decode hc, List.map_map]
    rfl

/-- A negated group of a negated leaf and of an empty group, their words in mixed case. -/
theorem decode_grammar_nested :
    let v : Value := .map [("operator", .text "or"), ("negate", .int 1), ("conditions", .list [
      .map [("field", .text "year"), ("operator", .text "equals"), ("value", .int 1988),
        ("negate", .bool true)],
      .map [("conditions", .list []), ("operator", .text "And")]])]
    let c : Condition := .group .any [.leaf ⟨"year", .text "equals", .int 1988⟩ true,
      .group .all [] false] true
    Written v ∧ decode v = .ok c ∧ decode c.encode = .ok c ∧
      c.leaves = [⟨"year", .text "equals", .int 1988⟩] := by
  intro v c
  have hread : decode v = .ok c := rfl
  obtain ⟨hgrammar, -, hafter⟩ := decode_grammar v
  obtain ⟨hagain, -, hleaves⟩ := hafter c hread
  exact ⟨hgrammar.1 ⟨c, hread⟩, hread, hagain, hleaves⟩

end Condition
end Watchgate
