import Watchgate.Proofs.Media.Acquiring
import Mathlib.Data.List.Forall2
import Mathlib.Data.List.Induction

/-!
# Labels

Tags may be given by label. A label that the server lists gets the id of the last tag that is listed
with it. For any other label a tag is created, and what was created is not looked at again: a label that
is not listed costs one call for each of its occurrences, however they are capitalised, and each
occurrence gets the id of its own tag.
-/

namespace Watchgate

open Act

/-! ## Mappings from pairs -/

namespace Entries

theorem get?_replace_self {entries : Entries} {key : String} (v : Value)
    (h : entries.any (·.1 = key) = true) :
    get? (entries.map fun e => if e.1 = key then (key, v) else e) key = some v := by
  induction entries with
  | nil => cases h
  | cons e entries ih =>
    obtain ⟨k, w⟩ := e
    by_cases hk : k = key
    · simp [hk]
    · have hrest : entries.any (·.1 = key) = true := by simpa [hk] using h
      simpa [hk] using ih hrest

theorem get?_replace_other (entries : Entries) {key key' : String} (v : Value) (h : key ≠ key') :
    get? (entries.map fun e => if e.1 = key then (key, v) else e) key' = get? entries key' := by
  induction entries with
  | nil => rfl
  | cons e entries ih =>
    obtain ⟨k, w⟩ := e
    by_cases hk : k = key
    · subst hk
      simpa [h] using ih
    · simp only [List.map_cons, hk, if_false, get?_cons, ih]

theorem get?_put (entries : Entries) (key : String) (v : Value) (key' : String) :
    get? (put entries key v) key' = if key = key' then some v else get? entries key' := by
  unfold put
  split
  · rename_i hany
    by_cases hk : key = key'
    · subst hk
      rw [if_pos rfl, get?_replace_self v hany]
    · rw [if_neg hk, get?_replace_other entries v hk]
  · rename_i hnew
    have hsnoc : get? (entries ++ [(key, v)]) key'
        = (get? entries key').or (if key = key' then some v else none) := by
      unfold get?
      rw [List.find?_append]
      cases entries.find? (·.1 = key') <;> by_cases hk : key = key' <;> simp [hk]
    rw [hsnoc]
    by_cases hk : key = key'
    · subst hk
      have hnone : get? entries key = none := by
        unfold get?
        rw [Option.map_eq_none_iff, List.find?_eq_none]
        intro e he hk
        exact hnew (List.any_eq_true.2 ⟨e, he, hk⟩)
      rw [hnone, if_pos rfl, Option.none_or]
    · rw [if_neg hk, if_neg hk, Option.or_none]

/-- Of pairs with the same key the last one counts. -/
theorem get?_ofPairs (pairs : List (String × Value)) (key : String) :
    get? (ofPairs pairs) key = get? pairs.reverse key := by
  induction pairs using List.reverseRecOn with
  | nil => rfl
  | append_singleton pairs p ih =>
    have hput : ofPairs (pairs ++ [p]) = put (ofPairs pairs) p.1 p.2 := by
      simp [ofPairs, List.foldl_append]
    rw [hput, get?_put, ih, List.reverse_append]
    exact (get?_cons p.1 key p.2 pairs.reverse).symm

end Entries

/-! ## What a server lists -/

namespace Client

/-- A label as labels are compared. -/
def folded (label : Value) : String := Text.casefold label.display

/-- The label of a tag, as labels are compared. -/
def tagLabel (tag : Value) : String :=
  Text.casefold ((tag.get? "label").getD (.text "")).display

/-- The id of the last tag that is listed with a label, if one is. -/
def listedId? (items : List Value) (label : Value) : Option Value :=
  (items.reverse.find? (tagLabel · = folded label)).map (·.get "id")

/-- What is listed for a label depends on the label up to its capitals. -/
theorem listedId?_congr (items : List Value) {label label' : Value}
    (h : folded label = folded label') : listedId? items label = listedId? items label' := by
  unfold listedId?
  rw [h]

/-- A tag, by which something is known under an id. -/
structure IsTag (v : Value) : Prop where
  mapping : ∃ entries, v = .map entries
  id : v.get "id" ≠ .null

theorem isTag_of_int {entries : Entries} {n : Int} (h : (Value.map entries).get "id" = .int n) :
    IsTag (.map entries) where
  mapping := ⟨entries, rfl⟩
  id := by simp [h]

theorem tagIds_eq {items : List Value} (h : ∀ v ∈ items, IsTag v) :
    tagIds items = .ok (items.map fun v => (tagLabel v, v.get "id")) := by
  induction items with
  | nil => rfl
  | cons v items ih =>
    obtain ⟨hv, hitems⟩ := List.forall_mem_cons.1 h
    obtain ⟨entries, rfl⟩ := hv.mapping
    unfold tagIds
    rw [ih hitems]
    rfl

variable {items : List Value}

/-- The ids by label, as they are read from the list. -/
theorem get_known (items : List Value) (label : Value) :
    Entries.get (Entries.ofPairs (items.map fun v => (tagLabel v, v.get "id"))) (folded label)
      = (listedId? items label).getD .null := by
  unfold Entries.get listedId?
  rw [Entries.get?_ofPairs, ← List.map_reverse, Entries.get?, List.find?_map, Option.map_map]
  rfl

theorem listedId?_ne_null {items : List Value} (h : ∀ v ∈ items, IsTag v) {label id : Value}
    (hid : listedId? items label = some id) : id ≠ .null := by
  obtain ⟨v, hv, rfl⟩ := Option.map_eq_some_iff.1 hid
  exact (h v (List.mem_reverse.1 (List.mem_of_find?_eq_some hv))).id

/-! ## Calls -/

/-- The call by which the tags are listed. -/
def listing (c : Client) : Call where
  method := "GET"
  url := c.baseUrl ++ "/tag"
  headers := some (c.headers false)

/-- The call by which a tag is created for a label. -/
def creation (c : Client) (label : Value) : Call :=
  c.submission "/tag" (.map [("label", .text label.display)])

end Client

/-- The label for which a call creates a tag, as labels are compared. -/
def Call.label? (call : Call) : Option String :=
  call.body.map fun body => Text.casefold (body.get "label").display

theorem Client.label?_creation (c : Client) (label : Value) :
    (c.creation label).label? = some (folded label) := rfl

/-- The calls are taken: a list of tags is the answer to what asks for one, and a tag is the answer to
what hands one in. -/
structure Log.IsServed (log : Log) : Prop where
  lists : ∀ x ∈ log, x.1.method = "GET" →
    ∃ items, x.2.Accepts (.list items) ∧ ∀ v ∈ items, Client.IsTag v
  creates : ∀ x ∈ log, x.1.method = "POST" → ∃ v, x.2.Accepts v ∧ Client.IsTag v

theorem Log.IsServed.sublist {log log' : Log} (h : log'.IsServed) (hsub : log ⊆ log') :
    log.IsServed :=
  ⟨fun x hx => h.lists x (hsub hx), fun x hx => h.creates x (hsub hx)⟩

namespace Client

variable {c : Client} {items labels ids : List Value} {label id : Value} {log log' : Log}

/-- What is exchanged for some labels, and their ids: those that are known are looked up, and for any
other one a tag is created and its id taken from the reply. -/
inductive Names (c : Client) (known? : Value → Option Value) :
    List Value → Log → List Value → Prop where
  | nil : Names c known? [] [] []
  | known {label id : Value} {labels ids : List Value} {log : Log}
      (found : known? label = some id) (rest : Names c known? labels log ids) :
      Names c known? (label :: labels) log (id :: ids)
  | created {label v : Value} {labels ids : List Value} {log : Log} {reply : Reply}
      (missing : known? label = none) (accepts : reply.Accepts v) (tag : IsTag v)
      (rest : Names c known? labels log ids) :
      Names c known? (label :: labels) ((c.creation label, reply) :: log) (v.get "id" :: ids)

/-- The id that is known for a label, if one is. -/
def known? (known : Entries) (label : Value) : Option Value :=
  match Entries.get known (folded label) with
  | .null => none
  | id => some id

/-- What is known after the tags were listed is what is listed. -/
theorem known?_listed (hitems : ∀ v ∈ items, IsTag v) :
    known? (Entries.ofPairs (items.map fun v => (tagLabel v, v.get "id"))) = listedId? items := by
  funext label
  unfold known?
  rw [get_known]
  cases hid : listedId? items label with
  | none => rfl
  | some id =>
    have hne := listedId?_ne_null hitems hid
    cases id with
    | null => exact absurd rfl hne
    | _ => rfl

theorem exchanges_listing (c : Client) :
    (c.tags >>= fun listed => ofResult (listed.toItems.bind tagIds)).Exchanges fun log r =>
      ∃ reply, log = [(c.listing, reply)] ∧ ∀ items, reply.Accepts (.list items) →
        (∀ v ∈ items, IsTag v) → r = .ok (items.map fun v => (tagLabel v, v.get "id")) := by
  unfold tags fetch
  simp only [Act.bind_assoc, pure_bind]
  refine ((c.exchanges_request c.listing).bind fun answer => exchanges_ofResult _).mono ?_
  rintro log r (⟨e, rfl, reply, rfl, hreply⟩ | ⟨answer, _, _, rfl, ⟨reply, rfl, hreply⟩, rfl, rfl⟩)
  · refine ⟨reply, rfl, fun items haccepts _ => ?_⟩
    cases hreply.trans (Reply.content_of_accepts haccepts _)
  · refine ⟨reply, rfl, fun items haccepts htags => ?_⟩
    obtain rfl := Except.ok.inj (hreply.trans (Reply.content_of_accepts haccepts _))
    rw [Value.toItems_list]
    exact tagIds_eq htags

/-- A label costs nothing if it is known, and a call otherwise. -/
theorem resolveLabel_eq (c : Client) (known : Entries) (label : Value) :
    c.resolveLabel known label = match known? known label with
      | some id => pure id
      | none => c.request (c.creation label) >>= fun v => ofResult (Acquire.idOfAnswer v) := by
  unfold resolveLabel known? folded
  cases Entries.get known (Text.casefold label.display) with
  | null =>
    change c.request (c.creation label) >>= _ = _
    congr 1
    funext v
    cases v <;> rfl
  | _ => rfl

/-- One label, with what is exchanged for it. -/
theorem exchanges_resolveLabel (c : Client) (known : Entries) (label : Value) :
    (c.resolveLabel known label).Exchanges fun log r => log.IsServed →
      ∃ id, r = .ok id ∧ Names c (known? known) [label] log [id] := by
  rw [resolveLabel_eq]
  cases hid : known? known label with
  | some id =>
    refine (exchanges_pure id).mono ?_
    rintro log r ⟨rfl, rfl⟩ -
    exact ⟨id, rfl, .known hid .nil⟩
  | none =>
    refine ((c.exchanges_request (c.creation label)).bind fun v => exchanges_ofResult _).mono ?_
    rintro log r (⟨e, rfl, reply, rfl, hreply⟩ | ⟨v, _, _, rfl, ⟨reply, rfl, hreply⟩, rfl, rfl⟩)
      hserved
    · obtain ⟨v, haccepts, -⟩ := hserved.creates _ List.mem_cons_self rfl
      cases hreply.trans (Reply.content_of_accepts haccepts _)
    · obtain ⟨v', haccepts, htag⟩ := hserved.creates _ List.mem_cons_self rfl
      obtain rfl := Except.ok.inj (hreply.trans (Reply.content_of_accepts haccepts _))
      obtain ⟨entries, rfl⟩ := htag.mapping
      exact ⟨_, rfl, .created hid haccepts htag .nil⟩

theorem Names.cons {known? : Value → Option Value} (h : Names c known? [label] log [id])
    (h' : Names c known? labels log' ids) :
    Names c known? (label :: labels) (log ++ log') (id :: ids) := by
  cases h with
  | known found rest =>
    cases rest
    exact .known found h'
  | created missing accepts tag rest =>
    cases rest
    exact .created missing accepts tag h'

/-- One label after the other; what is created for one changes nothing for those after it. -/
theorem exchanges_names (c : Client) (known : Entries) (labels : List Value) :
    (labels.mapM (c.resolveLabel known)).Exchanges fun log r => log.IsServed →
      ∃ ids, r = .ok ids ∧ Names c (known? known) labels log ids := by
  induction labels with
  | nil =>
    refine (exchanges_pure []).mono ?_
    rintro log r ⟨rfl, rfl⟩ -
    exact ⟨[], rfl, .nil⟩
  | cons label labels ih =>
    rw [List.mapM_cons]
    refine ((exchanges_resolveLabel c known label).bind fun id =>
      ih.bind fun ids => exchanges_pure (id :: ids)).mono ?_
    rintro log r (⟨e, rfl, hfirst⟩ | ⟨id, log₁, _, rfl, hfirst, hrest⟩) hserved
    · obtain ⟨id, hid, -⟩ := hfirst hserved
      cases hid
    obtain ⟨id', hid, hlabel⟩ := hfirst (hserved.sublist (List.subset_append_left _ _))
    obtain rfl := Except.ok.inj hid
    rcases hrest with ⟨e, rfl, hrest⟩ | ⟨ids, log₂, _, rfl, hrest, rfl, rfl⟩
    · obtain ⟨ids, hids, -⟩ := hrest (hserved.sublist (List.subset_append_right _ _))
      cases hids
    · rw [List.append_nil] at hserved ⊢
      obtain ⟨ids', hids, hnames⟩ := hrest (hserved.sublist (List.subset_append_right _ _))
      obtain rfl := Except.ok.inj hids
      exact ⟨_, rfl, hlabel.cons hnames⟩

/-! ## What it comes to -/

namespace Names

theorem length (h : Names c (listedId? items) labels log ids) : ids.length = labels.length := by
  induction h with
  | nil => rfl
  | known _ _ ih => rw [List.length_cons, List.length_cons, ih]
  | created _ _ _ _ ih => rw [List.length_cons, List.length_cons, ih]

theorem present (hitems : ∀ v ∈ items, IsTag v) (h : Names c (listedId? items) labels log ids) :
    ∀ id ∈ ids, id ≠ .null := by
  induction h with
  | nil => exact nofun
  | known found _ ih => exact List.forall_mem_cons.2 ⟨listedId?_ne_null hitems found, ih⟩
  | created _ _ tag _ ih => exact List.forall_mem_cons.2 ⟨tag.id, ih⟩

/-- A tag is created for each label that is not listed, as often as it occurs. -/
theorem calls (h : Names c (listedId? items) labels log ids) :
    log.map Prod.fst = (labels.filter fun l => (listedId? items l).isNone).map c.creation := by
  induction h with
  | nil => rfl
  | known found _ ih => simp [found, ih]
  | created missing _ _ _ ih => simp [missing, ih]

theorem id_of_listed (h : Names c (listedId? items) labels log ids) :
    ∀ p ∈ labels.zip ids, ∀ id, listedId? items p.1 = some id → p.2 = id := by
  induction h with
  | nil => exact nofun
  | known found _ ih =>
    refine List.forall_mem_cons.2 ⟨fun id hid => ?_, ih⟩
    exact Option.some.inj (found.symm.trans hid)
  | created missing _ _ _ ih =>
    refine List.forall_mem_cons.2 ⟨fun id hid => ?_, ih⟩
    cases missing.symm.trans hid

/-- The labels that are not listed get the ids of the tags that are created for them, one by one. -/
theorem ids_created (h : Names c (listedId? items) labels log ids) :
    List.Forall₂ (fun x id => ∃ v, x.2.Accepts v ∧ v.get "id" = id) log
      (((labels.zip ids).filter fun p => (listedId? items p.1).isNone).map Prod.snd) := by
  induction h with
  | nil => exact .nil
  | known found _ ih => simpa [found] using ih
  | created missing accepts _ _ ih =>
    rw [List.zip_cons_cons, List.filter_cons, missing]
    exact .cons ⟨_, accepts, rfl⟩ ih

/-- How often a tag is created for a label, up to its capitals. -/
theorem count (h : Names c (listedId? items) labels log ids) (label : Value) :
    (log.countP fun x => x.1.label? = some (folded label))
      = if (listedId? items label).isSome then 0 else labels.countP (folded · = folded label) := by
  have hcalls : (log.countP fun x => x.1.label? = some (folded label))
      = labels.countP fun l => folded l = folded label && (listedId? items l).isNone := by
    have hlog := List.countP_map (p := fun call : Call => call.label? = some (folded label))
      (f := Prod.fst) (l := log)
    rw [h.calls, List.countP_map, List.countP_filter] at hlog
    refine hlog.symm.trans (List.countP_congr fun l _ => ?_)
    simp [label?_creation]
  have hcongr : ∀ l ∈ labels, (decide (folded l = folded label) && (listedId? items l).isNone)
      = true ↔ (decide (folded l = folded label) && (listedId? items label).isNone) = true := by
    intro l _
    by_cases hl : folded l = folded label
    · rw [listedId?_congr items hl]
    · simp [hl]
  rw [hcalls, List.countP_congr hcongr]
  cases listedId? items label <;> simp

/-- A label that is listed, or occurs only once, has one id. -/
theorem same (h : Names c (listedId? items) labels log ids) :
    ∀ p ∈ labels.zip ids, ∀ q ∈ labels.zip ids, folded p.1 = folded q.1 →
      (listedId? items p.1).isSome = true ∨ labels.countP (folded · = folded p.1) = 1 →
        p.2 = q.2 := by
  rintro p hp q hq heq (hlisted | hone)
  · obtain ⟨id, hid⟩ := Option.isSome_iff_exists.1 hlisted
    rw [h.id_of_listed p hp id hid, h.id_of_listed q hq id (listedId?_congr items heq ▸ hid)]
  · have hzip : (labels.zip ids).map Prod.fst = labels := List.map_fst_zip (Nat.le_of_eq h.length.symm)
    have hcount : ((labels.zip ids).filter fun x => folded x.1 = folded p.1).length = 1 := by
      rw [← hone, ← List.countP_eq_length_filter]
      conv_rhs => rw [← hzip, List.countP_map]
      rfl
    obtain ⟨x, hx⟩ := List.length_eq_one_iff.1 hcount
    have hmem : ∀ y ∈ labels.zip ids, folded y.1 = folded p.1 → y = x := fun y hy hfold =>
      List.mem_singleton.1 (hx ▸ List.mem_filter.2 ⟨hy, decide_eq_true hfold⟩)
    rw [hmem p hp rfl, hmem q hq heq.symm]

end Names

/-- How labels are resolved against the tags that are listed: what is exchanged for them beyond the
list, and the ids that they get. -/
structure Labelled (c : Client) (items labels : List Value) (log : Log) (ids : List Value) :
    Prop where
  length : ids.length = labels.length
  present : ∀ id ∈ ids, id ≠ .null
  calls : log.map Prod.fst = (labels.filter fun l => (listedId? items l).isNone).map c.creation
  count : ∀ label, (log.countP fun x => x.1.label? = some (folded label))
    = if (listedId? items label).isSome then 0 else labels.countP (folded · = folded label)
  listed : ∀ p ∈ labels.zip ids, ∀ id, listedId? items p.1 = some id → p.2 = id
  created : List.Forall₂ (fun x id => ∃ v, x.2.Accepts v ∧ v.get "id" = id) log
    (((labels.zip ids).filter fun p => (listedId? items p.1).isNone).map Prod.snd)
  same : ∀ p ∈ labels.zip ids, ∀ q ∈ labels.zip ids, folded p.1 = folded q.1 →
    (listedId? items p.1).isSome = true ∨ labels.countP (folded · = folded p.1) = 1 → p.2 = q.2

theorem Names.labelled (hitems : ∀ v ∈ items, IsTag v) (h : Names c (listedId? items) labels log ids) :
    Labelled c items labels log ids :=
  ⟨h.length, h.present hitems, h.calls, h.count, h.id_of_listed, h.ids_created, h.same⟩

/-- How tags are resolved: the numbers come first; labels, if there are any, cost a call for the list
of tags and what is exchanged for them; and every tag has its id. -/
inductive Resolves (c : Client) (tags : List Value) : Log → Except Failure (List Value) → Prop where
  | numbers {ns : List Int} (none : tags.filter (!isById ·) = [])
      (read : (tags.filter isById).mapM idOf = .ok ns) (length : ns.length = tags.length) :
      Resolves c tags [] (.ok (ns.map .int))
  | labels {ns : List Int} {items ids : List Value} {reply : Reply} {log : Log}
      (some : tags.filter (!isById ·) ≠ []) (read : (tags.filter isById).mapM idOf = .ok ns)
      (accepts : reply.Accepts (.list items))
      (labelled : Labelled c items (tags.filter (!isById ·)) log ids)
      (length : ns.length + ids.length = tags.length) :
      Resolves c tags ((c.listing, reply) :: log) (.ok (ns.map .int ++ ids))

theorem length_of_mapM_ok {α β ε : Type} {f : α → Except ε β} {l : List α} {bs : List β}
    (h : l.mapM f = .ok bs) : bs.length = l.length := by
  have hmap : bs.map (fun _ => ()) = l.map fun _ => () := map_of_mapM_ok (fun _ _ _ _ => rfl) h
  simpa using congrArg List.length hmap

/-- If the numbers can be read and the calls are taken, all tags are resolved. -/
theorem resolveTags_resolves (c : Client) {tags : List Value}
    (hread : ∀ tag ∈ tags, isById tag = true → ∃ n, idOf tag = .ok n) :
    (c.resolveTags tags).Exchanges fun log r => log.IsServed → Resolves c tags log r := by
  obtain ⟨ns, hns⟩ := exists_mapM_ok (f := idOf) (l := tags.filter isById) fun tag htag =>
    hread tag (List.mem_filter.1 htag).1 (List.mem_filter.1 htag).2
  have hlength : ns.length + (tags.filter (!isById ·)).length = tags.length := by
    rw [length_of_mapM_ok hns]
    exact (List.length_eq_length_filter_add isById).symm
  unfold resolveTags
  rw [hns]
  refine Exchanges.after (exchanges_ofResult (.ok ns)) ?_
  by_cases hnone : (tags.filter (!isById ·)).isEmpty = true
  · rw [if_pos hnone]
    refine (exchanges_pure (ns.map Value.int)).mono ?_
    rintro log r ⟨rfl, rfl⟩ -
    have hnil := List.isEmpty_iff.1 hnone
    exact .numbers hnil hns (by simpa [hnil] using hlength)
  · rw [if_neg hnone]
    simp only [← Act.bind_assoc c.tags]
    refine (c.exchanges_listing.bind fun pairs =>
      (exchanges_names c (Entries.ofPairs pairs) _).bind fun ids => exchanges_pure _).mono ?_
    have hsome : tags.filter (!isById ·) ≠ [] := fun h => hnone (List.isEmpty_iff.2 h)
    rintro log r (⟨e, rfl, reply, rfl, hlisted⟩ | ⟨pairs, _, log₂, rfl, ⟨reply, rfl, hlisted⟩, hnames⟩)
      hserved
    · obtain ⟨items, haccepts, htags⟩ := hserved.lists _ List.mem_cons_self rfl
      cases hlisted items haccepts htags
    obtain ⟨items, haccepts, htags⟩ := hserved.lists _ List.mem_cons_self rfl
    obtain rfl := Except.ok.inj (hlisted items haccepts htags)
    have hrest := hserved.sublist (List.subset_append_right _ log₂)
    rw [known?_listed htags] at hnames
    rcases hnames with ⟨e, rfl, hnames⟩ | ⟨ids, log₃, _, rfl, hnames, rfl, rfl⟩
    · obtain ⟨ids, hids, -⟩ := hnames hrest
      cases hids
    · rw [List.append_nil] at hrest ⊢
      obtain ⟨ids', hids, hnames⟩ := hnames hrest
      obtain rfl := Except.ok.inj hids
      refine .labels hsome hns haccepts (hnames.labelled htags) ?_
      rw [hnames.length]
      exact hlength

/-- For instance, of a number and two labels one label is listed, and a tag is created for the other. -/
theorem resolveTags_resolves_new_label :
    let c : Client := {
      id := 2, type := .text "sonarr", service := "sonarr", baseUrl := "http://sonarr/api/v3"
      apiKey := .text "key" }
    let s : Session := {
      now := .ofDate ⟨738959⟩
      network := [
        ("GET http://sonarr/api/v3/tag", [.answer 200 "OK" "[\x7b\"id\": 1, \"label\": \"anime\"\x7d]"]),
        ("POST http://sonarr/api/v3/tag", [.answer 201 "Created" "\x7b\"id\": 7\x7d"])] }
    let tags := [.text "Anime", .int 3, .text "kids"]
    (c.resolveTags tags s).1 = .ok [.int 3, .int 1, .int 7] ∧
      ∃ log, s.Exchanged log (c.resolveTags tags s).2 ∧ log.IsServed ∧
        Resolves c tags log (c.resolveTags tags s).1 := by
  intro c s tags
  have hread : ∀ tag ∈ tags, isById tag = true → ∃ n, idOf tag = .ok n := by
    rintro tag htag hid
    obtain rfl | rfl | rfl : tag = .text "Anime" ∨ tag = .int 3 ∨ tag = .text "kids" := by
      simpa [tags] using htag
    · cases hid.symm.trans (show isById (.text "Anime") = false by decide +kernel)
    · exact ⟨3, rfl⟩
    · cases hid.symm.trans (show isById (.text "kids") = false by decide +kernel)
  obtain ⟨log, hlog, hresolves⟩ := resolveTags_resolves c hread s
  have hids : (c.resolveTags tags s).1 = .ok [.int 3, .int 1, .int 7] :=
    ok_of_toOption (by decide +kernel)
  have hcalls : (c.resolveTags tags s).2.calls = [c.listing, c.creation (.text "kids")] := by
    decide +kernel
  have hlisted : Json.read "[\x7b\"id\": 1, \"label\": \"anime\"\x7d]"
      = .ok (.list [.map [("id", .int 1), ("label", .text "anime")]]) :=
    ok_of_toOption (by decide +kernel)
  have hcreated : Json.read "\x7b\"id\": 7\x7d" = .ok (.map [("id", .int 7)]) :=
    ok_of_toOption (by decide +kernel)
  have anime : IsTag (.map [("id", .int 1), ("label", .text "anime")]) :=
    isTag_of_int rfl
  have kids : IsTag (.map [("id", .int 7)]) := isTag_of_int rfl
  have hserved : log.IsServed := by
    have hsent : log.map Prod.fst = [c.listing, c.creation (.text "kids")] :=
      hlog.calls.symm.trans hcalls
    obtain ⟨x, log, rfl, hx, hrest⟩ := List.map_eq_cons_iff.1 hsent
    obtain ⟨y, log, rfl, hy, hnil⟩ := List.map_eq_cons_iff.1 hrest
    obtain rfl := List.map_eq_nil_iff.1 hnil
    cases hlog.plays with
    | cons first hplays =>
      cases hplays with
      | cons second _ =>
        obtain rfl : first = _ := hx
        obtain rfl : second = _ := hy
        constructor
        · intro z hz hmethod
          obtain rfl | rfl := by simpa using hz
          · refine ⟨_, ⟨200, "OK", "[\x7b\"id\": 1, \"label\": \"anime\"\x7d]", ?_, by decide, hlisted⟩, ?_⟩
            · decide +kernel
            · simp [anime]
          · exact absurd hmethod (by decide +kernel)
        · intro z hz hmethod
          obtain rfl | rfl := by simpa using hz
          · exact absurd hmethod (by decide +kernel)
          · refine ⟨_, ⟨201, "Created", "\x7b\"id\": 7\x7d", ?_, by decide, hcreated⟩, kids⟩
            decide +kernel
  exact ⟨hids, log, hlog, hserved, hresolves hserved⟩

/-- A label that is not listed is created twice if it occurs in two spellings, and gets two ids. -/
theorem resolveTags_creates_twice :
    let c : Client := {
      id := 1, type := .text "radarr", service := "radarr", baseUrl := "http://radarr/api/v3"
      apiKey := .text "key" }
    let s : Session := {
      now := .ofDate ⟨738959⟩
      network := [
        ("GET http://radarr/api/v3/tag", [.answer 200 "OK" "[]"]),
        ("POST http://radarr/api/v3/tag",
          [.answer 201 "Created" "\x7b\"id\": 7\x7d", .answer 201 "Created" "\x7b\"id\": 8\x7d"])] }
    folded (.text "4k") = folded (.text "4K") ∧
      (c.resolveTags [.text "4k", .text "4K"] s).1 = .ok [.int 7, .int 8] ∧
      (c.resolveTags [.text "4k", .text "4K"] s).2.calls.map Call.label?
        = [none, some "4k", some "4k"] := by
  intro c s
  have hids : (c.resolveTags [.text "4k", .text "4K"] s).1 = .ok [.int 7, .int 8] :=
    ok_of_toOption (by decide +kernel)
  exact ⟨by decide +kernel, hids, by decide +kernel⟩

end Client

end Watchgate
