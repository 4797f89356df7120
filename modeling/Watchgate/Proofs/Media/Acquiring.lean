import Watchgate.Proofs.Media.Exchanges
import Watchgate.Proofs.Checks

/-!
# What is reported about adding content

Before content is handed in, its quality profile and its tags are resolved, which may take exchanges of
their own. Whatever the server replies, content is handed in at most once, after everything was
resolved, and it is reported as taken exactly if that call was taken with JSON as the answer. A call that
was taken with something else as the answer is reported as refused, and answers of another shape than
the steps before expect make the whole fail.
-/

namespace Watchgate

open Act

/-! ## Calls and their answers -/

/-- Content is handed in by this call. -/
def Call.isAddition (c : Call) : Bool :=
  c.method = "POST" && ["/movie", "/series"].any fun path => path.toList.isSuffixOf c.url.toList

/-- What the answer to a call has to be like: a list of mappings, if something was asked for, and a
mapping, if a tag was handed in. The answer to an addition is not looked at. -/
def Call.Expects (c : Call) (v : Value) : Prop :=
  if c.method = "GET" then
    v.truthy = true → ∃ items, v = .list items ∧ ∀ x ∈ items, ∃ entries, x = .map entries
  else c.isAddition = true ∨ ∃ entries, v = .map entries

/-- The call was taken, but its answer cannot be understood. -/
def Reply.IsOdd (c : Call) (r : Reply) : Prop := r.Illegible ∨ ∃ v, r.Accepts v ∧ ¬ c.Expects v

theorem Call.Expects.items {call : Call} {v : Value} (h : call.Expects v) (hget : call.method = "GET") :
    ∃ items, (v.orElse (.list [])).toItems = .ok items ∧ ∀ x ∈ items, ∃ entries, x = .map entries := by
  unfold Expects at h
  rw [if_pos hget] at h
  unfold Value.orElse
  by_cases ht : v.truthy = true
  · obtain ⟨items, rfl, hitems⟩ := h ht
    rw [if_pos ht]
    exact ⟨items, rfl, hitems⟩
  · rw [if_neg ht]
    exact ⟨[], rfl, nofun⟩

theorem Value.toItems_list (items : List Value) :
    ((Value.list items).orElse (.list [])).toItems = .ok items := by
  cases items <;> rfl

/-- Only a list has mappings among its items. -/
theorem Value.list_of_toItems {v : Value} {items : List Value} {entries : Entries}
    (h : (v.orElse (.list [])).toItems = .ok items) (hmem : .map entries ∈ items) :
    v = .list items := by
  unfold orElse at h
  split at h
  · cases v with
    | list items' => rw [Except.ok.inj h]
    | text s =>
      obtain rfl := Except.ok.inj h
      obtain ⟨_, -, heq⟩ := List.mem_map.1 hmem
      cases heq
    | map entries' =>
      obtain rfl := Except.ok.inj h
      obtain ⟨_, -, heq⟩ := List.mem_map.1 hmem
      cases heq
    | _ => cases h
  · obtain rfl := Except.ok.inj h
    cases hmem

theorem String.not_suffix_tag (path : String) {c : Char} (hpath : path.toList.getLast? = some c)
    (hc : c ≠ 'g') (base : String) : ¬ path.toList <:+ (base ++ "/tag").toList := by
  rintro ⟨front, h⟩
  have hlast := congrArg List.getLast? h
  have htag : "/tag".toList.getLast? = some 'g' := rfl
  rw [String.toList_append, List.getLast?_append, List.getLast?_append, hpath, htag] at hlast
  exact hc (Option.some.inj hlast)

/-- The call by which something is handed in. -/
def Client.submission (c : Client) (path : String) (body : Value) : Call where
  method := "POST"
  url := c.baseUrl ++ path
  body := some body
  headers := some (c.headers true)

theorem Client.isAddition_tag (c : Client) (body : Value) :
    (c.submission "/tag" body).isAddition = false := by
  have hmovie := String.not_suffix_tag "/movie" (c := 'e') rfl (by decide) c.baseUrl
  have hseries := String.not_suffix_tag "/series" (c := 's') rfl (by decide) c.baseUrl
  rw [← List.isSuffixOf_iff_suffix, Bool.not_eq_true] at hmovie hseries
  simp only [Call.isAddition, submission, List.any_cons, List.any_nil, hmovie, hseries]
  rfl

theorem Client.isAddition_movie (c : Client) (body : Value) :
    (c.submission "/movie" body).isAddition = true := by
  simp [Call.isAddition, submission, List.isSuffixOf_iff_suffix]

theorem Client.isAddition_series (c : Client) (body : Value) :
    (c.submission "/series" body).isAddition = true := by
  simp [Call.isAddition, submission, List.isSuffixOf_iff_suffix]

namespace Acquire

variable {α β : Type} {D : Prop} {M : Log → Prop}

/-- How a step before the addition ends: it adds nothing; it gives a value only if all its calls were
taken; and if it fails, then a call was refused or what it looks for is missing by the log, or `D` does
not hold, or an answer was odd. -/
structure Prepares (D : Prop) (M : Log → Prop) (Q : Log → α → Prop) (log : Log)
    (r : Except Failure α) : Prop where
  noAddition : ∀ e ∈ log, e.1.isAddition = false
  ok : ∀ a, r = .ok a → (∀ e ∈ log, ∃ v, e.2.Accepts v) ∧ Q log a
  error : ∀ e, r = .error e →
    (isRefusal e = true ∧ ((∃ x ∈ log, ∀ v, ¬ x.2.Accepts v) ∨ M log)) ∨ ¬ D ∨
      ∃ x ∈ log, x.2.IsOdd x.1

theorem prepares_ofResult {x : Except Failure α} (h : ∀ e, x = .error e → ¬ D) :
    (ofResult x).Exchanges (Prepares D M fun log a => log = [] ∧ x = .ok a) := by
  refine (exchanges_ofResult x).mono ?_
  rintro log r ⟨rfl, rfl⟩
  refine ⟨List.forall_mem_nil _, fun a ha => ⟨List.forall_mem_nil _, rfl, ha⟩, fun e he => ?_⟩
  exact .inr (.inl (h e he))

theorem prepares_pure (a : α) :
    (pure a : Act α).Exchanges (Prepares D M fun log b => log = [] ∧ b = a) := by
  refine (exchanges_pure a).mono ?_
  rintro log r ⟨rfl, rfl⟩
  refine ⟨List.forall_mem_nil _, ?_, nofun⟩
  rintro _ ⟨⟩
  exact ⟨List.forall_mem_nil _, rfl, rfl⟩

theorem Prepares.bind {x : Act α} {f : α → Act β} {P : Log → α → Prop} {Q : α → Log → β → Prop}
    (hx : x.Exchanges (Prepares D M P))
    (hf : ∀ a, (f a).Exchanges (Prepares D (fun _ => False) (Q a))) :
    (x >>= f).Exchanges (Prepares D M fun log b =>
      ∃ a log₁ log₂, log = log₁ ++ log₂ ∧ P log₁ a ∧ Q a log₂ b) := by
  refine (hx.bind hf).mono ?_
  rintro log r (⟨e, rfl, h⟩ | ⟨a, log₁, log₂, rfl, h₁, h₂⟩)
  · refine ⟨h.noAddition, nofun, ?_⟩
    rintro _ ⟨⟩
    exact h.error e rfl
  refine ⟨?_, fun b hb => ?_, fun e he => ?_⟩
  · intro x hx
    rcases List.mem_append.1 hx with hx | hx
    · exact h₁.noAddition x hx
    · exact h₂.noAddition x hx
  · obtain ⟨haccepted₁, hp⟩ := h₁.ok a rfl
    obtain ⟨haccepted₂, hq⟩ := h₂.ok b hb
    refine ⟨fun x hx => ?_, a, log₁, log₂, rfl, hp, hq⟩
    rcases List.mem_append.1 hx with hx | hx
    · exact haccepted₁ x hx
    · exact haccepted₂ x hx
  · rcases h₂.error e he with ⟨hrefusal, ⟨x, hx, hrefused⟩ | hfalse⟩ | h | ⟨x, hx, hodd⟩
    · exact .inl ⟨hrefusal, .inl ⟨x, List.mem_append_right _ hx, hrefused⟩⟩
    · exact hfalse.elim
    · exact .inr (.inl h)
    · exact .inr (.inr ⟨x, List.mem_append_right _ hx, hodd⟩)

theorem Prepares.mono {x : Act α} {P Q : Log → α → Prop} (hx : x.Exchanges (Prepares D M P))
    (h : ∀ log a, P log a → Q log a) : x.Exchanges (Prepares D M Q) :=
  Exchanges.mono hx fun log _ hp =>
    ⟨hp.noAddition, fun a ha => ⟨(hp.ok a ha).1, h log a (hp.ok a ha).2⟩, hp.error⟩

/-- A call that is no addition, and what is read from its answer. -/
theorem prepares_request (c : Client) {call : Call} (hcall : call.isAddition = false)
    {read : Value → Except Failure α}
    (hread : ∀ (reply : Reply) v e, reply.Accepts v → read v = .error e →
      (isRefusal e = true ∧ M [(call, reply)]) ∨ ¬ call.Expects v) :
    (c.request call >>= fun v => ofResult (read v)).Exchanges (Prepares D M fun log a =>
      ∃ reply v, log = [(call, reply)] ∧ reply.Accepts v ∧ read v = .ok a) := by
  refine ((c.exchanges_request call).bind fun v => exchanges_ofResult (read v)).mono ?_
  rintro log r (⟨e, rfl, reply, rfl, hreply⟩ | ⟨v, log₁, log₂, rfl, ⟨reply, rfl, hreply⟩, rfl, rfl⟩)
  · refine ⟨by simp [hcall], nofun, ?_⟩
    rintro _ ⟨⟩
    rcases reply.content_cases call.url with ⟨v, hv, -⟩ | ⟨e', he', hnone, hcause⟩
    · cases hreply.trans hv
    · obtain rfl := Except.error.inj (hreply.trans he')
      rcases hcause with ⟨fault, rfl⟩ | hillegible
      · exact .inl ⟨rfl, .inl ⟨_, List.mem_singleton_self _, hnone⟩⟩
      · exact .inr (.inr ⟨_, List.mem_singleton_self _, .inl hillegible⟩)
  · rcases reply.content_cases call.url with ⟨v', hv', haccepts⟩ | ⟨e, he, -⟩
    · obtain rfl := Except.ok.inj (hreply.trans hv')
      refine ⟨by simp [hcall], fun a ha => ⟨by simp; exact ⟨v, haccepts⟩, reply, v, rfl, haccepts, ha⟩,
        fun e he => ?_⟩
      rcases hread reply v e haccepts he with ⟨hrefusal, hmissing⟩ | h
      · exact .inl ⟨hrefusal, .inr hmissing⟩
      · exact .inr (.inr ⟨_, List.mem_cons_self, .inr ⟨v, haccepts, h⟩⟩)
    · cases hreply.trans he

end Acquire

/-! ## Profiles and tags -/

/-- The server, asked at an address, lists a mapping that passes the test. -/
def Log.Lists (log : Log) (url : String) (test : Entries → Prop) : Prop :=
  ∃ e ∈ log, e.1.method = "GET" ∧ e.1.url = url ∧
    ∃ items entries, e.2.Accepts (.list items) ∧ .map entries ∈ items ∧ test entries

theorem Log.Lists.mono {log log' : Log} {url : String} {test : Entries → Prop}
    (h : log.Lists url test) (hsub : log ⊆ log') : log'.Lists url test := by
  obtain ⟨e, he, hrest⟩ := h
  exact ⟨e, hsub he, hrest⟩

theorem Log.Lists.imp {log : Log} {url : String} {test test' : Entries → Prop}
    (h : log.Lists url test) (himp : ∀ entries, test entries → test' entries) :
    log.Lists url test' := by
  obtain ⟨e, he, hget, hurl, items, entries, haccepts, hmem, htest⟩ := h
  exact ⟨e, he, hget, hurl, items, entries, haccepts, hmem, himp entries htest⟩

/-- A tag for the label is handed in at an address, and taken. -/
def Log.Creates (log : Log) (url : String) (label : Value) : Prop :=
  ∃ e ∈ log, e.1.method = "POST" ∧ e.1.url = url ∧
    e.1.body = some (.map [("label", .text label.display)]) ∧ ∃ v, e.2.Accepts v

theorem Log.Creates.mono {log log' : Log} {url : String} {label : Value}
    (h : log.Creates url label) (hsub : log ⊆ log') : log'.Creates url label := by
  obtain ⟨e, he, hrest⟩ := h
  exact ⟨e, hsub he, hrest⟩

namespace Client

theorem profileNamed?_ok (name : String) {items : List Value}
    (h : ∀ x ∈ items, ∃ entries, x = .map entries) : ∃ found, profileNamed? name items = .ok found := by
  induction items with
  | nil => exact ⟨none, rfl⟩
  | cons x items ih =>
    obtain ⟨entries, rfl⟩ := h x List.mem_cons_self
    obtain ⟨found, hfound⟩ := ih fun y hy => h y (List.mem_cons_of_mem _ hy)
    unfold profileNamed?
    by_cases hname : normalName ((Entries.get? entries "name").getD (.text "")) = name
    · exact ⟨some (Entries.get entries "id"), by simp [Value.toEntries, bind, Except.bind, hname]; rfl⟩
    · exact ⟨found, by simp [Value.toEntries, bind, Except.bind, hname, hfound]⟩

theorem profileNamed?_some {name : String} {items : List Value} {id : Value}
    (h : profileNamed? name items = .ok (some id)) :
    ∃ entries, .map entries ∈ items ∧
      normalName ((Entries.get? entries "name").getD (.text "")) = name := by
  induction items with
  | nil => cases h
  | cons x items ih =>
    obtain ⟨entries, hentries, h⟩ := ok_of_bind h
    cases x with
    | map entries' =>
      obtain rfl : entries' = entries := Except.ok.inj hentries
      by_cases hname : normalName ((Entries.get? entries' "name").getD (.text "")) = name
      · exact ⟨entries', List.mem_cons_self, hname⟩
      · simp only [hname, if_false] at h
        obtain ⟨found, hmem, hfound⟩ := ih h
        exact ⟨found, List.mem_cons_of_mem _ hmem, hfound⟩
    | _ => cases hentries

theorem profileNamed?_none {name : String} {items : List Value}
    (h : profileNamed? name items = .ok none) {entries : Entries} (hmem : .map entries ∈ items) :
    normalName ((Entries.get? entries "name").getD (.text "")) ≠ name := by
  induction items with
  | nil => cases hmem
  | cons x items ih =>
    obtain ⟨entries', hentries, h⟩ := ok_of_bind h
    by_cases hname : normalName ((Entries.get? entries' "name").getD (.text "")) = name
    · rw [if_pos hname] at h
      cases h
    · rw [if_neg hname] at h
      rcases List.mem_cons.1 hmem with rfl | hmem
      · obtain rfl : entries = entries' := Except.ok.inj hentries
        exact hname
      · exact ih h hmem

theorem tagIds_ok {items : List Value} (h : ∀ x ∈ items, ∃ entries, x = .map entries) :
    ∃ pairs, tagIds items = .ok pairs := by
  induction items with
  | nil => exact ⟨[], rfl⟩
  | cons x items ih =>
    obtain ⟨entries, rfl⟩ := h x List.mem_cons_self
    obtain ⟨pairs, hpairs⟩ := ih fun y hy => h y (List.mem_cons_of_mem _ hy)
    unfold tagIds
    rw [hpairs]
    exact ⟨_, rfl⟩

theorem mem_of_tagIds {items : List Value} {pairs : Entries} (h : tagIds items = .ok pairs)
    {label : String} {id : Value} (hpair : (label, id) ∈ pairs) :
    ∃ entries, .map entries ∈ items ∧
      Text.casefold ((Entries.get? entries "label").getD (.text "")).display = label ∧
      Entries.get entries "id" = id := by
  induction items generalizing pairs with
  | nil =>
    obtain rfl := Except.ok.inj h
    cases hpair
  | cons x items ih =>
    obtain ⟨entries, hentries, h⟩ := ok_of_bind h
    obtain ⟨rest, hrest, h⟩ := ok_of_bind h
    obtain rfl := pure_ok h
    cases x with
    | map entries' =>
      obtain rfl : entries' = entries := Except.ok.inj hentries
      rcases List.mem_cons.1 hpair with heq | hmem
      · obtain ⟨rfl, rfl⟩ := Prod.mk.inj heq
        exact ⟨entries', List.mem_cons_self, rfl, rfl⟩
      · obtain ⟨found, hfound, hboth⟩ := ih hrest hmem
        exact ⟨found, List.mem_cons_of_mem _ hfound, hboth⟩
    | _ => cases hentries

end Client

theorem Entries.mem_put {entries : Entries} {key : String} {v : Value} {e : String × Value}
    (h : e ∈ Entries.put entries key v) : e ∈ entries ∨ e = (key, v) := by
  unfold Entries.put at h
  split at h
  · obtain ⟨e', he', heq⟩ := List.mem_map.1 h
    split at heq
    · exact .inr heq.symm
    · exact .inl (heq ▸ he')
  · simpa using h

theorem Entries.mem_ofPairs {pairs : List (String × Value)} {e : String × Value}
    (h : e ∈ Entries.ofPairs pairs) : e ∈ pairs := by
  have hfold : ∀ (pairs : List (String × Value)) (entries : Entries),
      e ∈ pairs.foldl (fun entries p => Entries.put entries p.1 p.2) entries →
        e ∈ entries ∨ e ∈ pairs := by
    intro pairs
    induction pairs with
    | nil => exact fun entries h => .inl h
    | cons p pairs ih =>
      intro entries h
      rcases ih _ h with hput | hmem
      · rcases Entries.mem_put hput with he | rfl
        · exact .inl he
        · exact .inr List.mem_cons_self
      · exact .inr (List.mem_cons_of_mem _ hmem)
  exact (hfold pairs [] h).resolve_left List.not_mem_nil

theorem Entries.mem_of_get {entries : Entries} {key : String} (h : Entries.get entries key ≠ .null) :
    (key, Entries.get entries key) ∈ entries := by
  unfold Entries.get Entries.get? at h ⊢
  cases hfound : entries.find? (·.1 = key) with
  | none => simp [hfound] at h
  | some e =>
    have hkey : e.1 = key := by simpa using List.find?_some hfound
    have hmem := List.mem_of_find?_eq_some hfound
    rw [← hkey]
    exact hmem

namespace Acquire

variable {α β : Type} {D : Prop}

/-- A quality profile is resolved: none is asked for, it is given by its id, or the server lists it. -/
def ResolvesProfile (base : String) (log : Log) (profile : Value) : Prop :=
  profile = .null ∨ (Client.isById profile = true ∧ ∃ n, Client.idOf profile = .ok n) ∨
    log.Lists (base ++ "/qualityprofile") fun entries =>
      Client.normalName ((Entries.get? entries "name").getD (.text "")) = Client.normalName profile

/-- The profile that a server lists under a name. -/
def profileOfAnswer (service : String) (profile answer : Value) : Except Failure Value := do
  match ← (answer.orElse (.list [])).toItems.bind (Client.profileNamed? (Client.normalName profile)) with
  | some id => return id
  | none => throw (.profileNotFound profile.display service)

theorem profileOfAnswer_error {service base : String} {profile answer : Value} {call : Call}
    {reply : Reply} {e : Failure} (hget : call.method = "GET") (hnull : profile ≠ .null)
    (hid : Client.isById profile = false) (haccepts : reply.Accepts answer)
    (h : profileOfAnswer service profile answer = .error e) :
    (isRefusal e = true ∧ ¬ ResolvesProfile base [(call, reply)] profile) ∨ ¬ call.Expects answer := by
  by_cases hfits : call.Expects answer
  · obtain ⟨items, hitems, hmaps⟩ := hfits.items hget
    obtain ⟨found, hfound⟩ := Client.profileNamed?_ok (Client.normalName profile) hmaps
    simp only [profileOfAnswer, hitems, Except.bind, hfound] at h
    cases found with
    | some id => cases h
    | none =>
      obtain rfl := Except.error.inj h
      refine .inl ⟨rfl, ?_⟩
      rintro (rfl | ⟨hid', -⟩ | ⟨x, hx, -, -, items', entries, hlisted, hmem, hname⟩)
      · exact hnull rfl
      · rw [hid] at hid'
        cases hid'
      · obtain rfl := List.mem_singleton.1 hx
        obtain rfl := haccepts.unique hlisted
        obtain rfl := Except.ok.inj ((Value.toItems_list items').symm.trans hitems)
        exact Client.profileNamed?_none hfound hmem hname
  · exact .inr hfits

theorem profileOfAnswer_ok {service : String} {profile answer id : Value}
    (h : profileOfAnswer service profile answer = .ok id) :
    ∃ items entries, answer = .list items ∧ .map entries ∈ items ∧
      Client.normalName ((Entries.get? entries "name").getD (.text ""))
        = Client.normalName profile := by
  obtain ⟨found, hfound, h⟩ := ok_of_bind h
  obtain ⟨items, hitems, hfound⟩ := ok_of_bind hfound
  cases found with
  | none => cases h
  | some id' =>
    obtain ⟨entries, hmem, hname⟩ := Client.profileNamed?_some hfound
    exact ⟨items, entries, Value.list_of_toItems hitems hmem, hmem, hname⟩

theorem resolveProfile_byName (c : Client) {profile : Value} (hnull : profile ≠ .null)
    (hid : Client.isById profile = false) :
    c.resolveProfile profile = (do
      let answer ← c.request
        { method := "GET", url := c.baseUrl ++ "/qualityprofile", headers := c.headers false }
      ofResult (profileOfAnswer c.service profile answer)) := by
  unfold Client.resolveProfile
  split
  · exact absurd rfl hnull
  simp only [hid, Bool.false_eq_true, if_false]
  unfold Client.qualityProfiles Client.fetch profileOfAnswer
  simp only [Act.bind_assoc, pure_bind]
  congr 1
  funext answer
  cases (answer.orElse (.list [])).toItems.bind
      (Client.profileNamed? (Client.normalName profile)) with
  | error e => rfl
  | ok found => cases found <;> rfl

theorem prepares_resolveProfile (c : Client) {profile : Value}
    (hD : D → Client.isById profile = true → ∃ n, Client.idOf profile = .ok n) :
    (c.resolveProfile profile).Exchanges
      (Prepares D (fun log => ¬ ResolvesProfile c.baseUrl log profile) fun log _ =>
        ResolvesProfile c.baseUrl log profile) := by
  by_cases hnull : profile = .null
  · subst hnull
    exact Prepares.mono (prepares_pure Value.null) fun _ _ _ => .inl rfl
  by_cases hid : Client.isById profile = true
  · have hread : (ofResult (Client.idOf profile)).Exchanges (Prepares D
        (fun log => ¬ ResolvesProfile c.baseUrl log profile)
        fun log n => log = [] ∧ Client.idOf profile = .ok n) := prepares_ofResult fun e he hd => by
      obtain ⟨n, hn⟩ := hD hd hid
      cases hn.symm.trans he
    unfold Client.resolveProfile
    split
    · exact absurd rfl hnull
    rw [if_pos hid]
    refine Prepares.mono (Prepares.bind hread fun n => prepares_pure (Value.int n)) ?_
    rintro log _ ⟨n, _, _, -, ⟨-, hn⟩, -⟩
    exact .inr (.inl ⟨hid, n, hn⟩)
  · have hname : Client.isById profile = false := by simpa using hid
    rw [resolveProfile_byName c hnull hname]
    refine Prepares.mono (prepares_request c rfl fun reply answer e haccepts he =>
      profileOfAnswer_error rfl hnull hname haccepts he) ?_
    rintro log id ⟨reply, answer, rfl, haccepts, hread⟩
    obtain ⟨items, entries, rfl, hmem, hname⟩ := profileOfAnswer_ok hread
    exact .inr (.inr ⟨_, List.mem_singleton_self _, rfl, rfl, items, entries, haccepts, hmem, hname⟩)

/-- An act for each of some values, and for each of them something that its part of the log shows. -/
theorem prepares_mapM {f : α → Act β} {P : α → Log → Prop}
    (hmono : ∀ a (log log' : Log), log ⊆ log' → P a log → P a log')
    (hf : ∀ a, (f a).Exchanges (Prepares D (fun _ => False) fun log _ => P a log)) (l : List α) :
    (l.mapM f).Exchanges (Prepares D (fun _ => False) fun log _ => ∀ a ∈ l, P a log) := by
  induction l with
  | nil => exact Prepares.mono (prepares_pure []) fun _ _ _ => nofun
  | cons a l ih =>
    rw [List.mapM_cons]
    refine Prepares.mono (Prepares.bind (hf a) fun b =>
      Prepares.bind ih fun bs => prepares_pure (b :: bs)) ?_
    rintro log _ ⟨b, log₁, log₂, rfl, ha, bs, log₃, log₄, rfl, hl, rfl, -⟩ x hx
    rcases List.mem_cons.1 hx with rfl | hx
    · exact hmono _ _ _ (List.subset_append_left _ _) ha
    · refine hmono _ _ _ ?_ (hl x hx)
      rw [List.append_nil]
      exact List.subset_append_right _ _

/-- The id in the answer to a tag that was handed in. -/
def idOfAnswer (answer : Value) : Except Failure Value := do
  return Entries.get (← answer.toEntries) "id"

/-- How a label becomes known: it was known, or a tag is created for it. -/
theorem prepares_resolveLabel (c : Client) (known : Entries) (label : Value) :
    (c.resolveLabel known label).Exchanges (Prepares D (fun _ => False) fun log _ =>
      Entries.get known (Text.casefold label.display) ≠ .null ∨
        log.Creates (c.baseUrl ++ "/tag") label) := by
  unfold Client.resolveLabel
  split
  · have hread : ∀ (reply : Reply) v e, reply.Accepts v → idOfAnswer v = .error e →
        (isRefusal e = true ∧ False) ∨
          ¬ (c.submission "/tag" (.map [("label", .text label.display)])).Expects v := by
      intro reply v e _ he
      right
      rintro (hadds | ⟨entries, rfl⟩)
      · rw [Client.isAddition_tag] at hadds
        cases hadds
      · cases he
    have hsame : (fun created => do
        let entries ← ofResult created.toEntries
        return Entries.get entries "id" : Value → Act Value) = fun v => ofResult (idOfAnswer v) := by
      funext v
      cases v <;> rfl
    rw [hsame]
    refine Prepares.mono (prepares_request c (c.isAddition_tag _) hread) ?_
    rintro log id ⟨reply, v, rfl, haccepts, -⟩
    exact .inr ⟨_, List.mem_singleton_self _, rfl, rfl, rfl, v, haccepts⟩
  next hne => exact Prepares.mono (prepares_pure _) fun _ _ _ => .inl hne

/-- A tag is resolved: it is given by its id, listed by the server, or created there. -/
def ResolvesTag (base : String) (log : Log) (tag : Value) : Prop :=
  (Client.isById tag = true ∧ ∃ n, Client.idOf tag = .ok n) ∨
    log.Lists (base ++ "/tag") (fun entries =>
      Text.casefold ((Entries.get? entries "label").getD (.text "")).display
        = Text.casefold tag.display ∧ Entries.get entries "id" ≠ .null) ∨
    log.Creates (base ++ "/tag") tag

/-- The tags that a server lists. -/
theorem prepares_tagIds (c : Client) :
    (c.tags >>= fun listed => ofResult (listed.toItems.bind Client.tagIds)).Exchanges
      (Prepares D (fun _ => False) fun log known => ∀ label id, (label, id) ∈ known →
        log.Lists (c.baseUrl ++ "/tag") fun entries =>
          Text.casefold ((Entries.get? entries "label").getD (.text "")).display = label ∧
            Entries.get entries "id" = id) := by
  unfold Client.tags Client.fetch
  simp only [Act.bind_assoc, pure_bind]
  refine Prepares.mono (prepares_request c rfl ?_) ?_
  · intro reply answer e _ he
    right
    intro hfits
    obtain ⟨items, hitems, hmaps⟩ := Call.Expects.items hfits rfl
    obtain ⟨known, hknown⟩ := Client.tagIds_ok hmaps
    simp [hitems, Except.bind, hknown] at he
  · rintro log known ⟨reply, answer, rfl, haccepts, hread⟩ label id hpair
    obtain ⟨items, hitems, hread⟩ := ok_of_bind hread
    obtain ⟨entries, hmem, hlabel, hid⟩ := Client.mem_of_tagIds hread hpair
    obtain rfl := Value.list_of_toItems hitems hmem
    exact ⟨_, List.mem_singleton_self _, rfl, rfl, items, entries, haccepts, hmem, hlabel, hid⟩

theorem prepares_resolveTags (c : Client) {tags : List Value}
    (hD : D → ∀ tag ∈ tags, Client.isById tag = true → ∃ n, Client.idOf tag = .ok n) :
    (c.resolveTags tags).Exchanges (Prepares D (fun _ => False) fun log _ =>
      ∀ tag ∈ tags, ResolvesTag c.baseUrl log tag) := by
  have hids : (ofResult ((tags.filter Client.isById).mapM Client.idOf)).Exchanges
      (Prepares D (fun _ => False) fun log ids =>
        log = [] ∧ (tags.filter Client.isById).mapM Client.idOf = .ok ids) :=
    prepares_ofResult fun e he hd => by
      obtain ⟨tag, hmem, herror⟩ := error_of_mapM he
      obtain ⟨hmem, hid⟩ := List.mem_filter.1 hmem
      obtain ⟨n, hn⟩ := hD hd tag hmem hid
      cases hn.symm.trans herror
  have hgiven : ∀ {ids tag}, (tags.filter Client.isById).mapM Client.idOf = .ok ids → tag ∈ tags →
      Client.isById tag = true → Client.isById tag = true ∧ ∃ n, Client.idOf tag = .ok n := by
    intro ids tag hids htag hid
    obtain ⟨n, -, hn⟩ := exists_mem_of_mapM_ok hids (List.mem_filter.2 ⟨htag, hid⟩)
    exact ⟨hid, n, hn⟩
  have hmono : ∀ known label (log log' : Log), log ⊆ log' →
      (Entries.get known (Text.casefold label.display) ≠ .null ∨
        log.Creates (c.baseUrl ++ "/tag") label) →
      Entries.get known (Text.casefold label.display) ≠ .null ∨
        log'.Creates (c.baseUrl ++ "/tag") label :=
    fun _ _ _ _ hsub h => h.imp_right fun h => h.mono hsub
  unfold Client.resolveTags
  by_cases hlabels : (tags.filter (!Client.isById ·)).isEmpty = true
  · simp only [hlabels, if_true]
    refine Prepares.mono (Prepares.bind hids fun ids => prepares_pure (ids.map Value.int)) ?_
    rintro log _ ⟨ids, _, _, -, ⟨-, hids⟩, -⟩ tag htag
    by_cases hid : Client.isById tag = true
    · exact .inl (hgiven hids htag hid)
    · have hmem : tag ∈ tags.filter (!Client.isById ·) :=
        List.mem_filter.2 ⟨htag, by simpa using hid⟩
      rw [List.isEmpty_iff.1 hlabels] at hmem
      cases hmem
  · simp only [hlabels, Bool.false_eq_true, if_false]
    simp only [← Act.bind_assoc c.tags]
    refine Prepares.mono (Prepares.bind hids fun ids => Prepares.bind (prepares_tagIds c) fun known =>
      Prepares.bind (prepares_mapM (hmono _)
        (prepares_resolveLabel c (Entries.ofPairs known)) _) fun more =>
          prepares_pure (ids.map Value.int ++ more)) ?_
    rintro _ _ ⟨ids, _, _, rfl, ⟨rfl, hids⟩, known, log₁, _, rfl, hlisted, more, log₂, _, rfl, hmore, rfl, -⟩
      tag htag
    rw [List.nil_append, List.append_nil]
    by_cases hid : Client.isById tag = true
    · exact .inl (hgiven hids htag hid)
    right
    rcases hmore tag (List.mem_filter.2 ⟨htag, by simpa using hid⟩) with hknown | hcreated
    · left
      have hpair := Entries.mem_ofPairs (Entries.mem_of_get hknown)
      exact ((hlisted _ _ hpair).mono (List.subset_append_left _ _)).imp
        fun entries h => ⟨h.1, by rw [h.2]; exact hknown⟩
    · exact .inr (hcreated.mono (List.subset_append_right _ _))

/-! ## Additions -/

/-- The numbers that are needed can be read. -/
structure Readable (item : Item) (p : Placement) (i : Instance) : Prop where
  profile : Client.isById (profileOf p i) = true → ∃ n, Client.idOf (profileOf p i) = .ok n
  tags : ∀ tag ∈ tagsOf p i, Client.isById tag = true → ∃ n, Client.idOf tag = .ok n
  guid : ∃ id, item.guidId (guidType i) = .ok id

/-- All that goes into an addition is there. -/
structure Resolved (item : Item) (p : Placement) (i : Instance) (base : String) (log : Log) : Prop where
  guid : ∃ id, item.guidId (guidType i) = .ok (some id)
  profile : ResolvesProfile base log (profileOf p i)
  tags : ∀ tag ∈ tagsOf p i, ResolvesTag base log tag

theorem ResolvesProfile.mono {base : String} {log log' : Log} {profile : Value}
    (h : ResolvesProfile base log profile) (hsub : log ⊆ log') : ResolvesProfile base log' profile :=
  h.imp_right fun h => h.imp_right fun h => h.mono hsub

theorem ResolvesTag.mono {base : String} {log log' : Log} {tag : Value}
    (h : ResolvesTag base log tag) (hsub : log ⊆ log') : ResolvesTag base log' tag :=
  h.imp_right fun h => h.imp (fun h => h.mono hsub) fun h => h.mono hsub

theorem Resolved.mono {item : Item} {p : Placement} {i : Instance} {base : String} {log log' : Log}
    (h : Resolved item p i base log) (hsub : log ⊆ log') : Resolved item p i base log' where
  guid := h.guid
  profile := h.profile.mono hsub
  tags tag htag := (h.tags tag htag).mono hsub

variable {item : Item} {p : Placement} {i : Instance}

theorem guid_of_payload {profile tags body : Value}
    (h : payload item p i profile tags = .ok (some body)) :
    ∃ id, item.guidId (guidType i) = .ok (some id) := by
  obtain ⟨id, hid, h⟩ := ok_of_bind h
  cases id with
  | none => cases h
  | some id => exact ⟨id, hid⟩

theorem no_guid_of_payload {profile tags : Value} (h : payload item p i profile tags = .ok none) :
    item.guidId (guidType i) = .ok none := by
  obtain ⟨id, hid, h⟩ := ok_of_bind h
  cases id with
  | none => exact hid
  | some id => cases h

theorem guid_of_payload_error {profile tags : Value} {e : Failure}
    (h : payload item p i profile tags = .error e) : item.guidId (guidType i) = .error e := by
  rcases error_of_bind h with hid | ⟨id, -, h⟩
  · exact hid
  · cases id <;> cases h

/-- What is handed in, if anything, after the profile and the tags were resolved. -/
def prepare (item : Item) (p : Placement) (i : Instance) (c : Client) : Act (Option Value) := do
  let profile ← c.resolveProfile (profileOf p i)
  let tags ← c.resolveTags (tagsOf p i)
  ofResult (payload item p i profile (.list tags))

theorem prepares_prepare (c : Client) :
    (prepare item p i c).Exchanges (Prepares (Readable item p i)
      (fun log => ¬ ResolvesProfile c.baseUrl log (profileOf p i)) fun log body? =>
        (∀ body, body? = some body → Resolved item p i c.baseUrl log) ∧
          (body? = none → item.guidId (guidType i) = .ok none)) := by
  refine Prepares.mono (Prepares.bind (prepares_resolveProfile c Readable.profile) fun profile =>
    Prepares.bind (prepares_resolveTags c Readable.tags) fun tags =>
      prepares_ofResult (x := payload item p i profile (.list tags)) fun e he => ?_) ?_
  · rintro ⟨-, -, id, hid⟩
    cases hid.symm.trans (guid_of_payload_error he)
  · rintro _ body? ⟨profile, log₁, _, rfl, hprofile, tags, log₂, _, rfl, htags, rfl, hbody⟩
    rw [List.append_nil]
    refine ⟨fun body hsome => ?_, fun hnone => no_guid_of_payload (hnone ▸ hbody)⟩
    exact ⟨guid_of_payload (hsome ▸ hbody), hprofile.mono (List.subset_append_left _ _),
      fun tag htag => (htags tag htag).mono (List.subset_append_right _ _)⟩

/-- The path at which content is handed in. -/
def path (i : Instance) : String := if i.servesMovies then "/movie" else "/series"

/-- Hands in what was prepared. -/
def finish (item : Item) (i : Instance) (c : Client) : Option Value → Act Bool
  | none => cannot item ("no " ++ guidType i ++ " GUID")
  | some body => do
    let _ ← c.submit (path i) body
    Act.info ("Added '" ++ item.title.display ++ "' to " ++ i.type.display ++ " '"
      ++ i.name.display ++ "'")
    return true

theorem handIn_eq (c : Client) :
    handIn item p i c = prepare item p i c >>= finish item i c := by
  unfold handIn prepare
  simp only [Act.bind_assoc]
  congr 1
  funext profile
  congr 1
  funext tags
  congr 1
  funext body?
  cases body? with
  | none => rfl
  | some body =>
    unfold finish path Client.addMovie Client.addShow
    cases i.servesMovies <;> rfl

theorem exchanges_cannot (item : Item) (reason : String) :
    (cannot item reason).Exchanges fun log r => log = [] ∧ r = .ok false :=
  (exchanges_note _ _).after (exchanges_pure false)

/-- Nothing is handed in, or all that there is to say is the reply to that. -/
theorem exchanges_finish (c : Client) (body? : Option Value) :
    (finish item i c body?).Exchanges fun log r =>
      (body? = none ∧ log = [] ∧ r = .ok false) ∨
        ∃ body reply, body? = some body ∧ log = [(c.submission (path i) body, reply)] ∧
          r = (reply.content (c.baseUrl ++ path i)).map fun _ => true := by
  cases body? with
  | none => exact (exchanges_cannot _ _).mono fun log r h => .inl ⟨rfl, h⟩
  | some body =>
    have hrest : ∀ v : Value, (do
        Act.info ("Added '" ++ item.title.display ++ "' to " ++ i.type.display ++ " '"
          ++ i.name.display ++ "'")
        return true : Act Bool).Exchanges fun log r => log = [] ∧ r = .ok true :=
      fun v => (exchanges_note _ _).after (exchanges_pure true)
    refine ((c.exchanges_request (c.submission (path i) body)).bind hrest).mono ?_
    rintro log r (⟨e, rfl, reply, rfl, hreply⟩ | ⟨v, _, _, rfl, ⟨reply, rfl, hreply⟩, rfl, rfl⟩)
    · exact .inr ⟨body, reply, rfl, rfl, congrArg (Except.map fun _ => true) hreply⟩
    · exact .inr ⟨body, reply, rfl, rfl, congrArg (Except.map fun _ => true) hreply⟩

theorem isAddition_path (c : Client) (body : Value) :
    (c.submission (path i) body).isAddition = true := by
  unfold path
  split
  · exact c.isAddition_movie body
  · exact c.isAddition_series body

/-- What calls are made and what is reported of them. -/
structure Sends (item : Item) (p : Placement) (i : Instance) (base : String) (log : Log)
    (r : Except Failure Bool) : Prop where
  /-- The content is handed in at most once, -/
  once : log.countP (·.1.isAddition) ≤ 1
  /-- at the instance, -/
  address : ∀ e ∈ log, e.1.isAddition = true → e.1.url = base ++ path i
  /-- after everything was resolved; -/
  resolved : (∃ e ∈ log, e.1.isAddition = true) → Resolved item p i base log
  /-- it is handed in if nothing is missing, and no call is refused or misunderstood; -/
  sent : Readable item p i → (∃ id, item.guidId (guidType i) = .ok (some id)) →
    ResolvesProfile base log (profileOf p i) →
    (∀ e ∈ log, (∃ v, e.2.Accepts v) ∧ ¬ e.2.IsOdd e.1) → ∃ e ∈ log, e.1.isAddition = true
  /-- and it is reported as added exactly if that call was taken. -/
  taken : r = .ok true ↔ ∃ e ∈ log, e.1.isAddition = true ∧ ∃ v, e.2.Accepts v

section Additions

variable {base : String} {log : Log} {r : Except Failure Bool}

/-- Nothing is handed in, and nothing is said to be. -/
theorem sends_nothing (hlog : ∀ e ∈ log, e.1.isAddition = false) (hr : r ≠ .ok true)
    (hwhy : Readable item p i → (∃ id, item.guidId (guidType i) = .ok (some id)) →
      ResolvesProfile base log (profileOf p i) →
      ¬ ∀ e ∈ log, (∃ v, e.2.Accepts v) ∧ ¬ e.2.IsOdd e.1) :
    Sends item p i base log r := by
  have hnone : ∀ e ∈ log, ¬ e.1.isAddition = true := fun e he => by simp [hlog e he]
  exact {
    once := by
      rw [List.countP_eq_zero.2 hnone]
      omega
    address := fun e he h => absurd h (hnone e he)
    resolved := fun ⟨e, he, h⟩ => absurd h (hnone e he)
    sent := fun hreadable hguid hprofile hfine => absurd hfine (hwhy hreadable hguid hprofile)
    taken := ⟨fun h => absurd h hr, fun ⟨e, he, h, _⟩ => absurd h (hnone e he)⟩ }

/-- The content is handed in at the end. -/
theorem sends_addition {call : Call} {reply : Reply} (hlog : ∀ e ∈ log, e.1.isAddition = false)
    (hcall : call.isAddition = true) (hurl : call.url = base ++ path i)
    (hresolved : Resolved item p i base log) (hr : r = .ok true ↔ ∃ v, reply.Accepts v) :
    Sends item p i base (log ++ [(call, reply)]) r := by
  have hlast : ∀ e ∈ log ++ [(call, reply)], e.1.isAddition = true → e = (call, reply) := by
    intro e he h
    rcases List.mem_append.1 he with he | he
    · rw [hlog e he] at h
      cases h
    · exact List.mem_singleton.1 he
  refine ⟨?_, ?_, ?_, ?_, ?_⟩
  · have hnone : log.countP (·.1.isAddition) = 0 :=
      List.countP_eq_zero.2 fun e he => by simp [hlog e he]
    simp [List.countP_append, hnone, hcall]
  · intro e he h
    rw [hlast e he h]
    exact hurl
  · intro _
    exact hresolved.mono (List.subset_append_left _ _)
  · exact fun _ _ _ _ => ⟨(call, reply), by simp, hcall⟩
  · rw [hr]
    constructor
    · exact fun haccepts => ⟨(call, reply), by simp, hcall, haccepts⟩
    · rintro ⟨e, he, h, haccepts⟩
      rwa [hlast e he h] at haccepts

end Additions

theorem exchanges_handIn (c : Client) :
    (handIn item p i c).Exchanges fun log r => Sends item p i c.baseUrl log r ∧
      ∀ e, r = .error e → isRefusal e = true ∨ ¬ Readable item p i ∨ ∃ x ∈ log, x.2.IsOdd x.1 := by
  rw [handIn_eq]
  refine ((prepares_prepare c).bind (exchanges_finish c)).mono ?_
  rintro log r (⟨e, rfl, h⟩ | ⟨body?, log₁, log₂, rfl, h₁, h₂⟩)
  · have hcause := h.error e rfl
    refine ⟨sends_nothing h.noAddition nofun fun hreadable _ hprofile hfine => ?_, ?_⟩
    · rcases hcause with ⟨-, ⟨x, hx, hrefused⟩ | hmissing⟩ | hunreadable | ⟨x, hx, hodd⟩
      · obtain ⟨v, hv⟩ := (hfine x hx).1
        exact hrefused v hv
      · exact hmissing hprofile
      · exact hunreadable hreadable
      · exact (hfine x hx).2 hodd
    · rintro _ ⟨⟩
      exact hcause.imp_left And.left
  rcases h₂ with ⟨rfl, rfl, rfl⟩ | ⟨body, reply, rfl, rfl, rfl⟩
  · have hguid := (h₁.ok none rfl).2.2 rfl
    rw [List.append_nil]
    refine ⟨sends_nothing h₁.noAddition nofun fun _ ⟨id, hid⟩ => ?_, nofun⟩
    cases hguid.symm.trans hid
  have hresolved := (h₁.ok _ rfl).2.1 body rfl
  have hadds := isAddition_path (i := i) c body
  rcases reply.content_cases (c.baseUrl ++ path i) with ⟨v, hv, haccepts⟩ | ⟨e, he, hnone, hcause⟩
  · rw [hv]
    exact ⟨sends_addition h₁.noAddition hadds rfl hresolved ⟨fun _ => ⟨v, haccepts⟩, fun _ => rfl⟩,
      nofun⟩
  · rw [he]
    refine ⟨sends_addition h₁.noAddition hadds rfl hresolved
      ⟨nofun, fun ⟨v, haccepts⟩ => absurd haccepts (hnone v)⟩, ?_⟩
    rintro _ ⟨⟩
    rcases hcause with ⟨fault, rfl⟩ | hillegible
    · exact .inl rfl
    · exact .inr (.inr ⟨(c.submission (path i) body, reply), by simp, .inl hillegible⟩)

/-- What an attempt to add content comes to. -/
structure Reports (item : Item) (p : Placement) (i : Instance) (base : String) (log : Log)
    (r : Except Failure Bool) : Prop extends Sends item p i base log r where
  /-- It fails only over digits that are no number and over answers of another shape. -/
  returns : ∀ e, r = .error e → ¬ Readable item p i ∨ ∃ x ∈ log, x.2.IsOdd x.1

theorem exchanges_attempt (item : Item) (p : Placement) (i : Instance) (c : Client) :
    (tryHandIn item i (handIn item p i c)).Exchanges (Reports item p i c.baseUrl) := by
  refine ((exchanges_handIn c).tryCatch fun e => exchanges_catch _ _ _ _ e).mono ?_
  rintro log r (⟨b, rfl, hsends, -⟩ | ⟨e, log, _, rfl, ⟨hsends, herror⟩, rfl, rfl⟩)
  · exact ⟨hsends, nofun⟩
  rw [List.append_nil]
  have hnot : ¬ ∃ x ∈ log, x.1.isAddition = true ∧ ∃ v, x.2.Accepts v := by
    rw [← hsends.taken]
    exact nofun
  cases hrefusal : isRefusal e with
  | true => exact ⟨{ hsends with taken := by simp [hnot] }, nofun⟩
  | false =>
    refine ⟨hsends, ?_⟩
    rintro _ ⟨⟩
    rcases herror e rfl with h | h
    · rw [hrefusal] at h
      cases h
    · exact h

section Runs

variable {s : Session} (ho : s.outages = [])
include ho

theorem acquire_unused {found : Option Instance}
    (hfound : s.store.getInstance p.instanceId p.instanceType = .ok found)
    (hunused : ∀ i, found = some i → i.enabled = false) :
    acquire false item p s = cannot item
      ("instance " ++ Number.integerText p.instanceId ++ " is missing or disabled") s := by
  have hread : getInstance p.instanceId p.instanceType s = (.ok found, s) := read_of_ok ho hfound
  unfold acquire
  rw [bind_of_ok hread]
  cases found with
  | none => rfl
  | some i => simp [hunused i rfl]

theorem acquire_used (hfound : s.store.getInstance p.instanceId p.instanceType = .ok (some i))
    (hused : i.enabled = true) :
    acquire false item p s = (clientFor i >>= fun c => tryHandIn item i (handIn item p i c)) s := by
  have hread : getInstance p.instanceId p.instanceType s = (.ok (some i), s) := read_of_ok ho hfound
  unfold acquire
  rw [bind_of_ok hread]
  simp [hused]

end Runs

/-- Content that is to be added: whatever the servers reply, it is handed in at most once, at the
instance, after its profile, its tags and its identifier were resolved, and it is handed in if nothing
of that is missing and no call is refused. It is reported as added exactly if the call was taken with
JSON as answer. At an instance that is missing or disabled nothing is sent. -/
theorem acquire_reports (item : Item) (p : Placement) {s : Session} (ho : s.outages = [])
    {found : Option Instance} (hfound : s.store.getInstance p.instanceId p.instanceType = .ok found) :
    ∃ log, s.Exchanged log (acquire false item p s).2 ∧
      ((∀ i, found = some i → i.enabled = false) → log = [] ∧ (acquire false item p s).1 = .ok false) ∧
      ∀ i, found = some i → i.enabled = true → ∃ c, (clientFor i s).1 = .ok c ∧
        Reports item p i c.baseUrl log (acquire false item p s).1 := by
  by_cases hused : ∃ i, found = some i ∧ i.enabled = true
  · obtain ⟨i, rfl, hused⟩ := hused
    obtain ⟨_, hconnected, rfl, c, hc⟩ := exchanges_clientFor i s
    obtain ⟨log, hlog, hreports⟩ := exchanges_attempt item p i c (clientFor i s).2
    have hclient : clientFor i s = (.ok c, (clientFor i s).2) := Prod.ext hc rfl
    rw [acquire_used ho hfound hused, bind_of_ok hclient]
    refine ⟨log, hconnected.trans hlog, fun hunused => ?_, ?_⟩
    · rw [hunused i rfl] at hused
      cases hused
    · rintro _ ⟨⟩ -
      exact ⟨c, hc, hreports⟩
  · have hunused : ∀ i, found = some i → i.enabled = false :=
      fun i hi => Bool.eq_false_iff.2 fun h => hused ⟨i, hi, h⟩
    rw [acquire_unused ho hfound hunused]
    obtain ⟨log, hlog, hnone, hr⟩ := exchanges_cannot item
      ("instance " ++ Number.integerText p.instanceId ++ " is missing or disabled") s
    exact ⟨log, hlog, fun _ => ⟨hnone, hr⟩, fun i hi h => absurd ⟨i, hi, h⟩ hused⟩

/-- For instance, the profile is listed, the label is not, and the content is handed in after a tag was
created for it. -/
theorem acquire_reports_created_tag :
    let s : Session := {
      now := .ofDate ⟨738959⟩
      network := [
        ("GET http://radarr/api/v3/qualityprofile", [.answer 200 "OK" "[\x7b\"id\": 4, \"name\": \"HD\"\x7d]"]),
        ("GET http://radarr/api/v3/tag", [.answer 200 "OK" "[]"]),
        ("POST http://radarr/api/v3/tag", [.answer 201 "Created" "\x7b\"id\": 9\x7d"]),
        ("POST http://radarr/api/v3/movie", [.answer 201 "Created" "\x7b\x7d"])]
      store := { instances := [{ id := 1, type := .text "radarr", baseUrl := "http://radarr" }] } }
    let x := acquire false { title := .text "Dune", guids := ["tmdb:438631"] }
      { instanceId := 1, qualityProfile := .text "hd", tags := [.text "new"] } s
    ∃ log, s.Exchanged log x.2 ∧ log.length = 4 ∧ x.1 = .ok true ∧
      ∃ e ∈ log, e.1.isAddition = true ∧ ∃ v, e.2.Accepts v := by
  intro s x
  have hfound : s.store.getInstance 1 .null = .ok s.store.instances.head? :=
    ok_of_toOption (by decide +kernel)
  obtain ⟨log, hlog, -, hreports⟩ := acquire_reports
    { title := .text "Dune", guids := ["tmdb:438631"] }
    { instanceId := 1, qualityProfile := .text "hd", tags := [.text "new"] } (s := s) rfl hfound
  obtain ⟨c, -, hc⟩ := hreports _ rfl rfl
  have htrue : x.1 = .ok true := ok_of_toOption (by decide +kernel)
  have hcalls : x.2.calls.length = 4 := by decide +kernel
  refine ⟨log, hlog, ?_, htrue, hc.taken.1 htrue⟩
  have hlength := congrArg List.length hlog.calls
  rw [show _ = 4 from hcalls, List.length_append, List.length_map] at hlength
  exact (hlength.trans (Nat.zero_add _)).symm

/-- Content is reported as refused although it was taken, because the answer is no JSON; and digits
that are no number make the whole fail, as does a list of profiles that holds something else. -/
theorem acquire_misreports :
    let i : Instance := { id := 1, type := .text "radarr", baseUrl := "http://radarr" }
    let s (network : Network) : Session :=
      { now := .ofDate ⟨738959⟩, network, store := { instances := [i] } }
    let item (guid : String) : Item := { title := .text "Dune", guids := [guid] }
    let taken := acquire false (item "tmdb:438631") { instanceId := 1 }
      (s [("POST http://radarr/api/v3/movie", [.answer 201 "Created" "created"])])
    (taken.1.toOption = some false ∧ taken.2.calls.map Call.isAddition = [true]) ∧
      (acquire false (item "tmdb:²") { instanceId := 1 } (s [])).1.toOption = none ∧
      (acquire false (item "tmdb:438631") { instanceId := 1, qualityProfile := .text "HD" }
        (s [("GET http://radarr/api/v3/qualityprofile", [.answer 200 "OK" "[5]"])])).1.toOption
        = none := by
  decide +kernel

end Acquire

end Watchgate
