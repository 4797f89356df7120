import Watchgate.Proofs.Media.Exchanges
import Watchgate.Proofs.Media.Steady
import Watchgate.Proofs.Checks
import Watchgate.Service

/-!
# When a lookup ends with an answer

A lookup reads the identifier of the item and the instances, and then asks one of them. Whatever goes
wrong on the way there and back is caught: an error status, a broken exchange, a text that is no JSON.
What is made of a proper JSON text is not: the lookup ends exactly if the text has the shape that the
search expects. Where it ends, the item at most gets other metadata, and routing goes on as it would with
that item and without any lookups.
-/

namespace Watchgate

open Act

/-! ## Ordinary replies -/

/-- An ordinary network gives ordinary replies. -/
theorem Network.Plays.ordinary {n n' : Network} {log : Log} (h : n.Plays log n') (hn : n.Ordinary) :
    ∀ e ∈ log, ∀ f, e.2 ≠ .failed f := by
  induction h with
  | nil => exact List.forall_mem_nil _
  | cons c _ ih =>
    obtain ⟨hreply, hrest⟩ := Network.ordinary_reply (Network.key c) hn
    intro e he
    rcases List.mem_cons.1 he with rfl | he
    · exact hreply
    · exact ih hrest e he

/-- Reading JSON fails because the text is none, or over a number of too many digits. -/
theorem Json.error_of_read {s : String} {e : Failure} (h : Json.read s = .error e) :
    (∃ fault, e = .json fault) ∨ ∃ fault, e = .value fault := by
  simp only [Json.read] at h
  split at h
  next stop _ =>
    obtain rfl := Except.error.inj h
    cases stop with
    | fault reason left => exact .inl ⟨_, rfl⟩
    | digits n => exact .inr ⟨_, rfl⟩
  next =>
    split at h
    · cases h
    · obtain rfl := Except.error.inj h
      exact .inl ⟨_, rfl⟩

namespace Lookup

/-- All that can be wrong with an ordinary reply is caught. -/
theorem caught_of_content {r : Reply} (hr : ∀ f, r ≠ .failed f) {url : String} {e : Failure}
    (h : r.content url = .error e) : isExchangeFailure e = true := by
  rcases error_of_bind h with hbody | ⟨body, -, hread⟩
  · cases r with
    | answer status phrase body =>
      simp only [Client.bodyOf] at hbody
      split at hbody
      · obtain rfl := Except.error.inj hbody
        rfl
      · cases hbody
    | broken kind reason =>
      obtain rfl := Except.error.inj hbody
      rfl
    | failed f => exact absurd rfl (hr f)
  · unfold Client.readBody at hread
    cases hjson : Json.read body with
    | ok v =>
      rw [hjson] at hread
      cases hread
    | error e' =>
      rcases Json.error_of_read hjson with ⟨fault, rfl⟩ | ⟨fault, rfl⟩
      all_goals
        rw [hjson] at hread
        obtain rfl := Except.error.inj hread
        rfl

/-! ## The shape of an answer -/

variable {α β : Type}

/-- Something is read exactly if `P` holds, and what goes wrong otherwise is not caught. -/
def Reads (x : Except Failure α) (P : Prop) : Prop :=
  ((∃ a, x = .ok a) ↔ P) ∧ ∀ e, x = .error e → isExchangeFailure e = false

theorem reads_ok (a : α) : Reads (.ok a) True := ⟨⟨fun _ => trivial, fun _ => ⟨a, rfl⟩⟩, nofun⟩

theorem reads_error {e : Failure} {P : Prop} (he : isExchangeFailure e = false) (hp : ¬ P) :
    Reads (.error e : Except Failure α) P := by
  refine ⟨⟨nofun, fun h => absurd h hp⟩, ?_⟩
  rintro _ ⟨⟩
  exact he

theorem Reads.congr {x : Except Failure α} {P Q : Prop} (h : Reads x P) (hpq : P ↔ Q) : Reads x Q :=
  ⟨h.1.trans hpq, h.2⟩

theorem Reads.bind {x : Except Failure α} {f : α → Except Failure β} {P Q : Prop} (hx : Reads x P)
    (hf : ∀ a, Reads (f a) Q) : Reads (x >>= f) (P ∧ Q) := by
  cases x with
  | error e => exact reads_error (hx.2 e rfl) fun h => nomatch hx.1.2 h.1
  | ok a => exact (hf a).congr ⟨fun h => ⟨hx.1.1 ⟨a, rfl⟩, h⟩, And.right⟩

theorem Reads.map {x : Except Failure α} {P : Prop} (hx : Reads x P) (f : α → β) :
    Reads (x >>= fun a => pure (f a)) P :=
  (hx.bind fun a => reads_ok (f a)).congr (and_iff_left trivial)

/-- A value that can be gone through, or that counts as nothing. -/
def IsSeries (v : Value) : Prop :=
  v.truthy = true → (∃ items, v = .list items) ∨ (∃ s, v = .text s) ∨ ∃ entries, v = .map entries

theorem reads_itemsOrNone (v : Value) : Reads v.toItemsOrNone (IsSeries v) := by
  unfold Value.toItemsOrNone IsSeries
  by_cases ht : v.truthy = true
  · rw [if_pos ht]
    cases v with
    | list items => exact (reads_ok _).congr (by simp)
    | text s => exact (reads_ok _).congr (by simp)
    | map entries => exact (reads_ok _).congr (by simp)
    | _ => exact reads_error rfl fun h => by simpa using h ht
  · rw [if_neg ht]
    exact (reads_ok _).congr (by simp [ht])

theorem reads_decodeWith (idKey : String) (entries : Entries) :
    Reads (Found.decodeWith idKey entries) (IsSeries (Entries.get entries "genres")) :=
  (reads_itemsOrNone _).map _

theorem reads_decodeMovie (v : Value) :
    Reads (Found.decodeMovie v)
      (∃ entries, v = .map entries ∧ IsSeries (Entries.get entries "genres")) := by
  cases v with
  | map entries => exact (reads_decodeWith "tmdbId" entries).congr (by simp)
  | _ => exact reads_error rfl nofun

theorem reads_decodeShow (v : Value) :
    Reads (Found.decodeShow v) (∃ entries, v = .map entries ∧
      IsSeries (Entries.get entries "genres") ∧ IsSeries (Entries.get entries "seasons")) := by
  cases v with
  | map entries =>
    have hseasons : Reads (seasonNumbers (Entries.get entries "seasons"))
        (IsSeries (Entries.get entries "seasons")) := (reads_itemsOrNone _).map _
    exact ((reads_decodeWith "tvdbId" entries).bind fun found => hseasons.map _).congr (by simp)
  | _ => exact reads_error rfl nofun

/-- The movie in an answer, which may be the first of a list. -/
def movieIn : Value → Value
  | .list items => items.headD .null
  | v => v

/-- What a search may answer: nothing, or a mapping whose genres, and seasons for a show, are series. A
show comes in a list. -/
def IsAnswer (isMovie : Bool) (v : Value) : Prop :=
  if isMovie then
    (movieIn v).truthy = true →
      ∃ entries, movieIn v = .map entries ∧ IsSeries (Entries.get entries "genres")
  else
    v.truthy = true → ∃ entries rest, v = .list (.map entries :: rest) ∧
      IsSeries (Entries.get entries "genres") ∧ IsSeries (Entries.get entries "seasons")

/-- What is found in the answer to a search. -/
def foundIn (isMovie : Bool) (v : Value) : Except Failure (Option Found) :=
  if isMovie then
    if (movieIn v).truthy then (Found.decodeMovie (movieIn v)).map some else .ok none
  else if v.truthy then do
    return some (← Found.decodeShow (← Client.firstResult v))
  else .ok none

theorem reads_foundIn (isMovie : Bool) (v : Value) : Reads (foundIn isMovie v) (IsAnswer isMovie v) := by
  unfold foundIn IsAnswer
  cases isMovie with
  | true =>
    simp only [if_true]
    by_cases ht : (movieIn v).truthy = true
    · rw [if_pos ht]
      refine Reads.congr ?_ (forall_prop_of_true ht).symm
      exact (reads_decodeMovie _).map some
    · rw [if_neg ht]
      exact (reads_ok none).congr (by simp [ht])
  | false =>
    simp only [Bool.false_eq_true, if_false]
    by_cases ht : v.truthy = true
    · rw [if_pos ht]
      refine Reads.congr ?_ (forall_prop_of_true ht).symm
      cases v with
      | list items =>
        cases items with
        | nil => cases ht
        | cons x rest =>
          refine ((reads_decodeShow x).map some).congr ?_
          simp
      | _ => exact reads_error rfl nofun
    · rw [if_neg ht]
      exact (reads_ok none).congr (by simp [ht])

/-- The answer tells of something. -/
def HasResult (isMovie : Bool) (v : Value) : Prop :=
  (if isMovie then movieIn v else v).truthy = true

theorem isSome_iff_of_foundIn {isMovie : Bool} {v : Value} {found : Option Found}
    (h : foundIn isMovie v = .ok found) : found.isSome = true ↔ HasResult isMovie v := by
  unfold foundIn at h
  unfold HasResult
  cases isMovie with
  | true =>
    simp only [if_true] at h ⊢
    split at h
    next ht =>
      obtain ⟨f, -, rfl⟩ := ok_of_map h
      simp [ht]
    next ht =>
      obtain rfl := Except.ok.inj h
      simp [ht]
  | false =>
    simp only [Bool.false_eq_true, if_false] at h ⊢
    split at h
    next ht =>
      obtain ⟨first, -, h⟩ := ok_of_bind h
      obtain ⟨f, -, h⟩ := ok_of_bind h
      obtain rfl := pure_ok h
      simp [ht]
    next ht =>
      obtain rfl := Except.ok.inj h
      simp [ht]

/-! ## Searches -/

theorem search_eq (isMovie : Bool) (c : Client) (id : Int) :
    ∃ call, search isMovie c id = c.request call >>= fun v => ofResult (foundIn isMovie v) := by
  cases isMovie with
  | true =>
    refine ⟨_, congrArg (c.request _ >>= ·) (funext fun v => ?_)⟩
    change (if (movieIn v).truthy = true then do
        return some (← ofResult (Found.decodeMovie (movieIn v)))
      else pure none) = ofResult (foundIn true v)
    simp only [foundIn, if_true]
    by_cases ht : (movieIn v).truthy = true
    · rw [if_pos ht, if_pos ht]
      cases Found.decodeMovie (movieIn v) <;> rfl
    · rw [if_neg ht, if_neg ht]
      rfl
  | false =>
    refine ⟨_, congrArg (c.request _ >>= ·) (funext fun v => ?_)⟩
    change (if v.truthy = true then do
        let first ← ofResult (Client.firstResult v)
        return some (← ofResult (Found.decodeShow first))
      else pure none) = ofResult (foundIn false v)
    simp only [foundIn, Bool.false_eq_true, if_false]
    by_cases ht : v.truthy = true
    · rw [if_pos ht, if_pos ht]
      cases Client.firstResult v with
      | error e => rfl
      | ok first =>
        change (ofResult (Found.decodeShow first) >>= fun found => pure (some found))
          = ofResult (Found.decodeShow first >>= fun found => pure (some found))
        cases Found.decodeShow first <;> rfl
    · rw [if_neg ht, if_neg ht]
      rfl

/-- A search is one exchange, and what is found in its answer. -/
theorem exchanges_search (isMovie : Bool) (c : Client) (id : Int) :
    (search isMovie c id).Exchanges fun log r => ∃ call reply, log = [(call, reply)] ∧
      r = (reply.content call.url).bind (foundIn isMovie) := by
  obtain ⟨call, hcall⟩ := search_eq isMovie c id
  rw [hcall]
  refine ((c.exchanges_request call).bind fun v => exchanges_ofResult (foundIn isMovie v)).mono ?_
  rintro log r (⟨e, rfl, reply, rfl, hreply⟩ | ⟨v, _, _, rfl, ⟨reply, rfl, hreply⟩, rfl, rfl⟩)
  · exact ⟨call, reply, rfl, by rw [← hreply]; rfl⟩
  · exact ⟨call, reply, rfl, by rw [← hreply]; rfl⟩

/-- A search that is tried gives what is in the answer, and nothing if the call was not taken. -/
theorem exchanges_trySearch (title : Value) (isMovie : Bool) (c : Client) (id : Int) :
    (trySearch title (search isMovie c id)).Exchanges fun log r => ∃ call reply,
      log = [(call, reply)] ∧ ((∀ f, reply ≠ .failed f) →
        (∃ v, reply.Accepts v ∧ r.map Option.join = foundIn isMovie v) ∨
          (∀ v, ¬ reply.Accepts v) ∧ r = .ok none) := by
  refine (((exchanges_search isMovie c id).map some).tryCatch
    fun e => exchanges_catch _ _ _ _ e).mono ?_
  rintro log r (⟨_, rfl, r, ⟨call, reply, rfl, rfl⟩, hr⟩ |
    ⟨e, _, _, rfl, ⟨r, ⟨call, reply, rfl, rfl⟩, hr⟩, rfl, rfl⟩)
  · obtain ⟨found, hfound, rfl⟩ := ok_of_map hr.symm
    refine ⟨call, reply, rfl, fun _ => .inl ?_⟩
    obtain ⟨v, hv, hfound⟩ := ok_of_bind hfound
    rcases reply.content_cases call.url with ⟨v', hv', haccepts⟩ | ⟨e, he, -⟩
    · obtain rfl := Except.ok.inj (hv.symm.trans hv')
      exact ⟨v, haccepts, hfound.symm⟩
    · cases hv.symm.trans he
  have herror := error_of_map hr.symm
  refine ⟨call, reply, List.append_nil _, fun hreply => ?_⟩
  rcases reply.content_cases call.url with ⟨v, hv, haccepts⟩ | ⟨e', he', hnone, -⟩
  · -- what was read has another shape, and that is not caught
    rw [hv] at herror
    have hread : foundIn isMovie v = .error e := herror
    rw [(reads_foundIn isMovie v).2 e hread]
    exact .inl ⟨v, haccepts, hread.symm⟩
  · rw [he'] at herror
    obtain rfl := Except.error.inj herror
    rw [caught_of_content hreply he']
    exact .inr ⟨hnone, rfl⟩

end Lookup

/-! ## The instance that is asked -/

/-- The instances to which a search may go can be read. -/
def Store.Offers (store : Store) (type : String) : Prop :=
  ∃ found, store.getDefaultInstance type = .ok found ∧
    (found = none → ∃ all, store.getInstances (.text type) = .ok all)

namespace Act

theorem read_of_error {α : Type} {call : StoreCall} {first : Option Value} {f : Store → Except Failure α}
    {s : Session} {e : Failure} (ho : s.outages = []) (h : f s.store = .error e) :
    read call first f s = (.error e, s.afterFailure e) := by
  simp [read, outage?_nil ho, h]

/-- The client of an instance that has an address. -/
def clientOf (i : Instance) : Act (Option Client) :=
  if i.baseUrl.isEmpty then pure none else some <$> clientFor i

theorem exchanges_clientOf (i : Instance) :
    (clientOf i).Exchanges fun log r => log = [] ∧ ∃ c, r = .ok c := by
  unfold clientOf
  split
  · exact (exchanges_pure _).mono fun _ _ h => ⟨h.1, none, h.2⟩
  · refine ((exchanges_clientFor i).map some).mono ?_
    rintro log _ ⟨_, ⟨rfl, c, rfl⟩, rfl⟩
    exact ⟨rfl, some c, rfl⟩

theorem silent_searchClient (type : String) : (searchClient type).Silent := by
  refine (silent_read _ _ _).bind fun found => ?_
  cases found with
  | some i => exact (exchanges_clientOf i).silent
  | none =>
    refine (silent_read _ _ _).bind fun all => ?_
    cases all.find? Instance.enabled with
    | some i => exact (exchanges_clientOf i).silent
    | none => exact silent_pure none

theorem searchClient_answers_iff (type : String) {s : Session} (ho : s.outages = []) :
    (∃ c, (searchClient type s).1 = .ok c) ↔ s.store.Offers type := by
  have hclient : ∀ i : Instance, ∃ c, (clientOf i s).1 = .ok c := by
    intro i
    obtain ⟨-, -, -, hc⟩ := exchanges_clientOf i s
    exact hc
  unfold searchClient Store.Offers
  cases hdefault : s.store.getDefaultInstance type with
  | error e =>
    have hread : getDefaultInstance type s = (.error e, s.afterFailure e) := read_of_error ho hdefault
    rw [bind_of_error hread]
    simp
  | ok found =>
    have hread : getDefaultInstance type s = (.ok found, s) := read_of_ok ho hdefault
    cases found with
    | some i =>
      rw [bind_of_ok hread]
      exact ⟨fun _ => ⟨_, rfl, nofun⟩, fun _ => hclient i⟩
    | none =>
      cases hall : s.store.getInstances (.text type) with
      | error e =>
        have hread' : getInstances (.text type) s = (.error e, s.afterFailure e) :=
          read_of_error ho hall
        rw [bind_of_ok hread]
        dsimp only
        rw [bind_of_error hread']
        simp
      | ok all =>
        have hread' : getInstances (.text type) s = (.ok all, s) := read_of_ok ho hall
        rw [bind_of_ok hread]
        dsimp only
        rw [bind_of_ok hread']
        refine ⟨fun _ => ⟨_, rfl, fun _ => ⟨all, rfl⟩⟩, fun _ => ?_⟩
        cases all.find? Instance.enabled with
        | some i => exact hclient i
        | none => exact ⟨none, rfl⟩

end Act

namespace Lookup

/-- What a lookup needs is legible: the identifier, the instances, and the answer that came, if one
did. -/
structure Legible (item : Item) (isMovie : Bool) (store : Store) (log : Log) : Prop where
  guid : ∃ id, item.guidId (if isMovie then "tmdb" else "tvdb") = .ok id
  instances : store.Offers (if isMovie then "radarr" else "sonarr")
  answers : ∀ e ∈ log, ∀ v, e.2.Accepts v → IsAnswer isMovie v

/-- What is made of a search that ended. -/
def conclude (item : Item) : Option (Option Found) → Act (Option Metadata)
  | none => return none
  | some none => do
    Act.warning ("Metadata lookup returned nothing for '" ++ item.title.display ++ "'")
    return none
  | some (some found) => return some found.toMetadata

theorem exchanges_conclude (item : Item) (found : Option (Option Found)) :
    (conclude item found).Exchanges fun log r =>
      log = [] ∧ r = .ok (found.join.map Found.toMetadata) := by
  match found with
  | none => exact exchanges_pure none
  | some none => exact (exchanges_note _ _).after (exchanges_pure none)
  | some (some found) => exact exchanges_pure (some found.toMetadata)

/-- A lookup that gets as far as the search ends as the answer is. -/
theorem exchanges_lookup (item : Item) (isMovie : Bool) (c : Client) (id : Int) :
    (trySearch item.title (search isMovie c id) >>= conclude item).Exchanges fun log r =>
      ∃ call reply, log = [(call, reply)] ∧ ((∀ f, reply ≠ .failed f) →
        ((∃ m, r = .ok m) ↔ ∀ v, reply.Accepts v → IsAnswer isMovie v) ∧
        ((∃ m, r = .ok (some m)) ↔
          ∃ v, reply.Accepts v ∧ IsAnswer isMovie v ∧ HasResult isMovie v)) := by
  refine ((exchanges_trySearch item.title isMovie c id).bind (exchanges_conclude item)).mono ?_
  rintro log r (⟨e, rfl, call, reply, rfl, hends⟩ |
    ⟨found, _, _, rfl, ⟨call, reply, rfl, hends⟩, rfl, rfl⟩)
  · refine ⟨call, reply, rfl, fun hreply => ?_⟩
    rcases hends hreply with ⟨v, haccepts, hread⟩ | ⟨-, h⟩
    · have hnot : ¬ IsAnswer isMovie v := by
        rw [← (reads_foundIn isMovie v).1, ← hread]
        exact nofun
      refine ⟨⟨nofun, fun h => absurd (h v haccepts) hnot⟩, nofun, ?_⟩
      rintro ⟨v', haccepts', hanswer, -⟩
      exact absurd (haccepts.unique haccepts' ▸ hanswer) hnot
    · cases h
  · refine ⟨call, reply, List.append_nil _, fun hreply => ?_⟩
    rcases hends hreply with ⟨v, haccepts, hread⟩ | ⟨hnone, h⟩
    · have hanswer : IsAnswer isMovie v := (reads_foundIn isMovie v).1.1 ⟨_, hread.symm⟩
      have hsome := isSome_iff_of_foundIn hread.symm
      refine ⟨⟨fun _ v' hv' => haccepts.unique hv' ▸ hanswer, fun _ => ⟨_, rfl⟩⟩, ?_, ?_⟩
      · rintro ⟨m, hm⟩
        obtain ⟨f, hf, -⟩ := Option.map_eq_some_iff.1 (Except.ok.inj hm)
        exact ⟨v, haccepts, hanswer, hsome.1 (by rw [hf]; rfl)⟩
      · rintro ⟨v', hv', -, hresult⟩
        obtain rfl := haccepts.unique hv'
        obtain ⟨f, hf⟩ := Option.isSome_iff_exists.1 (hsome.2 hresult)
        exact ⟨f.toMetadata, by rw [hf]; rfl⟩
    · obtain rfl := Except.ok.inj h
      refine ⟨⟨fun _ v hv => absurd hv (hnone v), fun _ => ⟨none, rfl⟩⟩, nofun, ?_⟩
      rintro ⟨v, hv, -⟩
      exact absurd hv (hnone v)

/-- How a lookup in a session ends: a server is asked at most once, namely if there are an identifier
and an instance; and metadata are found in an answer that tells of something. -/
structure Ends (item : Item) (isMovie : Bool) (s : Session) (log : Log)
    (r : Except Failure (Option Metadata)) : Prop where
  once : log.length ≤ 1
  asked : log ≠ [] ↔ (∃ id, item.guidId (if isMovie then "tmdb" else "tvdb") = .ok (some id)) ∧
    ∃ c, (searchClient (if isMovie then "radarr" else "sonarr") s).1 = .ok (some c)
  returns : (∃ m, r = .ok m) ↔ Legible item isMovie s.store log
  found : (∃ m, r = .ok (some m)) ↔
    ∃ e ∈ log, ∃ v, e.2.Accepts v ∧ IsAnswer isMovie v ∧ HasResult isMovie v

theorem ends_unasked {item : Item} {isMovie : Bool} {s : Session}
    {r : Except Failure (Option Metadata)}
    (hasked : ¬ ((∃ id, item.guidId (if isMovie then "tmdb" else "tvdb") = .ok (some id)) ∧
      ∃ c, (searchClient (if isMovie then "radarr" else "sonarr") s).1 = .ok (some c)))
    (hreturns : (∃ m, r = .ok m) ↔ Legible item isMovie s.store []) (hnone : ∀ m, r ≠ .ok (some m)) :
    Ends item isMovie s [] r where
  once := Nat.zero_le 1
  asked := ⟨fun h => absurd rfl h, fun h => absurd h hasked⟩
  returns := hreturns
  found := ⟨fun ⟨m, hm⟩ => absurd hm (hnone m), fun ⟨_, he, _⟩ => absurd he List.not_mem_nil⟩

/-- Where nothing is out of order, a lookup of whatever item and of whatever type ends like this. -/
theorem metadata_ends (item : Item) (contentType : Value) {s : Session} (ho : s.outages = [])
    (hn : s.network.Ordinary) :
    ∃ log, s.Exchanged log (metadata item contentType s).2 ∧
      Ends item (contentType.isOneOf ["movie"]) s log (metadata item contentType s).1 := by
  unfold metadata
  generalize contentType.isOneOf ["movie"] = isMovie
  cases hid : item.guidId (if isMovie then "tmdb" else "tvdb") with
  | error e =>
    refine ⟨[], .refl s, ends_unasked (by simp [hid]) ⟨nofun, fun h => ?_⟩ nofun⟩
    obtain ⟨id, hid'⟩ := h.guid
    cases hid.symm.trans hid'
  | ok id =>
    have hguid : ofResult (Except.ok id) s = (.ok id, s) := rfl
    obtain ⟨_, hlog, rfl⟩ := silent_searchClient (if isMovie then "radarr" else "sonarr") s
    have hiff := searchClient_answers_iff (if isMovie then "radarr" else "sonarr") ho
    rcases hs : searchClient (if isMovie then "radarr" else "sonarr") s with ⟨e | client, s₁⟩
    all_goals rw [hs] at hlog hiff
    · rw [bind_of_ok hguid, bind_of_error hs]
      refine ⟨[], hlog, ends_unasked (by simp [hs]) ⟨nofun, fun h => ?_⟩ nofun⟩
      obtain ⟨c, hc⟩ := hiff.2 h.instances
      cases hc
    · have hoffers := hiff.1 ⟨client, rfl⟩
      rw [bind_of_ok hguid, bind_of_ok hs]
      have hnothing : Legible item isMovie s.store [] :=
        ⟨⟨id, hid⟩, hoffers, List.forall_mem_nil _⟩
      have hreturns : (∃ m, (Except.ok none : Except Failure (Option Metadata)) = .ok m) ↔
          Legible item isMovie s.store [] := ⟨fun _ => hnothing, fun _ => ⟨none, rfl⟩⟩
      cases id with
      | none => exact ⟨[], hlog, ends_unasked (by simp [hid]) hreturns nofun⟩
      | some id =>
        cases client with
        | none => exact ⟨[], hlog, ends_unasked (by simp [hs]) hreturns nofun⟩
        | some c =>
          obtain ⟨_, hsearch, call, reply, rfl, hends⟩ := exchanges_lookup item isMovie c id s₁
          have hsent := hlog.trans hsearch
          obtain ⟨hreturns, hfound⟩ := hends (hsent.plays.ordinary hn _ List.mem_cons_self)
          refine ⟨_, hsent, by simp, ?_, hreturns.trans ⟨fun h => ⟨⟨_, hid⟩, hoffers, ?_⟩, fun h => ?_⟩, ?_⟩
          · exact ⟨fun _ => ⟨⟨id, hid⟩, c, by rw [hs]⟩, fun _ => nofun⟩
          · intro e he
            rw [List.mem_singleton.1 he]
            exact h
          · exact h.answers _ (List.mem_singleton_self _)
          · exact hfound.trans (by simp)

/-- The same routing without any lookups. -/
def bare (r : Router) : Router := { r with enrich := none }

/-- Where a lookup ends, routing is what it would be without lookups, for the item as it was or for the
item with what was found. -/
theorem resolve_bare {r : Router} (hr : r.enrich = some enrich) {item : Item} {context : Context}
    {s s' : Session} {m : Option Metadata} (hends : metadata item context.contentType s = (.ok m, s')) :
    r.resolve item context s = (bare r).resolve item context s ∨
      r.resolve item context s = (bare r).resolve (completedWith item m) context s' := by
  have henrich : enrich item context.contentType s = (.ok (completedWith item m), s') := by
    rw [enrich_eq]
    exact map_of_eq _ hends
  have hsame := (quiet_enrich item context.contentType).of_eq henrich
  unfold Router.resolve
  cases hknown : context.knowsContentType with
  | false => exact .inl rfl
  | true =>
    simp only [Bool.not_true, Bool.false_eq_true, if_false]
    rcases hread : getRules s with ⟨e | rules, s₁⟩
    · rw [bind_of_error hread, bind_of_error hread]
      exact .inl rfl
    obtain ⟨hrules, rfl⟩ := read_returns hread
    have hread' : getRules s' = (.ok rules, s') :=
      read_elsewhere hread hsame.outages (by rw [hsame.store]; exact hrules)
    rw [bind_of_ok hread, bind_of_ok hread, bind_of_ok hread']
    cases hactive : (rules.filter (·.isActiveFor context.targetType)).isEmpty with
    | true => exact .inl rfl
    | false =>
      simp only [Bool.false_eq_true, if_false]
      unfold Router.judge Router.complete
      rw [hr]
      cases item.metadata with
      | some _ => exact .inl rfl
      | none =>
        simp only
        split
        · right
          rw [bind_of_ok henrich]
          rfl
        · exact .inl rfl

/-- A lookup sends at most one call, and it ends, with metadata or without, exactly if the identifier, the
instances and the answer are legible; the metadata are those of an answer that tells of something. Where
it ends, the item is as it was or has other metadata, and routing goes on without a failure of the
lookup. -/
theorem lookup_ends_iff_legible (item : Item) (context : Context) {s : Session} (ho : s.outages = [])
    (hn : s.network.Ordinary) {r : Router} (hr : r.enrich = some enrich) :
    ∃ log, s.Exchanged log (metadata item context.contentType s).2 ∧
      Ends item (context.contentType.isOneOf ["movie"]) s log
        (metadata item context.contentType s).1 ∧
      (Legible item (context.contentType.isOneOf ["movie"]) s.store log → ∃ item' s',
        enrich item context.contentType s = (.ok item', s') ∧
          (item' = item ∨ ∃ m, item' = item.withMetadata m) ∧
          (r.resolve item context s = (bare r).resolve item context s ∨
            r.resolve item context s = (bare r).resolve item' context s')) := by
  obtain ⟨log, hlog, hends⟩ := metadata_ends item context.contentType ho hn
  refine ⟨log, hlog, hends, fun hlegible => ?_⟩
  obtain ⟨m, hm⟩ := hends.returns.2 hlegible
  have hends : metadata item context.contentType s
      = (.ok m, (metadata item context.contentType s).2) := Prod.ext hm rfl
  refine ⟨completedWith item m, _, ?_, ?_, resolve_bare hr hends⟩
  · rw [enrich_eq]
    exact map_of_eq _ hends
  · cases m with
    | none => exact .inl rfl
    | some m => exact .inr ⟨_, rfl⟩

/-- For instance, a film is found, and the rule for its year gets to see it. -/
theorem lookup_ends_iff_legible_found :
    let s : Session := {
      now := .ofDate ⟨738959⟩
      network := [("GET http://radarr/api/v3/movie/lookup/tmdb",
        [.answer 200 "OK" "[\x7b\"year\": 1984, \"genres\": [\"Drama\"]\x7d]"])]
      store := { instances := [{ id := 1, type := .text "radarr", baseUrl := "http://radarr" }] } }
    let item : Item := { title := .text "Dune", guids := ["tmdb:841"] }
    let found : Metadata := { year := .int 1984, genres := [.text "Drama"] }
    ∃ log, s.Exchanged log (metadata item (.text "movie") s).2 ∧ log.length = 1 ∧
      Legible item true s.store log ∧
      (metadata item (.text "movie") s).1 = .ok (some found) ∧
      ∃ item' s', enrich item (.text "movie") s = (.ok item', s') ∧
        (item' = item ∨ ∃ m, item' = item.withMetadata m) := by
  intro s item found
  have hn : s.network.Ordinary := by
    intro e he r hr f
    rw [List.mem_singleton.1 he] at hr
    rw [List.mem_singleton.1 hr]
    exact nofun
  have hfound : (metadata item (.text "movie") s).1 = .ok (some found) :=
    ok_of_toOption (by decide +kernel)
  have hcalls : (metadata item (.text "movie") s).2.calls.length = 1 := by decide +kernel
  obtain ⟨log, hlog, hlooks, hends⟩ := lookup_ends_iff_legible item
    { contentType := .text "movie" } (s := s) rfl hn (r := ({} : Service).router) rfl
  have hlegible : Legible item true s.store log := hlooks.returns.1 ⟨_, hfound⟩
  have hlength := congrArg List.length hlog.calls
  rw [hcalls, List.length_append, List.length_map] at hlength
  obtain ⟨item', s', henrich, hitem, -⟩ := hends hlegible
  exact ⟨log, hlog, (hlength.trans (Nat.zero_add _)).symm, hlegible, hfound, item', s', henrich, hitem⟩

/-- Not every lookup ends: digits that are no number, and answers of another shape, make it fail, and
routing with it. -/
theorem lookup_fails_resolution :
    let s (answer : String) : Session := {
      now := .ofDate ⟨738959⟩
      network := [("GET http://radarr/api/v3/movie/lookup/tmdb", [.answer 200 "OK" answer]),
        ("GET http://sonarr/api/v3/series/lookup", [.answer 200 "OK" answer])]
      store := {
        instances := [{ id := 1, type := .text "radarr", baseUrl := "http://radarr" },
          { id := 2, type := .text "sonarr", baseUrl := "http://sonarr" }]
        rules := [{ id := 1, name := .text "Old", type := .text "year", targetType := .text "radarr", targetId := 1
                    criteria := .map [("year", .int 1984)] }] } }
    let item (guid : String) : Item := { title := .text "Dune", guids := [guid] }
    let context : Context := { contentType := .text "movie" }
    (metadata (item "tmdb:²") (.text "movie") (s "[]")).1.toOption.isNone = true ∧
      (metadata (item "tmdb:841") (.text "movie") (s "[5]")).1.toOption.isNone = true ∧
      (metadata (item "tvdb:841") (.text "show") (s "\x7b\"title\": \"Dune\"\x7d")).1.toOption.isNone
        = true ∧
      (({} : Service).router.resolve (item "tmdb:²") context (s "[]")).1.toOption.isNone = true ∧
      (({} : Service).router.resolve (item "tmdb:841") context (s "[5]")).1.toOption.isNone = true := by
  decide +kernel

end Lookup

end Watchgate
