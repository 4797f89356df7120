import Watchgate.Proofs.Session.Quiet
import Watchgate.Media.Client

/-!
# Acts that browse

Finding out where content goes and handing it in at an instance look at a few tables, talk to other
servers and write into the journal; they put nothing into the store. Such acts are described once, by
the steps that they are made of: an act *browses* stores up to a relation `same` if its reads give the
same in stores that are the same. What holds of every step is shown of all these acts by one
induction: that they are quiet, and that they do the same in sessions that look the same to them. That
the servers answer alike is not part of the description.
-/

namespace Watchgate

/-! ## Exchanges -/

namespace Network

theorem next_snd_subset (rs : List Reply) : (next rs).2 ⊆ rs := by
  match rs with
  | [] => exact List.Subset.refl _
  | [r] => exact List.Subset.refl _
  | r :: r' :: rs => exact List.subset_cons_self _ _

theorem next_fst_mem (rs : List Reply) : (next rs).1 = unknown ∨ (next rs).1 ∈ rs := by
  match rs with
  | [] => exact .inl rfl
  | [r] => exact .inr List.mem_cons_self
  | r :: r' :: rs => exact .inr List.mem_cons_self

/-- A reply is one of those of the address, if it has any, and leaves the others. -/
theorem reply_of (k : String) (n : Network) :
    ((n.reply k).1 = unknown ∨ ∃ e ∈ n, e.1 = k ∧ (n.reply k).1 ∈ e.2) ∧ n.Leaves (n.reply k).2 := by
  induction n with
  | nil => exact ⟨.inl rfl, .refl _⟩
  | cons e rest ih =>
    obtain ⟨k', rs⟩ := e
    obtain ⟨hfirst, hrest⟩ := ih
    by_cases hk : k' = k
    · simp only [reply, hk, if_true]
      refine ⟨(next_fst_mem rs).imp_right fun h => ⟨_, List.mem_cons_self, rfl, h⟩, fun e' he' => ?_⟩
      rcases List.mem_cons.1 he' with rfl | he'
      · exact ⟨_, List.mem_cons_self, rfl, next_snd_subset rs⟩
      · exact ⟨e', List.mem_cons_of_mem _ he', rfl, List.Subset.refl _⟩
    · simp only [reply, hk, if_false]
      refine ⟨hfirst.imp_right fun ⟨e, he, h⟩ => ⟨e, List.mem_cons_of_mem _ he, h⟩, fun e' he' => ?_⟩
      rcases List.mem_cons.1 he' with rfl | he'
      · exact ⟨_, List.mem_cons_self, rfl, List.Subset.refl _⟩
      · obtain ⟨e, he, h⟩ := hrest e' he'
        exact ⟨e, List.mem_cons_of_mem _ he, h⟩

/-- Where the replies of an address are ordinary, so is the next of them. -/
theorem reply_ne_failed {k : String} {n : Network}
    (h : ∀ e ∈ n, e.1 = k → ∀ r ∈ e.2, ∀ f, r ≠ Reply.failed f) (f : Failure) :
    (n.reply k).1 ≠ .failed f := by
  rcases (reply_of k n).1 with hreply | ⟨e, he, haddress, hreply⟩
  · rw [hreply]
    exact nofun
  · exact h e he haddress _ hreply f

/-- Taking a reply leaves ordinary replies behind. -/
theorem ordinary_reply (k : String) {n : Network} (h : n.Ordinary) :
    (∀ f, (n.reply k).1 ≠ Reply.failed f) ∧ Network.Ordinary (n.reply k).2 :=
  ⟨reply_ne_failed fun e he _ => h e he, (reply_of k n).2.ordinary h⟩

end Network

namespace Act

variable {α β : Type} {same : Store → Store → Prop}

theorem quiet_send (c : Call) : (send c).Quiet := fun _ =>
  ⟨⟨rfl, rfl, rfl, (Network.reply_of _ _).2⟩, rfl⟩

theorem quiet_clientFor (i : Instance) : (clientFor i).Quiet := by
  intro s
  unfold clientFor
  split
  · exact .refl s
  · exact ⟨⟨rfl, rfl, rfl, .refl _⟩, rfl⟩

/-! ## Browsing -/

/-- The act is made of reads that tell no stores apart that are the same, exchanges, connections and
notes, one after the other or one in place of another that failed. -/
inductive Browses (same : Store → Store → Prop) : {α : Type} → Act α → Prop where
  | value {α : Type} (a : α) : Browses same (pure a)
  | failure {α : Type} (e : Failure) : Browses same (throw e : Act α)
  /-- Writing into the journal. -/
  | entry (level : Level) (text : String) : Browses same (note level text)
  /-- Judging, with the notes that the judgement makes. -/
  | judgement {α : Type} (x : Criteria.Judgement α) : Browses same (ofJudgement x)
  | exchange (c : Call) : Browses same (send c)
  | connection (i : Instance) : Browses same (clientFor i)
  | reading {α : Type} {call : StoreCall} {first : Option Value} {f : Store → Except Failure α}
      (h : ∀ store store', same store store' → f store' = f store) :
      Browses same (read call first f)
  /-- One after the other. -/
  | sequence {α β : Type} {x : Act α} {f : α → Act β} (hx : Browses same x)
      (hf : ∀ a, Browses same (f a)) : Browses same (x >>= f)
  /-- One in place of another that failed. -/
  | recovery {α : Type} {x : Act α} {f : Failure → Act α} (hx : Browses same x)
      (hf : ∀ e, Browses same (f e)) : Browses same (tryCatch x f)

namespace Browses

theorem quiet {x : Act α} (h : x.Browses same) : x.Quiet := by
  induction h with
  | value a => exact quiet_pure a
  | failure e => exact quiet_throw e
  | entry level text => exact quiet_note level text
  | judgement x => exact quiet_ofJudgement x
  | exchange c => exact quiet_send c
  | connection i => exact quiet_clientFor i
  | reading => exact quiet_read _ _ _
  | sequence _ _ ihx ihf => exact quiet_bind ihx ihf
  | recovery _ _ ihx ihf => exact quiet_tryCatch ihx ihf

/-- Reads that tell fewer stores apart. -/
theorem mono {same' : Store → Store → Prop} (hsame : ∀ a b, same' a b → same a b) {x : Act α}
    (h : x.Browses same) : x.Browses same' := by
  induction h with
  | value a => exact .value a
  | failure e => exact .failure e
  | entry level text => exact .entry level text
  | judgement x => exact .judgement x
  | exchange c => exact .exchange c
  | connection i => exact .connection i
  | reading h => exact .reading fun a b hab => h a b (hsame a b hab)
  | sequence _ _ ihx ihf => exact .sequence ihx ihf
  | recovery _ _ ihx ihf => exact .recovery ihx ihf

theorem result (x : Except Failure α) : (ofResult x).Browses same := by
  cases x with
  | error e => exact .failure e
  | ok a => exact .value a

theorem map {x : Act α} (f : α → β) (hx : x.Browses same) : (f <$> x).Browses same := by
  rw [map_eq_pure_bind]
  exact .sequence hx fun a => .value _

theorem ite {c : Prop} [Decidable c] {x y : Act α} (hx : x.Browses same) (hy : y.Browses same) :
    (if c then x else y).Browses same := by
  split
  · exact hx
  · exact hy

theorem mapM {f : α → Act β} {l : List α} (hf : ∀ a ∈ l, (f a).Browses same) :
    (l.mapM f).Browses same := by
  induction l with
  | nil =>
    rw [List.mapM_nil]
    exact .value _
  | cons a l ih =>
    rw [List.mapM_cons]
    refine .sequence (hf a List.mem_cons_self) fun b => ?_
    exact .sequence (ih fun x hx => hf x (List.mem_cons_of_mem _ hx)) fun _ => .value _

theorem forM {f : α → Act Unit} (hf : ∀ a, (f a).Browses same) (l : List α) :
    (l.forM f).Browses same := by
  induction l with
  | nil => exact .value _
  | cons a l ih => exact .sequence (hf a) fun _ => ih

theorem option_forM {f : α → Act PUnit} (hf : ∀ a, (f a).Browses same) :
    ∀ o : Option α, (o.forM f).Browses same
  | none => .value _
  | some a => hf a

end Browses

/-- The act browses without asking another server: it is made of reads and notes alone. -/
inductive Consults (same : Store → Store → Prop) : {α : Type} → Act α → Prop where
  | value {α : Type} (a : α) : Consults same (pure a)
  | failure {α : Type} (e : Failure) : Consults same (throw e : Act α)
  | entry (level : Level) (text : String) : Consults same (note level text)
  | judgement {α : Type} (x : Criteria.Judgement α) : Consults same (ofJudgement x)
  | reading {α : Type} {call : StoreCall} {first : Option Value} {f : Store → Except Failure α}
      (h : ∀ store store', same store store' → f store' = f store) :
      Consults same (read call first f)
  | sequence {α β : Type} {x : Act α} {f : α → Act β} (hx : Consults same x)
      (hf : ∀ a, Consults same (f a)) : Consults same (x >>= f)
  | recovery {α : Type} {x : Act α} {f : Failure → Act α} (hx : Consults same x)
      (hf : ∀ e, Consults same (f e)) : Consults same (tryCatch x f)

namespace Consults

theorem browses {x : Act α} (h : x.Consults same) : x.Browses same := by
  induction h with
  | value a => exact .value a
  | failure e => exact .failure e
  | entry level text => exact .entry level text
  | judgement x => exact .judgement x
  | reading h => exact .reading h
  | sequence _ _ ihx ihf => exact .sequence ihx ihf
  | recovery _ _ ihx ihf => exact .recovery ihx ihf

theorem mono {same' : Store → Store → Prop} (hsame : ∀ a b, same' a b → same a b) {x : Act α}
    (h : x.Consults same) : x.Consults same' := by
  induction h with
  | value a => exact .value a
  | failure e => exact .failure e
  | entry level text => exact .entry level text
  | judgement x => exact .judgement x
  | reading h => exact .reading fun a b hab => h a b (hsame a b hab)
  | sequence _ _ ihx ihf => exact .sequence ihx ihf
  | recovery _ _ ihx ihf => exact .recovery ihx ihf

/-- Consulting leaves nothing behind but notes. -/
theorem journal_only {x : Act α} (h : x.Consults same) (s : Session) :
    { (x s).2 with journal := [] } = { s with journal := [] } := by
  induction h generalizing s with
  | value a => rfl
  | failure e => rfl
  | entry level text => rfl
  | judgement x => rfl
  | @reading _ call first f _ =>
    unfold read
    cases s.outage? call first with
    | some e => rfl
    | none =>
      cases f s.store with
      | ok a => rfl
      | error e =>
        simp only [Session.afterFailure]
        split <;> rfl
  | @sequence _ _ x f _ _ ihx ihf =>
    have hx := ihx s
    rcases bind_cases x f s with ⟨a, s₁, hxs, hb⟩ | ⟨e, s₁, hxs, hb⟩
    · rw [hxs] at hx
      rw [hb]
      exact (ihf a s₁).trans hx
    · rw [hxs] at hx
      rw [hb]
      exact hx
  | @recovery _ x f _ _ ihx ihf =>
    have hx := ihx s
    rw [tryCatch_apply]
    rcases hxs : x s with ⟨e | a, s₁⟩
    · rw [hxs] at hx
      exact (ihf e s₁).trans hx
    · rw [hxs] at hx
      exact hx

theorem result (x : Except Failure α) : (ofResult x).Consults same := by
  cases x with
  | error e => exact .failure e
  | ok a => exact .value a

theorem map {x : Act α} (f : α → β) (hx : x.Consults same) : (f <$> x).Consults same := by
  rw [map_eq_pure_bind]
  exact .sequence hx fun a => .value _

theorem ite {c : Prop} [Decidable c] {x y : Act α} (hx : x.Consults same) (hy : y.Consults same) :
    (if c then x else y).Consults same := by
  split
  · exact hx
  · exact hy

theorem forM {f : α → Act Unit} (hf : ∀ a, (f a).Consults same) (l : List α) :
    (l.forM f).Consults same := by
  induction l with
  | nil => exact .value _
  | cons a l ih => exact .sequence (hf a) fun _ => ih

end Consults

/-! ## Two sessions side by side -/

/-- From sessions that `R` relates the act ends with the same result, in sessions that `R` relates. -/
def Lockstep (R : Session → Session → Prop) (x : Act α) : Prop :=
  ∀ s s', R s s' → (x s).1 = (x s').1 ∧ R (x s).2 (x s').2

/-- From sessions that `R` relates the act ends with results that `V` relates, in sessions that `S`
relates. -/
def Matches (R : Session → Session → Prop) (V : Except Failure α → Except Failure α → Prop)
    (S : Session → Session → Prop) (x : Act α) : Prop :=
  ∀ s s', R s s' → V (x s).1 (x s').1 ∧ S (x s).2 (x s').2

theorem Lockstep.matches {R S : Session → Session → Prop}
    {V : Except Failure α → Except Failure α → Prop} (hV : ∀ r, V r r)
    (hS : ∀ s s', R s s' → S s s') {x : Act α} (hx : x.Lockstep R) : x.Matches R V S := by
  intro s s' h
  obtain ⟨hvalue, hs⟩ := hx s s' h
  exact ⟨hvalue ▸ hV _, hS _ _ hs⟩

/-- What comes second matters only for values that the first act can end with. -/
theorem matches_bind {R S : Session → Session → Prop}
    {V : Except Failure β → Except Failure β → Prop} (hV : ∀ r, V r r)
    (hS : ∀ s s', R s s' → S s s') {x : Act α} {f : α → Act β} (hx : x.Lockstep R)
    (hf : ∀ {s a s'}, x s = (.ok a, s') → (f a).Matches R V S) : (x >>= f).Matches R V S := by
  intro s s' h
  obtain ⟨hvalue, hs⟩ := hx s s' h
  rcases hxs : x s with ⟨r, s₁⟩
  rcases hxs' : x s' with ⟨r', s₁'⟩
  rw [hxs, hxs'] at hvalue hs
  obtain rfl : r = r' := hvalue
  cases r with
  | error e =>
    rw [bind_of_error hxs, bind_of_error hxs']
    exact ⟨hV _, hS _ _ hs⟩
  | ok a =>
    rw [bind_of_ok hxs, bind_of_ok hxs']
    exact hf hxs s₁ s₁' hs

theorem lockstep_bind_of {R : Session → Session → Prop} {x : Act α} {f : α → Act β}
    (hx : x.Lockstep R) (hf : ∀ {s a s'}, x s = (.ok a, s') → (f a).Lockstep R) :
    (x >>= f).Lockstep R :=
  matches_bind (V := Eq) (fun _ => rfl) (fun _ _ h => h) hx hf

theorem lockstep_bind {R : Session → Session → Prop} {x : Act α} {f : α → Act β}
    (hx : x.Lockstep R) (hf : ∀ a, (f a).Lockstep R) : (x >>= f).Lockstep R :=
  lockstep_bind_of hx fun {_ a _} _ => hf a

theorem lockstep_tryCatch {R : Session → Session → Prop} {x : Act α} {f : Failure → Act α}
    (hx : x.Lockstep R) (hf : ∀ e, (f e).Lockstep R) : (tryCatch x f : Act α).Lockstep R := by
  intro s s' h
  obtain ⟨hvalue, hs⟩ := hx s s' h
  rw [tryCatch_apply, tryCatch_apply]
  rcases hxs : x s with ⟨r, s₁⟩
  rcases hxs' : x s' with ⟨r', s₁'⟩
  rw [hxs, hxs'] at hvalue hs
  obtain rfl : r = r' := hvalue
  cases r with
  | error e => exact hf e s₁ s₁' hs
  | ok a => exact ⟨rfl, hs⟩

theorem lockstep_pure {R : Session → Session → Prop} (a : α) : (pure a : Act α).Lockstep R :=
  fun _ _ h => ⟨rfl, h⟩

theorem lockstep_ofResult {R : Session → Session → Prop} (x : Except Failure α) :
    (ofResult x).Lockstep R := fun _ _ h => ⟨rfl, h⟩

theorem lockstep_ask {R : Session → Session → Prop} {f : Session → α}
    (hf : ∀ s s', R s s' → f s' = f s) : (ask f).Lockstep R :=
  fun s s' h => ⟨congrArg Except.ok (hf s s' h).symm, h⟩

theorem lockstep_ite {R : Session → Session → Prop} {c : Prop} [Decidable c] {x y : Act α}
    (hx : x.Lockstep R) (hy : y.Lockstep R) : (if c then x else y).Lockstep R := by
  split
  · exact hx
  · exact hy

/-- Sessions that `R` relates have the same outages, and a failure of the store may be noted in both. -/
structure FailsAlike (R : Session → Session → Prop) : Prop where
  outages : ∀ {s s'}, R s s' → s'.outages = s.outages
  noted : ∀ {s s'}, R s s' → ∀ e, R (s.afterFailure e) (s'.afterFailure e)

/-- Two results of an operation of the store: both failed alike, or both returned the same and left
stores that may take the place of those in the sessions. -/
inductive WrittenAlike (R : Session → Session → Prop) (s s' : Session) :
    Except Failure (α × Store) → Except Failure (α × Store) → Prop where
  | fails (e : Failure) : WrittenAlike R s s' (.error e) (.error e)
  | returns (a : α) {store store' : Store}
      (related : R { s with store } { s' with store := store' }) :
      WrittenAlike R s s' (.ok (a, store)) (.ok (a, store'))

namespace FailsAlike

variable {R : Session → Session → Prop} {call : StoreCall} {first : Option Value}

theorem outage?_eq (hR : FailsAlike R) {s s' : Session} (h : R s s') :
    s'.outage? call first = s.outage? call first := by
  unfold Session.outage?
  rw [hR.outages h]

theorem lockstep_read (hR : FailsAlike R) {f : Store → Except Failure α}
    (hf : ∀ s s', R s s' → f s'.store = f s.store) : (read call first f).Lockstep R := by
  intro s s' h
  unfold read
  rw [hR.outage?_eq h, hf s s' h]
  cases s.outage? call first with
  | some e => exact ⟨rfl, h⟩
  | none =>
    cases f s.store with
    | ok a => exact ⟨rfl, h⟩
    | error e => exact ⟨rfl, hR.noted h e⟩

theorem lockstep_write (hR : FailsAlike R) {f : Store → Except Failure (α × Store)}
    (hf : ∀ s s', R s s' → WrittenAlike R s s' (f s.store) (f s'.store)) :
    (write call first f).Lockstep R := by
  intro s s' h
  have halike := hf s s' h
  unfold write
  rw [hR.outage?_eq h]
  cases s.outage? call first with
  | some e => exact ⟨rfl, h⟩
  | none =>
    generalize f s.store = x at halike
    generalize f s'.store = x' at halike
    cases halike with
    | fails e => exact ⟨rfl, hR.noted h e⟩
    | returns a related => exact ⟨rfl, related⟩

end FailsAlike

/-- Sessions that `R` relates look the same to acts that browse stores up to `same`: tables,
outages, servers and connections agree, and both sessions may be written to in the same way. -/
structure Indistinct (same : Store → Store → Prop) (R : Session → Session → Prop) : Prop where
  tables : ∀ {s s'}, R s s' → same s.store s'.store
  outages : ∀ {s s'}, R s s' → s'.outages = s.outages
  network : ∀ {s s'}, R s s' → s'.network = s.network
  clients : ∀ {s s'}, R s s' → s'.clients = s.clients
  noted : ∀ {s s'}, R s s' → ∀ entries, R { s with journal := s.journal ++ entries }
    { s' with journal := s'.journal ++ entries }
  sent : ∀ {s s'}, R s s' → ∀ call network, R { s with network, calls := s.calls ++ [call] }
    { s' with network, calls := s'.calls ++ [call] }
  connected : ∀ {s s'}, R s s' → ∀ clients, R { s with clients } { s' with clients }

namespace Indistinct

variable {R : Session → Session → Prop}

theorem lockstep_note (hR : Indistinct same R) (level : Level) (text : String) :
    (note level text).Lockstep R := fun _ _ h => ⟨rfl, hR.noted h _⟩

theorem lockstep_send (hR : Indistinct same R) (c : Call) : (send c).Lockstep R := by
  intro s s' h
  unfold send
  rw [hR.network h]
  exact ⟨rfl, hR.sent h c _⟩

theorem lockstep_clientFor (hR : Indistinct same R) (i : Instance) : (clientFor i).Lockstep R := by
  intro s s' h
  unfold clientFor
  rw [hR.clients h]
  split
  · exact ⟨rfl, h⟩
  · exact ⟨rfl, hR.connected h _⟩

theorem failsAlike (hR : Indistinct same R) : FailsAlike R where
  outages h := hR.outages h
  noted h e := by
    unfold Session.afterFailure
    split
    · exact hR.noted h _
    · exact h

theorem lockstep_read (hR : Indistinct same R) {call : StoreCall} {first : Option Value}
    {f : Store → Except Failure α} (hf : ∀ store store', same store store' → f store' = f store) :
    (read call first f).Lockstep R :=
  hR.failsAlike.lockstep_read fun _ _ h => hf _ _ (hR.tables h)

end Indistinct

/-- Consulting does the same in sessions with the same tables and outages, whatever the servers. -/
theorem Consults.lockstep {R : Session → Session → Prop}
    (htables : ∀ {s s'}, R s s' → same s.store s'.store)
    (houtages : ∀ {s s'}, R s s' → s'.outages = s.outages)
    (hnoted : ∀ {s s'}, R s s' → ∀ entries, R { s with journal := s.journal ++ entries }
      { s' with journal := s'.journal ++ entries }) {x : Act α} (h : x.Consults same) :
    x.Lockstep R := by
  have hfails : FailsAlike R := by
    refine ⟨houtages, fun h e => ?_⟩
    unfold Session.afterFailure
    split
    · exact hnoted h _
    · exact h
  induction h with
  | value a => exact lockstep_pure a
  | failure e => exact fun _ _ h => ⟨rfl, h⟩
  | entry level text => exact fun _ _ h => ⟨rfl, hnoted h _⟩
  | judgement x => exact fun _ _ h => ⟨rfl, hnoted h _⟩
  | reading hf => exact hfails.lockstep_read fun _ _ h => hf _ _ (htables h)
  | sequence _ _ ihx ihf => exact lockstep_bind ihx ihf
  | recovery _ _ ihx ihf => exact lockstep_tryCatch ihx ihf

/-- Browsing does the same in sessions that look the same. -/
theorem Browses.lockstep {R : Session → Session → Prop} (hR : Indistinct same R) {x : Act α}
    (h : x.Browses same) : x.Lockstep R := by
  induction h with
  | value a => exact lockstep_pure a
  | failure e => exact fun _ _ h => ⟨rfl, h⟩
  | entry level text => exact hR.lockstep_note level text
  | judgement x => exact fun _ _ h => ⟨rfl, hR.noted h _⟩
  | exchange c => exact hR.lockstep_send c
  | connection i => exact hR.lockstep_clientFor i
  | reading hf => exact hR.lockstep_read hf
  | sequence _ _ ihx ihf => exact lockstep_bind ihx ihf
  | recovery _ _ ihx ihf => exact lockstep_tryCatch ihx ihf

end Act

end Watchgate
