import Watchgate.Proofs.Approval.Lockstep
import Watchgate.Proofs.Store.RequestTable
import Watchgate.Proofs.Store.UsageTable

/-!
# Submissions side by side

A submission looks at the requests for approval twice at most: it asks for the live request of its
user for its content key, and it makes a new one where there is room. So in two sessions that differ
in these tables alone it does the same, as long as the tables answer both questions alike. What makes
tables answer alike is left to those who compare them.
-/

namespace Watchgate

open Act Calendar Store

variable {related related' : List Request → List Request → Prop}

/-- Two stores that differ in the requests alone, and these are related. -/
structure Store.Beside (related : List Request → List Request → Prop) (s s' : Store) : Prop where
  rest : s' = { s with requests := s'.requests }
  requests : related s.requests s'.requests

/-- Two sessions that differ in the journal and in the requests alone, and these are related. -/
structure Session.Beside (related : List Request → List Request → Prop) (s s' : Session) : Prop where
  store : s.store.Beside related s'.store
  now : s'.now = s.now
  outages : s'.outages = s.outages
  network : s'.network = s.network
  calls : s'.calls = s.calls
  clients : s'.clients = s.clients
  attempts : s'.attempts = s.attempts

/-- What is read of other tables is the same. -/
theorem Store.Beside.read_eq {α : Type} {s s' : Store} (h : s.Beside related s') {f : Store → α}
    (hf : ∀ (s : Store) rows, f { s with requests := rows } = f s) : f s' = f s := by
  rw [h.rest]
  exact hf s _

theorem Session.Beside.mono (hrelated : ∀ rows rows', related rows rows' → related' rows rows')
    {s s' : Session} (h : s.Beside related s') : s.Beside related' s' :=
  { h with store := ⟨h.store.rest, hrelated _ _ h.store.requests⟩ }

namespace Act

variable {α : Type}

theorem indistinct_beside (related : List Request → List Request → Prop) :
    Indistinct (Store.Beside related) (Session.Beside related) where
  tables h := h.store
  outages h := h.outages
  network h := h.network
  clients h := h.clients
  noted h _ := { h with }
  sent h call _ := { h with network := rfl, calls := congrArg (· ++ [call]) h.calls }
  connected h _ := { h with clients := rfl }

/-- Browsing that looks at instances alone. -/
theorem Browses.besides {x : Act α} (h : x.Browses Store.SameInstances) :
    x.Lockstep (Session.Beside related) :=
  (h.mono fun _ _ hs => hs.read_eq fun _ _ => rfl).lockstep (indistinct_beside related)

theorem lockstep_now : now.Lockstep (Session.Beside related) :=
  lockstep_ask fun _ _ h => h.now

theorem lockstep_today : today.Lockstep (Session.Beside related) :=
  lockstep_ask fun _ _ h => congrArg Moment.date h.now

/-- Reading from other tables. -/
theorem lockstep_reading {call : StoreCall} {first : Option Value} {f : Store → Except Failure α}
    (hf : ∀ (s : Store) rows, f { s with requests := rows } = f s) :
    (read call first f).Lockstep (Session.Beside related) :=
  (indistinct_beside related).lockstep_read fun _ _ h => h.read_eq hf

end Act

/-! ## Writing -/

/-- Two operations of the store both fail alike, or both return the same and leave stores that differ
in the requests alone. -/
inductive Store.Alike {α : Type} (related : List Request → List Request → Prop) :
    Except Failure (α × Store) → Except Failure (α × Store) → Prop where
  | fails (e : Failure) : Alike related (.error e) (.error e)
  | returns (a : α) {s s' : Store} (beside : s.Beside related s') :
      Alike related (.ok (a, s)) (.ok (a, s'))

theorem Act.lockstep_write {α : Type} {call : StoreCall} {first : Option Value}
    {f : Store → Except Failure (α × Store)}
    (hf : ∀ s s' : Store, s.Beside related s' → Alike related (f s) (f s')) :
    (write call first f).Lockstep (Session.Beside related) := by
  refine (indistinct_beside related).failsAlike.lockstep_write fun s s' h => ?_
  have halike := hf s.store s'.store h.store
  generalize f s.store = x at halike ⊢
  generalize f s'.store = x' at halike ⊢
  cases halike with
  | fails e => exact .fails e
  | returns a beside => exact .returns a { h with store := beside }

theorem Store.alike_putUsage (userId : Int) (contentType : Value) (date : Date) {s s' : Store}
    (h : s.Beside related s') :
    Alike related (s.putUsage userId contentType date) (s'.putUsage userId contentType date) := by
  rcases putUsage_alike contentType date (h.read_eq fun _ _ => rfl) with
    ⟨e, he, he'⟩ | ⟨row, -, hrow, hrow'⟩
  · rw [he, he']
    exact .fails e
  · rw [hrow, hrow']
    refine .returns () ⟨?_, h.requests⟩
    rw [h.rest]

/-- Related tables of requests answer a submission of a user for a content key alike: they hold the
same request, unless it is expired, and there is room for a new one in both or in neither, under the
same id and so that they are related afterwards. -/
structure Unnoticed (related : List Request → List Request → Prop) (userId : Int) (key : Value) :
    Prop where
  live : ∀ {rows rows'}, related rows rows' → ∀ {stored}, Column.text key = .ok stored →
    (rows'.find? (isRequestFor userId stored)).filter (·.status ≠ .expired)
      = (rows.find? (isRequestFor userId stored)).filter (·.status ≠ .expired)
  room : ∀ {rows rows'}, related rows rows' →
    (∃ e, withoutExpired userId key rows = .error e ∧ withoutExpired userId key rows' = .error e) ∨
    ∃ kept kept', withoutExpired userId key rows = .ok kept ∧
      withoutExpired userId key rows' = .ok kept' ∧ nextId kept' = nextId kept ∧
      ∀ row, related (kept ++ [row]) (kept' ++ [row])

/-- Making a request under a new id. -/
theorem Store.alike_addRequest {n : NewRequest} (hun : Unnoticed related n.userId n.key)
    (now : Moment) {s s' : Store} (h : s.Beside related s') :
    Alike related (s.addRequest n now) (s'.addRequest n now) := by
  rcases addRequest_alike now (h.read_eq fun _ _ => rfl) (h.read_eq fun _ _ => rfl)
    (hun.room h.requests) with ⟨e, he, he'⟩ | ⟨kept, kept', request, row, hkept, hadd, hadd'⟩
  · rw [he, he']
    exact .fails e
  · rw [hadd, hadd', hkept.1]
    refine .returns _ ⟨?_, hkept.2 _⟩
    rw [h.rest]

theorem Quota.lockstep_recordUsage (userId : Int) (contentType : Value) :
    (recordUsage userId contentType).Lockstep (Session.Beside related) :=
  lockstep_bind lockstep_today fun today =>
    lockstep_write fun _ _ h => alike_putUsage userId contentType today h

/-! ## The gate -/

namespace Gate

variable {g : Gate} {userId : Int} {key : Value}

theorem browses_liveRequest {userId : Option Int}
    (hun : ∀ u, userId = some u → Unnoticed related u key) :
    (liveRequest userId key).Browses (Store.Beside related) := by
  cases userId with
  | none => exact .value _
  | some u =>
    rw [liveRequest_eq_read]
    refine .reading fun s s' h => ?_
    unfold Store.getRequestFor
    cases hid : Column.checked u with
    | error e => rfl
    | ok id =>
      obtain rfl := Column.checked_ok hid
      cases hkey : Column.text key with
      | error e => rfl
      | ok stored =>
        -- the name of the user does not matter to the status
        have hnamed : ∀ found : Option Request,
            (found.map (named s)).filter (fun r => decide (r.status ≠ .expired))
              = (found.filter fun r => decide (r.status ≠ .expired)).map (named s) := fun found => by
          rw [Option.filter_map]
          rfl
        have hsame : named s' = named s := h.read_eq fun _ _ => rfl
        refine congrArg Except.ok ?_
        dsimp only
        rw [hsame, hnamed, hnamed, (hun id rfl).live h.requests hkey]

/-- Beside other requests a submission does the same, apart from looking at them. -/
theorem stepsAlike_beside (hp : g.partners.Browses) (item : Item) (contentType : Value)
    (userId : Option Int) : g.StepsAlike item contentType userId (Session.Beside related) where
  noted level text := (Browses.entry level text).besides
  now := lockstep_now
  tried placements := Partners.lockstep_attemptAll
    (fun h a => { h with attempts := congrArg (· ++ [a]) h.attempts })
    (fun item placement => (hp.acquire item placement).besides) item placements
  user _ _ := lockstep_reading fun _ _ => rfl
  quota _ _ := {
    today := lockstep_today
    quota := lockstep_reading fun _ _ => rfl
    usage := fun _ => lockstep_reading fun _ _ => rfl
    oldest := fun _ _ => lockstep_reading fun _ _ => rfl }
  counted u _ := Quota.lockstep_recordUsage u contentType

/-- Making a request, where related tables have room for it alike. -/
theorem lockstep_addRequest {n : NewRequest} (hun : Unnoticed related n.userId n.key) :
    (Act.addRequest n).Lockstep (Session.Beside related) := by
  intro s s' h
  have hsame : Act.addRequest n s' = write .addRequest none (Store.addRequest n s.now) s' := by
    rw [← h.now]
    rfl
  rw [hsame]
  exact lockstep_write (fun _ _ hs => alike_addRequest hun s.now hs) s s' h

theorem lockstep_defer (hp : g.partners.Browses) (item : Item) (context : Context) (wait : Wait)
    (hun : Unnoticed related userId (contentKey item context)) :
    (g.defer item context userId wait).Lockstep (Session.Beside related) := by
  have hsteps : g.StepsAlike item context.contentType none (Session.Beside related) :=
    stepsAlike_beside hp item context.contentType none
  refine lockstep_bind hsteps.expiry fun expiresAt => ?_
  refine lockstep_bind (lockstep_addRequest hun) fun request => ?_
  refine lockstep_bind (hsteps.noted _ _) fun _ => ?_
  exact lockstep_bind (hp.tellRequired request).besides fun _ => lockstep_pure _

/-- A submission does the same beside tables of requests that answer it alike, if it looks at them. -/
theorem lockstep_process_beside (hp : g.partners.Browses) (item : Item) {context : Context}
    {verdicts : List Verdict}
    (hun : Consults context verdicts →
      ∀ u, context.primaryUserId = some u → Unnoticed related u (contentKey item context)) :
    (g.process item context verdicts).Lockstep (Session.Beside related) :=
  (stepsAlike_beside hp item context.contentType context.primaryUserId).process (V := Eq)
    (fun _ => rfl) (fun _ _ h => h)
    (fun consults => (browses_liveRequest (hun consults)).lockstep (indistinct_beside related))
    fun consults u hu wait => lockstep_defer hp item context wait (hun consults u hu)

end Gate

end Watchgate
