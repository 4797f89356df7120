import Watchgate.Proofs.Approval.Desk
import Watchgate.Proofs.Approval.Gate
import Watchgate.Proofs.Routing.Browsing
import Watchgate.Proofs.Store.UserTable
import Watchgate.Service

/-!
# Events

An event is one thing that happens in a session: the service is asked for something, an
administrator changes a table, the clock goes on, or the other servers change. `Event.change` says
once what each event can do to the clock, to the counted requests, to the requests for approval and
to the attempts to add content; whatever holds along runs is derived from it. No event drops a user.
What events do to the other tables is left open.
-/

namespace Watchgate

open Act Calendar

/-- One thing that happens in a session. -/
inductive Event where
  | setClock (t : Moment)
  | setNetwork (n : Network)
  /-- Operations of the store go out of order, or into order again. -/
  | setOutages (outages : List Outage)
  /-- The connections are given up, as at a restart. -/
  | disconnect
  | putInstance (i : Instance)
  | putUser (id : Int) (name requiresApproval : Value)
  | putRule (r : Rule)
  /-- All rules but some are dropped. -/
  | keepRules (ids : List Int)
  | putQuota (q : Quota)
  | dropQuota (userId : Int) (contentType : Value)
  /-- A configuration is put into the store. -/
  | seed (config : Entries)
  /-- It is resolved where an item goes. -/
  | resolve (item : Item) (context : Context)
  | process (item : Item) (context : Context) (verdicts : List Verdict)
  | approve (id : Int) (decidedBy notes : Value)
  | reject (id : Int) (decidedBy reason : Value)
  | delete (id : Int)
  /-- Requests whose time has run out are marked. -/
  | sweep
  /-- Requests that have been expired for some days are dropped. -/
  | cleanup (days : Int)
  /-- Requests counted some days ago are dropped. -/
  | cleanUsage (days : Int)

/-- What an event answers, as far as it matters here. -/
inductive Event.Answer where
  | done
  | verdicts (vs : List Verdict)
  | outcome (o : Outcome)
  | decision (d : Decision)

namespace Event

/-- An act whose value does not matter here. -/
def plain {α : Type} (x : Act α) : Act Answer := (fun _ => .done) <$> x

/-- What happens at an event. -/
def perform (service : Service) : Event → Act Answer
  | .setClock t => plain (Act.change fun s => { s with now := t })
  | .setNetwork network => plain (Act.change fun s => { s with network })
  | .setOutages outages => plain (Act.change fun s => { s with outages })
  | .disconnect => plain (Act.change fun s => { s with clients := [] })
  | .putInstance i => plain (Act.putInstance i)
  | .putUser id name requiresApproval => plain (Act.putUser id name requiresApproval)
  | .putRule r => plain (Act.putRule r)
  | .keepRules ids => plain (Act.keepRules ids)
  | .putQuota q => plain (Act.putQuota q)
  | .dropQuota userId contentType => plain (Act.dropQuota userId contentType)
  | .seed config => plain (Config.seed config)
  | .resolve item context => .verdicts <$> service.router.resolve item context
  | .process item context verdicts => .outcome <$> service.gate.process item context verdicts
  | .approve id decidedBy notes => .decision <$> Desk.approve service.partners id decidedBy notes
  | .reject id decidedBy reason => .decision <$> Desk.reject service.partners id decidedBy reason
  | .delete id => plain (Desk.delete id)
  | .sweep => plain Desk.sweep
  | .cleanup days => plain (Desk.cleanup days)
  | .cleanUsage days => plain (Quota.cleanup days)

/-- A user submits a film that is to go to the first instance. -/
def film (userId : Int) (title : String) (guids : List String) : Event :=
  .process { title := .text title, guids } { contentType := .text "movie", userId := .one userId }
    [.route { instanceId := 1 }]

/-- Whether the event is a submission or a decision. -/
def isDealing : Event → Bool
  | .process .. => true
  | .approve .. => true
  | .reject .. => true
  | _ => false

/-- The id of the request that an event decides, if it is a decision. -/
def decided? : Event → Option Int
  | .approve id _ _ => some id
  | .reject id _ _ => some id
  | _ => none

theorem isDealing_of_decided {e : Event} {id : Int} (h : e.decided? = some id) :
    e.isDealing = true := by
  cases e with
  | approve => rfl
  | reject => rfl
  | _ => cases h

end Event

/-! ## Events that prepare -/

/-- Two stores with the same counted requests and requests for approval, and no user less. -/
structure Store.SameLedger (s s' : Store) : Prop where
  usage : s'.usage = s.usage
  requests : s'.requests = s.requests
  knows : ∀ userId, s.Knows userId → s'.Knows userId

/-- Two sessions with the same clock, counted requests, requests for approval and attempts. -/
structure Session.SameLedger (s s' : Session) : Prop extends s.store.SameLedger s'.store where
  now : s'.now = s.now
  attempts : s'.attempts = s.attempts

namespace Session

theorem SameLedger.trans {s s' s'' : Session} (h : s.SameLedger s') (h' : s'.SameLedger s'') :
    s.SameLedger s'' :=
  ⟨⟨h'.usage.trans h.usage, h'.requests.trans h.requests,
    fun userId hu => h'.knows userId (h.knows userId hu)⟩, h'.now.trans h.now,
    h'.attempts.trans h.attempts⟩

theorem SameRecords.sameLedger {s s' : Session} (h : s.SameRecords s') : s.SameLedger s' :=
  ⟨⟨by rw [h.store], by rw [h.store], fun _ hu => h.store ▸ hu⟩, h.now, h.attempts⟩

end Session

namespace Act

variable {α β : Type}

/-- The act changes neither the clock nor the counted requests nor the requests for approval, and it
attempts nothing. -/
def KeepsLedger (x : Act α) : Prop := ∀ s : Session, s.SameLedger (x s).2

theorem Quiet.keepsLedger {x : Act α} (h : x.Quiet) : x.KeepsLedger := fun s => (h s).sameLedger

theorem KeepsLedger.of_eq {x : Act α} (h : x.KeepsLedger) {s s' : Session} {r : Except Failure α}
    (hx : x s = (r, s')) : s.SameLedger s' := by
  have := h s
  rwa [hx] at this

theorem keepsLedger_bind {x : Act α} {f : α → Act β} (hx : x.KeepsLedger)
    (hf : ∀ a, (f a).KeepsLedger) : (x >>= f).KeepsLedger := by
  intro s
  rcases bind_cases x f s with ⟨a, s', h, hb⟩ | ⟨e, s', h, hb⟩
  · rw [hb]
    exact (hx.of_eq h).trans (hf a s')
  · rw [hb]
    exact hx.of_eq h

theorem keepsLedger_forM {f : α → Act Unit} (hf : ∀ a, (f a).KeepsLedger) :
    ∀ l : List α, (l.forM f).KeepsLedger
  | [] => (quiet_pure _).keepsLedger
  | a :: l => keepsLedger_bind (hf a) fun _ => keepsLedger_forM hf l

theorem keepsLedger_write {call : StoreCall} {first : Option Value}
    {f : Store → Except Failure (α × Store)}
    (hf : ∀ {s a s'}, f s = .ok (a, s') → s.SameLedger s') :
    (write call first f).KeepsLedger := by
  intro s
  rcases write_cases call first f s with ⟨a, store, hstore, h⟩ | ⟨e, s', h, hs⟩
  · rw [h]
    exact ⟨hf hstore, rfl, rfl⟩
  · rw [h]
    exact hs.sameLedger

theorem keepsLedger_putInstance (i : Instance) : (putInstance i).KeepsLedger :=
  keepsLedger_write fun h => by
    obtain ⟨row, -, h⟩ := ok_of_bind h
    obtain ⟨-, rfl⟩ := Prod.mk.inj (pure_ok h)
    exact ⟨rfl, rfl, fun _ hu => hu.of_users rfl⟩

theorem keepsLedger_putUser (id : Int) (name requiresApproval : Value) :
    (putUser id name requiresApproval).KeepsLedger :=
  keepsLedger_write fun h => by
    have hknows := fun userId (hu : Store.Knows _ userId) => hu.putUser h
    obtain ⟨known, -, h⟩ := ok_of_bind h
    obtain ⟨name, -, h⟩ := ok_of_bind h
    obtain ⟨flag, -, h⟩ := ok_of_bind h
    obtain ⟨-, rfl⟩ := Prod.mk.inj (pure_ok h)
    exact ⟨rfl, rfl, hknows⟩

theorem keepsLedger_putRule (r : Rule) : (putRule r).KeepsLedger :=
  keepsLedger_write fun h => by
    obtain ⟨_, -, h⟩ := ok_of_bind h
    obtain ⟨row, -, h⟩ := ok_of_bind h
    obtain ⟨-, rfl⟩ := Prod.mk.inj (pure_ok h)
    exact ⟨rfl, rfl, fun _ hu => hu.of_users rfl⟩

theorem keepsLedger_keepRules (ids : List Int) : (keepRules ids).KeepsLedger :=
  keepsLedger_write fun h => by
    obtain ⟨stored, -, h⟩ := ok_of_bind h
    obtain ⟨-, rfl⟩ := Prod.mk.inj (pure_ok h)
    exact ⟨rfl, rfl, fun _ hu => hu.of_users rfl⟩

theorem keepsLedger_putQuota (q : Quota) : (putQuota q).KeepsLedger :=
  keepsLedger_write fun h => by
    obtain ⟨user, -, h⟩ := ok_of_bind h
    obtain ⟨row, -, h⟩ := ok_of_bind h
    obtain ⟨-, rfl⟩ := Prod.mk.inj (pure_ok h)
    exact ⟨rfl, rfl, fun _ hu => hu.of_users rfl⟩

theorem keepsLedger_dropQuota (userId : Int) (contentType : Value) :
    (dropQuota userId contentType).KeepsLedger :=
  keepsLedger_write fun h => by
    obtain ⟨_, -, h⟩ := ok_of_bind h
    obtain ⟨_, -, h⟩ := ok_of_bind h
    obtain ⟨-, rfl⟩ := Prod.mk.inj (pure_ok h)
    exact ⟨rfl, rfl, fun _ hu => hu.of_users rfl⟩

/-- Seeding the store leaves everything that was counted or asked for. -/
theorem keepsLedger_seed (config : Entries) : (Config.seed config).KeepsLedger := by
  refine keepsLedger_bind (quiet_ofResult _).keepsLedger fun instances => ?_
  refine keepsLedger_bind (keepsLedger_forM keepsLedger_putInstance instances) fun _ => ?_
  refine keepsLedger_bind (quiet_ofResult _).keepsLedger fun users => ?_
  refine keepsLedger_bind (keepsLedger_forM (fun u => keepsLedger_putUser _ _ _) users) fun _ => ?_
  refine keepsLedger_bind (quiet_ofResult _).keepsLedger fun quotas => ?_
  refine keepsLedger_bind (keepsLedger_forM keepsLedger_putQuota quotas) fun _ => ?_
  refine keepsLedger_bind (quiet_ofResult _).keepsLedger fun rules => ?_
  refine keepsLedger_bind (keepsLedger_forM keepsLedger_putRule rules) fun _ => ?_
  exact keepsLedger_bind (keepsLedger_keepRules _) fun _ => (quiet_note _ _).keepsLedger

end Act

theorem Service.browses_router (service : Service) : service.router.Browses where
  evaluators e he := by
    obtain ⟨evaluator, -, rfl⟩ := List.mem_map.1 he
    exact Runner.browses_ofEvaluator evaluator
  plugins p hp := by
    change p ∈ (if service.usesPlugins then Runner.pluginFamilies.map Runner.ofPlugin else []) at hp
    split at hp
    · obtain ⟨family, -, rfl⟩ := List.mem_map.1 hp
      exact Runner.browses_ofPlugin family
    · cases hp
  enrich f hf item contentType := by
    obtain rfl := Option.some.inj hf
    exact (Lookup.browses_enrich item contentType).ofInstances

theorem Service.quiet_router (service : Service) : service.router.Quiet :=
  service.browses_router.quiet

theorem Service.browses_partners (service : Service) : service.partners.Browses :=
  Partners.real_browses _ _

theorem Service.quiet_partners (service : Service) : service.partners.Quiet :=
  service.browses_partners.quiet

/-! ## The change that an event makes -/

namespace Event

/-- What an event can do: its result, and the session after it. -/
inductive Change (service : Service) (s : Session) :
    Event → Except Failure Answer × Session → Prop where
  /-- Nothing that is kept account of changes. -/
  | idle {e : Event} {result : Except Failure Answer} {s' : Session} (same : s.SameLedger s')
      (other : e.isDealing = false) : Change service s e (result, s')
  | clock {t : Moment} {result : Except Failure Answer} :
      Change service s (.setClock t) (result, { s with now := t })
  | processed {item : Item} {context : Context} {verdicts : List Verdict}
      {result : Except Failure Outcome} {s' : Session}
      (effect : Gate.Effect item context verdicts s (result, s')) :
      Change service s (.process item context verdicts) (result.map .outcome, s')
  | approved {id : Int} {decidedBy notes : Value} {result : Except Failure Decision} {s' : Session}
      (effect : Desk.Effect service.partners id true s (result, s')) :
      Change service s (.approve id decidedBy notes) (result.map .decision, s')
  | rejected {id : Int} {decidedBy reason : Value} {result : Except Failure Decision}
      {s' : Session} (effect : Desk.Effect service.partners id false s (result, s')) :
      Change service s (.reject id decidedBy reason) (result.map .decision, s')
  | deleted {id : Int} {b : Bool} {store : Store} {result : Except Failure Answer} {s' : Session}
      (dropped : s.store.dropRequest id = .ok (b, store))
      (same : ({ s with store } : Session).SameRecords s') :
      Change service s (.delete id) (result, s')
  | swept {result : Except Failure Answer} {s' : Session}
      (same : ({ s with store := (s.store.expireRequests s.now s.now).2 } : Session).SameRecords s') :
      Change service s .sweep (result, s')
  | cleaned {days : Int} {before : Moment} {result : Except Failure Answer} {s' : Session}
      (same : ({ s with store := (s.store.dropExpired before).2 } : Session).SameRecords s') :
      Change service s (.cleanup days) (result, s')
  | discarded {days : Int} {day : Date} {result : Except Failure Answer} {s' : Session}
      (same : ({ s with store := (s.store.dropUsageBefore day).2 } : Session).SameRecords s') :
      Change service s (.cleanUsage days) (result, s')

theorem plain_of_eq {α : Type} {x : Act α} {s s' : Session} {r : Except Failure α}
    (h : x s = (r, s')) : plain x s = (r.map fun _ => .done, s') := map_of_eq _ h

theorem Change.of_keepsLedger {service : Service} {e : Event} (he : e.isDealing = false)
    {x : Act Answer} (hx : x.KeepsLedger) (s : Session) : Change service s e (x s) :=
  .idle (hx s) he

theorem keepsLedger_plain {α : Type} {x : Act α} (hx : x.KeepsLedger) : (plain x).KeepsLedger := by
  intro s
  rcases h : x s with ⟨r, s'⟩
  rw [plain_of_eq h]
  exact hx.of_eq h

theorem delete_change (service : Service) (id : Int) (s : Session) :
    Change service s (.delete id) (plain (Desk.delete id) s) := by
  rcases h : Desk.delete id s with ⟨r, s'⟩
  rw [plain_of_eq h]
  rcases written_cases (fun _ => quiet_ite (quiet_note _ _) (quiet_throw _)) h with
    ⟨b, store, hstore, hs⟩ | hs
  · exact .deleted hstore hs
  · exact .idle hs.sameLedger rfl

theorem sweep_change (service : Service) (s : Session) :
    Change service s .sweep (plain Desk.sweep s) := by
  rcases h : Desk.sweep s with ⟨r, s'⟩
  rw [plain_of_eq h]
  unfold Desk.sweep at h
  rw [bind_of_ok (x := Act.now) rfl] at h
  rcases written_cases (fun _ => quiet_ite (quiet_bind (quiet_note _ _) fun _ => quiet_pure _)
    (quiet_pure _)) h with ⟨n, store, hstore, hs⟩ | hs
  · obtain ⟨-, rfl⟩ := Prod.mk.inj (Except.ok.inj hstore)
    exact .swept hs
  · exact .idle hs.sameLedger rfl

theorem cleanup_change (service : Service) (days : Int) (s : Session) :
    Change service s (.cleanup days) (plain (Desk.cleanup days) s) := by
  rcases h : Desk.cleanup days s with ⟨r, s'⟩
  rw [plain_of_eq h]
  unfold Desk.cleanup at h
  rw [bind_of_ok (x := Act.now) rfl] at h
  cases hday : s.now.addDays? (-days) with
  | none =>
    simp only [hday] at h
    exact .idle ((quiet_throw _).of_eq h).sameLedger rfl
  | some before =>
    simp only [hday] at h
    rcases written_cases (fun _ => quiet_ite (quiet_bind (quiet_note _ _) fun _ => quiet_pure _)
      (quiet_pure _)) h with ⟨n, store, hstore, hs⟩ | hs
    · obtain ⟨-, rfl⟩ := Prod.mk.inj (Except.ok.inj hstore)
      exact .cleaned hs
    · exact .idle hs.sameLedger rfl

theorem cleanUsage_change (service : Service) (days : Int) (s : Session) :
    Change service s (.cleanUsage days) (plain (Quota.cleanup days) s) := by
  have hcases := Quota.cleanup_cases days s
  rcases h : Quota.cleanup days s with ⟨r, s'⟩
  rw [plain_of_eq h]
  rw [h] at hcases
  rcases hcases with ⟨day, -, hs⟩ | hs
  · exact .discarded hs
  · exact .idle hs.sameLedger rfl

/-- Every event makes one of the changes listed. -/
theorem change (service : Service) (e : Event) (s : Session) :
    Change service s e (e.perform service s) := by
  have hidle : ∀ {α : Type} {x : Act α} {e : Event}, x.KeepsLedger → e.isDealing = false →
      Change service s e (plain x s) := fun hx he => .of_keepsLedger he (keepsLedger_plain hx) s
  cases e with
  | setClock t => exact .clock
  | setNetwork n => exact hidle (fun s => ⟨⟨rfl, rfl, fun _ hu => hu⟩, rfl, rfl⟩) rfl
  | setOutages outages => exact hidle (fun s => ⟨⟨rfl, rfl, fun _ hu => hu⟩, rfl, rfl⟩) rfl
  | disconnect => exact hidle (fun s => ⟨⟨rfl, rfl, fun _ hu => hu⟩, rfl, rfl⟩) rfl
  | putInstance i => exact hidle (keepsLedger_putInstance i) rfl
  | putUser id name requiresApproval => exact hidle (keepsLedger_putUser _ _ _) rfl
  | putRule r => exact hidle (keepsLedger_putRule r) rfl
  | keepRules ids => exact hidle (keepsLedger_keepRules ids) rfl
  | putQuota q => exact hidle (keepsLedger_putQuota q) rfl
  | dropQuota userId contentType => exact hidle (keepsLedger_dropQuota _ _) rfl
  | seed config => exact hidle (keepsLedger_seed config) rfl
  | resolve item context =>
    have hresolve := Router.browses_resolve service.browses_router item context
    have hquiet := quiet_map Answer.verdicts hresolve.quiet
    exact .of_keepsLedger rfl hquiet.keepsLedger s
  | process item context verdicts =>
    have heffect := service.gate.process_effect service.quiet_partners item context verdicts s
    rcases h : service.gate.process item context verdicts s with ⟨r, s'⟩
    rw [h] at heffect
    rw [show perform service (.process item context verdicts) s = _ from map_of_eq _ h]
    exact .processed heffect
  | approve id decidedBy notes =>
    have heffect := Desk.approve_effect service.quiet_partners id decidedBy notes s
    rcases h : Desk.approve service.partners id decidedBy notes s with ⟨r, s'⟩
    rw [h] at heffect
    rw [show perform service (.approve id decidedBy notes) s = _ from map_of_eq _ h]
    exact .approved heffect
  | reject id decidedBy reason =>
    have heffect := Desk.reject_effect service.quiet_partners id decidedBy reason s
    rcases h : Desk.reject service.partners id decidedBy reason s with ⟨r, s'⟩
    rw [h] at heffect
    rw [show perform service (.reject id decidedBy reason) s = _ from map_of_eq _ h]
    exact .rejected heffect
  | delete id => exact delete_change service id s
  | sweep => exact sweep_change service s
  | cleanup days => exact cleanup_change service days s
  | cleanUsage days => exact cleanUsage_change service days s

/-- The change that a decision makes is the effect of one. -/
theorem Change.effect {service : Service} {s : Session} {e : Event}
    {x : Except Failure Answer × Session} (h : Change service s e x) {id : Int}
    (hd : e.decided? = some id) :
    ∃ isApproval result, Desk.Effect service.partners id isApproval s (result, x.2) := by
  cases h with
  | approved effect =>
    obtain rfl := Option.some.inj hd
    exact ⟨true, _, effect⟩
  | rejected effect =>
    obtain rfl := Option.some.inj hd
    exact ⟨false, _, effect⟩
  | idle _ other =>
    rw [isDealing_of_decided hd] at other
    cases other
  | _ => cases hd

end Event

end Watchgate
