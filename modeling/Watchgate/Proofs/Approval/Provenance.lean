import Watchgate.Proofs.Approval.Failures
import Watchgate.Proofs.Approval.Table
import Watchgate.Proofs.Routing.TargetType

/-!
# Where honoured requests come from

A request is looked up by its user and its content key alone. Whatever is found was made by an earlier
submission of the same user under the same key, so it is of the type of content submitted then, and what
it leads to was among the decisions on that submission. Movies and shows are kept apart by their keys
only: under one key a movie and a show share a request.
-/

namespace Watchgate

open Act Calendar Store

/-! ## Submissions -/

namespace Event

/-- The event submits content of a type for a user, under a key in the form in which it is stored. -/
def Submits (userId : Int) (key contentType : Value) : Event → Prop
  | .process item context _ => context.primaryUserId = some userId ∧
      Column.text (contentKey item context) = .ok key ∧ context.contentType = contentType
  | _ => False

/-- The placements that the decisions on a submission lead to. -/
def proposals : Event → List Placement
  | .process _ _ verdicts => verdicts.filterMap Verdict.proposed
  | _ => []

/-- The decisions on a submission lead to instances of the type that serves its content. -/
def Serving : Event → Prop
  | .process _ context verdicts => Router.Serving context verdicts
  | _ => True

/-- The event could have made the request: it submits content of this type for the user and the key,
and a decision on it leads where the request leads. -/
structure Files (e : Event) (r : Request) : Prop where
  submits : ∃ contentType, e.Submits r.userId r.key contentType ∧
    Column.text contentType = .ok r.contentType
  proposes : ∃ p ∈ e.proposals, r.verdict.proposed = some p

theorem Files.evolve {e : Event} {r r' : Request} (h : e.Files r) (he : r.Evolves r') :
    e.Files r' where
  submits := by
    rw [he.matter.userId, he.matter.key, he.matter.contentType]
    exact h.submits
  proposes := by
    rw [he.matter.verdict]
    exact h.proposes

/-- A request that is there after an event was there before, or the event made it. -/
theorem Change.filed {service : Service} {s : Session} {e : Event}
    {x : Except Failure Answer × Session} (h : Change service s e x)
    (hk : WellKept s.store.requests) {r : Request} (hr : r ∈ x.2.store.requests) :
    (∃ r₀ ∈ s.store.requests, r₀.Evolves r) ∨ e.Files r := by
  rcases (h.lawful hk).row_cases hr with hold | ⟨-, hsubmitted⟩
  · exact .inl hold
  · cases h with
    | processed effect =>
      rcases effect.requests_cases with
        hsame | ⟨primary, p, rest, userId, wait, _, request, _, first, user, proposed, added, hrows⟩
      · rw [hsame] at hr
        exact .inl ⟨r, hr, .stays⟩
      · obtain ⟨kept, row, hkept, hrow, rfl, hrequest⟩ := addRequest_ok added
        rw [hrows] at hr
        rcases List.mem_append.1 hr with hr | hr
        · exact .inl ⟨r, hkept.sublist.subset hr, .stays⟩
        · obtain rfl := List.mem_singleton.1 hr
          refine .inr ⟨⟨_, ⟨?_, ?_, rfl⟩, ?_⟩, p, ?_, ?_⟩
          · rw [hrow.userId, hrequest]
            exact user
          · have hkey := (Column.requiredText_ok hrow.key).1
            rwa [hrequest] at hkey
          · have htype := (Column.requiredText_ok hrow.contentType).1
            rwa [hrequest] at htype
          · rw [proposals, ← Gate.placements_of_first first]
            exact List.mem_cons_self
          · rw [hrow.verdict, hrequest]
            exact (recoded_proposed wait.verdict).trans proposed
    | idle same =>
      rw [same.requests] at hr
      exact .inl ⟨r, hr, .stays⟩
    | _ => cases hsubmitted

end Event

/-- Every request that a run leaves was made by one of its submissions, or by what came before it. -/
theorem Linked.filed {s s' : Session} {sts : List Step} (h : Linked s sts s')
    (hk : WellKept s.store.requests) (earlier : List Step)
    (hs : ∀ r ∈ s.store.requests, ∃ st ∈ earlier, st.event.Files r) :
    ∀ r ∈ s'.store.requests, ∃ st ∈ earlier ++ sts, st.event.Files r := by
  induction h generalizing earlier with
  | nil =>
    rw [List.append_nil]
    exact hs
  | @cons s _ st sts happens rest ih =>
    obtain ⟨service, he⟩ := happens.perform_eq
    have hchange := st.event.change service st.before
    rw [happens.before_eq, he] at hchange
    have hnext : ∀ r ∈ st.after.store.requests, ∃ st' ∈ earlier ++ [st], st'.event.Files r := by
      intro r hr
      rcases hchange.filed hk hr with ⟨r₀, hr₀, hev⟩ | hfiles
      · obtain ⟨st', hst', hfiles⟩ := hs r₀ hr₀
        exact ⟨st', List.mem_append_left _ hst', hfiles.evolve hev⟩
      · exact ⟨st, List.mem_append_right _ List.mem_cons_self, hfiles⟩
    have hlast := ih ((hchange.lawful hk).wellKept hk) (earlier ++ [st]) hnext
    rwa [List.append_assoc, List.singleton_append] at hlast

/-! ## Attempts -/

namespace Act

variable {α β : Type} {ps : List Placement}

/-- Whatever comes of it, the act attempts to add content at these placements only. -/
def Tries (ps : List Placement) (x : Act α) : Prop :=
  ∀ s : Session, ∃ new, (x s).2.attempts = s.attempts ++ new ∧ ∀ a ∈ new, a.placement ∈ ps

theorem KeepsAttempts.tries {x : Act α} (h : x.KeepsAttempts) : x.Tries ps := fun s =>
  ⟨[], by rw [h s, List.append_nil], fun a ha => by cases ha⟩

theorem tries_bind {x : Act α} {f : α → Act β} (hx : x.Tries ps) (hf : ∀ a, (f a).Tries ps) :
    (x >>= f).Tries ps := by
  intro s
  obtain ⟨new, hnew, hps⟩ := hx s
  rcases bind_cases x f s with ⟨a, s', h, hb⟩ | ⟨e, s', h, hb⟩
  · rw [hb]
    rw [h] at hnew
    obtain ⟨new', hnew', hps'⟩ := hf a s'
    refine ⟨new ++ new', by rw [hnew', hnew, List.append_assoc], fun b hb => ?_⟩
    exact (List.mem_append.1 hb).elim (hps b) (hps' b)
  · rw [hb]
    rw [h] at hnew
    exact ⟨new, hnew, hps⟩

end Act

theorem Partners.tries_attemptAll {p : Partners} (hp : p.Quiet) (item : Item)
    {ps placements : List Placement} (h : ∀ q ∈ placements, q ∈ ps) :
    (p.attemptAll item placements).Tries ps := by
  induction placements with
  | nil => exact (quiet_pure _).keepsAttempts.tries
  | cons q placements ih =>
    obtain ⟨hq, hrest⟩ := List.forall_mem_cons.1 h
    have hone : (p.attempt item q).Tries ps := fun s =>
      ⟨_, (attempted hp item q s).attempts, fun a ha => by rw [List.mem_singleton.1 ha]; exact hq⟩
    exact tries_bind hone fun _ => tries_bind (ih hrest) fun _ => (quiet_pure _).keepsAttempts.tries

namespace Gate

variable {g : Gate} {item : Item} {context : Context} {verdicts : List Verdict}
  {ps : List Placement}

theorem tries_route (hp : g.partners.Quiet) (contentType : Value) {placements : List Placement}
    (h : ∀ q ∈ placements, q ∈ ps) (counted : Option Int) :
    (g.route item contentType placements counted).Tries ps := by
  refine tries_bind (Partners.tries_attemptAll hp item h) fun taken => ?_
  have hcounted : (counted.forM fun userId => Quota.recordUsage userId contentType).KeepsAttempts := by
    cases counted with
    | none => exact (quiet_pure _).keepsAttempts
    | some userId =>
      exact keepsAttempts_bind (quiet_ask _).keepsAttempts fun _ => keepsAttempts_write _ _ _
  refine KeepsAttempts.tries ?_
  split
  · exact (quiet_pure _).keepsAttempts
  · exact keepsAttempts_bind hcounted fun _ => (quiet_pure _).keepsAttempts

/-- Honouring a request attempts at most what the request leads to. -/
theorem tries_honour (hp : g.partners.Quiet) (item : Item) (contentType : Value) (r : Request) :
    (g.honour item contentType r).Tries r.verdict.proposed.toList := by
  rcases g.honour_cases item contentType r with ⟨text, o, -, hb⟩ | hb
  · rw [hb]
    exact (quiet_bind (quiet_note _ _) fun _ => quiet_pure _).keepsAttempts.tries
  · rw [hb]
    unfold replay
    split
    · exact (quiet_pure _).keepsAttempts.tries
    · rename_i p hproposed
      refine tries_bind (quiet_note _ _).keepsAttempts.tries fun _ => ?_
      refine tries_bind (tries_route hp contentType (fun q hq => ?_) none) fun _ =>
        (quiet_pure _).keepsAttempts.tries
      rw [hproposed]
      exact hq

theorem tries_receive (hp : g.partners.Quiet) (item : Item) (context : Context) (primary : Verdict)
    (p : Placement) (placements : List Placement) :
    (g.receive item context primary p placements).Tries placements := by
  refine tries_bind (quiet_reasonToWait _ _ _ _).keepsAttempts.tries fun reason => ?_
  cases reason with
  | none => exact tries_route hp _ (fun q hq => hq) _
  | some wait =>
    cases context.primaryUserId with
    | none => exact (quiet_bind (quiet_note _ _) fun _ => quiet_pure _).keepsAttempts.tries
    | some userId => exact (keepsAttempts_defer hp userId wait).tries

/-! ## Honoured requests -/

/-- The gate answers the submission by a request that is there already. -/
structure Honours (item : Item) (context : Context) (verdicts : List Verdict) (s : Session)
    (r : Request) : Prop where
  consults : Consults context verdicts
  found : (liveRequest context.primaryUserId (contentKey item context) s).1 = .ok (some r)

variable {s : Session} {r : Request}

/-- The request is stored for the user and the key of the submission. -/
theorem Honours.row (h : Honours item context verdicts s r) :
    context.primaryUserId = some r.userId ∧
      Column.text (contentKey item context) = .ok r.key ∧
      ∃ row ∈ s.store.requests, r = named s.store row := by
  have hfound := h.found
  rcases hlive : liveRequest context.primaryUserId (contentKey item context) s with ⟨found, s'⟩
  rw [hlive] at hfound
  obtain rfl : found = .ok (some r) := hfound
  obtain ⟨userId, huser, hstored, -⟩ := (liveRequest_returns hlive).2 r rfl
  obtain ⟨stored, row, hkey, hrow, rfl⟩ := getRequestFor_ok hstored
  obtain ⟨hrowUser, hrowKey⟩ := Prod.mk.inj (isRequestFor_subject (List.find?_some hrow))
  refine ⟨huser.trans (congrArg some hrowUser.symm), ?_, row, List.mem_of_find?_eq_some hrow, rfl⟩
  exact hkey.trans (congrArg Except.ok hrowKey.symm)

theorem exists_honours {β : Type} {f : Request → β} {b : β} (item : Item)
    (hc : Consults context verdicts)
    (h : (liveRequest context.primaryUserId (contentKey item context) s).1.toOption.join.map f
      = some b) : ∃ r, Honours item context verdicts s r ∧ f r = b := by
  rcases hlive : (liveRequest context.primaryUserId (contentKey item context) s).1 with e | found
  · rw [hlive] at h
    cases h
  · rw [hlive] at h
    cases found with
    | none => cases h
    | some r => exact ⟨r, ⟨hc, hlive⟩, Option.some.inj h⟩

/-- A submission that is not synchronised attempts what its decisions lead to, or what the request leads
to that it is answered by. -/
theorem process_tries (hp : g.partners.Quiet) (item : Item) (verdicts : List Verdict)
    (hasked : context.syncing = false) (s : Session) :
    ∃ new, (g.process item context verdicts s).2.attempts = s.attempts ++ new ∧
      ∀ a ∈ new, a.placement ∈ verdicts.filterMap Verdict.proposed ∨
        ∃ r, Honours item context verdicts s r ∧ r.verdict.proposed = some a.placement := by
  have hway := g.process_handles item context verdicts
  generalize hx : g.process item context verdicts = x at hway ⊢
  cases hway with
  | nothing => exact ⟨[], (List.append_nil _).symm, fun a ha => by cases ha⟩
  | rejected => exact ⟨[], (List.append_nil _).symm, fun a ha => by cases ha⟩
  | synchronised _ syncing =>
    rw [hasked] at syncing
    cases syncing
  | @asked primary p rest first consults =>
    rcases hlive : liveRequest context.primaryUserId (contentKey item context) s with ⟨found, s'⟩
    cases found with
    | error e =>
      rw [bind_of_error hlive]
      have hsame := (quiet_liveRequest _ _).of_eq hlive
      exact ⟨[], by rw [hsame.attempts, List.append_nil], fun a ha => by cases ha⟩
    | ok found =>
      obtain ⟨rfl, -⟩ := liveRequest_returns hlive
      rw [bind_of_ok hlive]
      cases found with
      | some r =>
        obtain ⟨new, hnew, hps⟩ := tries_honour hp item context.contentType r s'
        refine ⟨new, hnew, fun a ha => .inr ⟨r, ⟨consults, by rw [hlive]⟩, ?_⟩⟩
        exact Option.mem_toList.1 (hps a ha)
      | none =>
        obtain ⟨new, hnew, hps⟩ := tries_receive hp item context primary p (p :: rest.map Prod.snd) s'
        rw [placements_of_first first] at hps
        exact ⟨new, hnew, fun a ha => .inl (hps a ha)⟩

end Gate

/-! ## Decisions by routing -/

/-- The operation brings no decisions of its own along. -/
def Operation.TakesRouted (op : Operation) : Prop :=
  ∀ item context verdicts, op ≠ .single (.process item context verdicts)

/-- An operation without decisions of its own takes those of routing, which lead to instances of the type
that serves the content. -/
theorem Operation.serving (service : Service) {op : Operation} (hop : op.TakesRouted) (s : Session) :
    ∀ st ∈ op.steps service s, st.event.Serving := by
  intro st hst
  cases op with
  | single e =>
    rw [List.mem_singleton.1 hst]
    cases e with
    | process item context verdicts => exact absurd rfl (hop item context verdicts)
    | _ => trivial
  | submit item context =>
    unfold steps at hst
    dsimp only at hst
    split at hst
    · rename_i vs hresult
      rcases List.mem_cons.1 hst with rfl | hst
      · trivial
      · rw [List.mem_singleton.1 hst]
        rcases hr : service.router.resolve item context s with ⟨result, s₁⟩
        have hmapped : result.map Event.Answer.verdicts = .ok (.verdicts vs) :=
          (congrArg Prod.fst (map_of_eq Event.Answer.verdicts hr)).symm.trans hresult
        obtain ⟨vs', rfl, hvs⟩ := ok_of_map hmapped
        obtain rfl := Event.Answer.verdicts.inj hvs
        exact service.resolve_serves item context hr
    · rw [List.mem_singleton.1 hst]
      trivial
  | approveAll ids decidedBy notes =>
    obtain ⟨e, he, s', rfl⟩ := Event.mem_steps hst
    obtain ⟨id, -, rfl⟩ := List.mem_map.1 he
    trivial
  | rejectAll ids decidedBy reason =>
    obtain ⟨e, he, s', rfl⟩ := Event.mem_steps hst
    obtain ⟨id, -, rfl⟩ := List.mem_map.1 he
    trivial
  | maintain =>
    obtain ⟨e, he, s', rfl⟩ := Event.mem_steps hst
    simp only [List.mem_cons, List.not_mem_nil, or_false] at he
    rcases he with rfl | rfl | rfl <;> trivial

/-- So it is over a whole course of such operations. -/
theorem Course.serving : ∀ (ts : List Turn) (s : Session),
    (∀ t ∈ ts, t.operation.TakesRouted) → ∀ st ∈ steps ts s, st.event.Serving
  | [], _, _, st, hst => by cases hst
  | t :: ts, s, hts, st, hst => by
    obtain ⟨ht, hts⟩ := List.forall_mem_cons.1 hts
    rcases List.mem_append.1 hst with hst | hst
    · exact Operation.serving t.service ht s st hst
    · exact serving ts _ hts st hst

/-! ## Runs -/

/-- No earlier submission of the user of a submission, under its key, was of another type. -/
def KeyedApart (front : List Step) (st : Step) : Prop :=
  ∀ st₀ ∈ front, ∀ userId key t t', st₀.event.Submits userId key t →
    st.event.Submits userId key t' → t = t'

theorem Event.Submits.serves {e : Event} {userId : Int} {key contentType : Value}
    (h : e.Submits userId key contentType) (hs : e.Serving) {p : Placement} (hp : p ∈ e.proposals) :
    p.instanceType = .text (targetTypeFor contentType) := by
  cases e with
  | process item context verdicts =>
    obtain ⟨v, hv, hproposed⟩ := List.mem_filterMap.1 hp
    rw [← h.2.2]
    exact hs v hv p hproposed
  | _ => cases h

/-- In a run that starts without requests, a request that a submission is answered by was made by an
earlier one of the same user under the same key. -/
theorem Gate.Honours.filed {s s' : Session} {front back : List Step} {st : Step}
    (hs : s.store.requests = []) (h : Linked s (front ++ st :: back) s') {item : Item}
    {context : Context} {verdicts : List Verdict} {r : Request}
    (hr : Honours item context verdicts st.before r) : ∃ st₀ ∈ front, st₀.event.Files r := by
  have hk : WellKept s.store.requests := hs ▸ .nil
  obtain ⟨-, -, row, hrow, rfl⟩ := hr.row
  obtain ⟨st₀, hst₀, hfiles⟩ := h.at_step.1.filed hk []
    (by rw [hs]; exact fun r hr => by cases hr) row hrow
  exact ⟨st₀, hst₀, hfiles.submits, hfiles.proposes⟩

/-- Where keys keep the types apart, it was made for content of the same type. -/
theorem Gate.Honours.filed_alike {s s' : Session} {front back : List Step} {st : Step}
    (hs : s.store.requests = []) (h : Linked s (front ++ st :: back) s') {item : Item}
    {context : Context} {verdicts : List Verdict} (he : st.event = .process item context verdicts)
    (hkeys : KeyedApart front st) {r : Request} (hr : Honours item context verdicts st.before r) :
    ∃ st₀ ∈ front, st₀.event.Files r ∧ st₀.event.Submits r.userId r.key context.contentType ∧
      st.event.Submits r.userId r.key context.contentType ∧
      Column.text context.contentType = .ok r.contentType := by
  obtain ⟨st₀, hst₀, hfiles⟩ := hr.filed hs h
  obtain ⟨contentType, hsubmits, htype⟩ := hfiles.submits
  obtain ⟨huser, hkey, -⟩ := hr.row
  have hsubmitted : st.event.Submits r.userId r.key context.contentType := by
    rw [he]
    exact ⟨huser, hkey, rfl⟩
  obtain rfl := hkeys st₀ hst₀ _ _ _ _ hsubmits hsubmitted
  exact ⟨st₀, hst₀, hfiles, hsubmits, hsubmitted, htype⟩

/-- What is attempted in a submission that is not synchronised. -/
theorem Step.Happens.attempts_process {st : Step} (h : st.Happens st.before) {item : Item}
    {context : Context} {verdicts : List Verdict} (he : st.event = .process item context verdicts)
    (hasked : context.syncing = false) {a : Attempt} (ha : a ∈ st.attempts) :
    a.placement ∈ st.event.proposals ∨ ∃ r, Gate.Honours item context verdicts st.before r ∧
      r.verdict.proposed = some a.placement := by
  obtain ⟨service, hperform⟩ := h.perform_eq
  obtain ⟨new, hnew, htries⟩ := Gate.process_tries (g := service.gate) service.quiet_partners item verdicts
    hasked st.before
  have hafter : st.after = (service.gate.process item context verdicts st.before).2 := by
    rw [he] at hperform
    rcases hx : service.gate.process item context verdicts st.before with ⟨result, s'⟩
    rw [show Event.perform service (.process item context verdicts) st.before = _ from
      map_of_eq _ hx] at hperform
    exact (Prod.mk.inj hperform).2.symm
  rw [attempts, hafter, hnew, List.drop_left] at ha
  rw [he]
  exact htries a ha

/-- In every run that starts without requests, a submission that is answered by a request is answered by
one that an earlier submission made. Unless an earlier submission of the user was of another type under
the same key, the request is of the type of the content; what is attempted without synchronising is what
the decisions on the submission lead to, or those on an earlier one of the same user, key and type; and
where decisions keep to the type of the content, attempts do. So they do over any course of operations in
which submissions take the decisions of routing. -/
theorem honoured_request_of_own_type {s s' : Session} {front back : List Step} {st : Step}
    (hs : s.store.requests = []) (h : Linked s (front ++ st :: back) s') {item : Item}
    {context : Context} {verdicts : List Verdict} (he : st.event = .process item context verdicts)
    (hkeys : KeyedApart front st) :
    (∀ r, Gate.Honours item context verdicts st.before r →
      (∃ st₀ ∈ front, st₀.event.Files r) ∧ Column.text context.contentType = .ok r.contentType) ∧
    (context.syncing = false →
      (∀ a ∈ st.attempts, a.placement ∈ st.event.proposals ∨ ∃ st₀ ∈ front, ∃ userId key,
        st₀.event.Submits userId key context.contentType ∧
        st.event.Submits userId key context.contentType ∧ a.placement ∈ st₀.event.proposals) ∧
      ((∀ st₀ ∈ front ++ [st], st₀.event.Serving) →
        ∀ a ∈ st.attempts, a.placement.Serves context) ∧
      ∀ ts, Course.steps ts s = front ++ st :: back → (∀ t ∈ ts, t.operation.TakesRouted) →
        ∀ a ∈ st.attempts, a.placement.Serves context) := by
  refine ⟨fun r hr => ?_, fun hasked => ?_⟩
  · obtain ⟨st₀, hst₀, hfiles, -, -, htype⟩ := hr.filed_alike hs h he hkeys
    exact ⟨⟨st₀, hst₀, hfiles⟩, htype⟩
  have hattempts : ∀ a ∈ st.attempts, a.placement ∈ st.event.proposals ∨ ∃ st₀ ∈ front,
      ∃ userId key, st₀.event.Submits userId key context.contentType ∧
      st.event.Submits userId key context.contentType ∧ a.placement ∈ st₀.event.proposals := by
    intro a ha
    have hhappens := h.happens (List.mem_append_right _ List.mem_cons_self)
    rcases hhappens.attempts_process he hasked ha with hown | ⟨r, hr, hproposed⟩
    · exact .inl hown
    · obtain ⟨st₀, hst₀, hfiles, hsubmits, hsubmitted, -⟩ := hr.filed_alike hs h he hkeys
      obtain ⟨p, hp, hleads⟩ := hfiles.proposes
      obtain rfl : p = a.placement := Option.some.inj (hleads.symm.trans hproposed)
      exact .inr ⟨st₀, hst₀, r.userId, r.key, hsubmits, hsubmitted, hp⟩
  have hserves : (∀ st₀ ∈ front ++ [st], st₀.event.Serving) →
      ∀ a ∈ st.attempts, a.placement.Serves context := by
    intro hserving a ha
    rcases hattempts a ha with hown | ⟨st₀, hst₀, userId, key, hsubmits, -, hp⟩
    · have hserves := hserving st (List.mem_append_right _ List.mem_cons_self)
      rw [he] at hown hserves
      obtain ⟨v, hv, hproposed⟩ := List.mem_filterMap.1 hown
      exact hserves v hv _ hproposed
    · exact hsubmits.serves (hserving st₀ (List.mem_append_left _ hst₀)) hp
  refine ⟨hattempts, hserves, fun ts hsteps hts => hserves fun st₀ hst₀ => ?_⟩
  refine Course.serving ts s hts st₀ ?_
  rw [hsteps]
  exact (List.mem_append.1 hst₀).elim (List.mem_append_left _) fun hlast =>
    List.mem_append_right _ (List.mem_singleton.1 hlast ▸ List.mem_cons_self)

/-- For instance, a show that was approved for Ann is asked for again. -/
theorem honoured_request_of_own_type_show :
    let service : Service := {}
    let s : Session := {
      store := {
        users := [{ id := 1, name := .text "Ann" }]
        instances := [{ id := 1, type := .text "sonarr" }] }
      now := .ofDate ⟨738959⟩ }
    let item : Item := { title := .text "Fargo" }
    let context : Context := { contentType := .text "show", userId := .one 1 }
    let sonarr : Placement := { instanceId := 1, instanceType := .text "sonarr" }
    let wait : Verdict :=
      .requireApproval ⟨.text "New", .text "router_rule", [], some sonarr⟩
    let filed := (Event.process item context [wait]).step service s
    let approved := (Event.approve 1 (.int 7) .null).step service filed.after
    let asked := (Event.process item context [.route sonarr]).step service approved.after
    Linked s [filed, approved, asked] asked.after ∧ KeyedApart [filed, approved] asked ∧
      (∃ r, Gate.Honours item context [.route sonarr] asked.before r ∧
        Column.text context.contentType = .ok r.contentType) ∧
      asked.attempts.length = 1 ∧ ∀ a ∈ asked.attempts, a.placement.Serves context := by
  intro service s item context sonarr wait filed approved asked
  have hlinked : Linked s ([filed, approved] ++ asked :: []) asked.after :=
    .cons ⟨service, rfl⟩ (.cons ⟨service, rfl⟩ (.cons ⟨service, rfl⟩ (.nil asked.after)))
  have hfiled : filed.event = .process item context [wait] := rfl
  have happroved : approved.event = .approve 1 (.int 7) .null := rfl
  have hasked : asked.event = .process item context [.route sonarr] := rfl
  have hkeys : KeyedApart [filed, approved] asked := by
    intro st₀ hst₀ userId key t t' ht ht'
    rw [hasked] at ht'
    rcases List.mem_cons.1 hst₀ with h | hst₀
    · rw [h, hfiled] at ht
      exact ht.2.2.symm.trans ht'.2.2
    · rw [List.mem_singleton.1 hst₀, happroved] at ht
      cases ht
  have hserves : ∀ p, some sonarr = some p → p.Serves context := by
    intro p hp
    obtain rfl := Option.some.inj hp
    rfl
  have hserving : ∀ st₀ ∈ [filed, approved, asked], st₀.event.Serving := by
    rw [List.forall_mem_cons, List.forall_mem_cons, List.forall_mem_singleton, hfiled, happroved,
      hasked]
    exact ⟨Router.serving_singleton hserves, trivial, Router.serving_singleton hserves⟩
  obtain ⟨hrequests, hattempts⟩ := honoured_request_of_own_type rfl hlinked hasked hkeys
  have hconsults : Gate.Consults context [.route sonarr] := ⟨rfl, by decide, ⟨_, .head _, rfl⟩⟩
  obtain ⟨r, hr, -⟩ := Gate.exists_honours (f := Request.id) (b := 1) (s := asked.before) item hconsults
    (by decide +kernel)
  refine ⟨hlinked, hkeys, ⟨r, hr, (hrequests r hr).2⟩, by decide +kernel, ?_⟩
  exact (hattempts rfl).2.1 hserving

/-- A movie that was approved for Ann is found when she asks for a show of the same title: the show is
added to the instance for movies. So is a show if the decision on an earlier submission of it named that
instance. -/
theorem show_added_by_request_for_movie :
    let service : Service := {}
    let s : Session := {
      store := {
        users := [{ id := 1, name := .text "Ann" }]
        instances := [{ id := 1, type := .text "radarr" }, { id := 1, type := .text "sonarr" }] }
      now := .ofDate ⟨738959⟩ }
    let item : Item := { title := .text "Fargo" }
    let movie : Context := { contentType := .text "movie", userId := .one 1 }
    let series : Context := { contentType := .text "show", userId := .one 1 }
    let sonarr : Verdict := .route { instanceId := 1, instanceType := .text "sonarr" }
    let wait : Verdict := .requireApproval ⟨.text "New", .text "router_rule", [],
      some { instanceId := 1, instanceType := .text "radarr" }⟩
    let filed := fun first : Context => (Event.process item first [wait]).step service s
    let approved := fun first => (Event.approve 1 (.int 7) .null).step service (filed first).after
    let asked := fun first =>
      (Event.process item series [sonarr]).step service (approved first).after
    (∀ first, Linked s [filed first, approved first, asked first] (asked first).after) ∧
      (∃ r, Gate.Honours item series [sonarr] (asked movie).before r ∧
        r.contentType.text? = some "movie") ∧
      ((asked movie).attempts.map fun a => (a.placement.instanceType.text?, a.accepted))
        = [(some "radarr", some true)] ∧
      KeyedApart [filed series, approved series] (asked series) ∧
      ((asked series).attempts.map fun a => (a.placement.instanceType.text?, a.accepted))
        = [(some "radarr", some true)] := by
  intro service s item movie series sonarr wait filed approved asked
  have hconsults : Gate.Consults series [sonarr] := ⟨rfl, by decide, ⟨_, .head _, rfl⟩⟩
  have hkeys : KeyedApart [filed series, approved series] (asked series) := by
    intro st₀ hst₀ userId key t t' ht ht'
    replace ht' : (Event.process item series [sonarr]).Submits userId key t' := ht'
    rcases List.mem_cons.1 hst₀ with h | hst₀
    · rw [h] at ht
      replace ht : (Event.process item series [wait]).Submits userId key t := ht
      exact ht.2.2.symm.trans ht'.2.2
    · rw [List.mem_singleton.1 hst₀] at ht
      cases ht
  refine ⟨fun first => ?_, ?_, by decide +kernel, hkeys, by decide +kernel⟩
  · exact .cons ⟨service, rfl⟩ (.cons ⟨service, rfl⟩ (.cons ⟨service, rfl⟩ (.nil _)))
  · exact Gate.exists_honours item hconsults (by decide +kernel)

end Watchgate
