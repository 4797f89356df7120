import Watchgate.Proofs.Service.Events

/-!
# Runs

An operation is what a caller asks for in one go: a single event, a submission, a batch of decisions,
or a run of maintenance. Its steps are the events that it consists of, and they lead where the
operation itself leads. A course is a sequence of operations, each by a service with settings of its
own, since the service may be restarted with others. What holds at the start and is kept by every
event holds after every course; which courses make sense is not asked.
-/

namespace Watchgate

open Act Calendar

/-- An event that happened. -/
structure Step where
  /-- The session before it. -/
  before : Session
  event : Event
  result : Except Failure Event.Answer
  /-- The session after it. -/
  after : Session

namespace Event

/-- The event as it happens in a session. -/
def step (service : Service) (e : Event) (s : Session) : Step where
  before := s
  event := e
  result := (e.perform service s).1
  after := (e.perform service s).2

/-- Events that happen one after the other, as long as `goesOn` lets them after a result. -/
def steps (service : Service) (goesOn : Except Failure Answer → Bool) :
    List Event → Session → List Step
  | [], _ => []
  | e :: es, s =>
    e.step service s ::
      if goesOn (e.step service s).result then steps service goesOn es (e.step service s).after
      else []

/-- A batch goes on after a decision, and after a request that is not there. -/
def batchGoesOn : Except Failure Answer → Bool
  | .ok _ => true
  | .error (.requestNotFound _) => true
  | .error _ => false

/-- Maintenance goes on after a success. -/
def maintenanceGoesOn : Except Failure Answer → Bool
  | .ok _ => true
  | .error _ => false

end Event

/-- What a caller asks for in one go. -/
inductive Operation where
  | single (e : Event)
  /-- Where an item goes is resolved, and the gate answers. -/
  | submit (item : Item) (context : Context)
  | approveAll (ids : List Int) (decidedBy notes : Value)
  | rejectAll (ids : List Int) (decidedBy reason : Value)
  /-- What is old is marked and dropped. -/
  | maintain

namespace Operation

/-- Carries out an operation. -/
def perform (service : Service) : Operation → Act Unit
  | .single e => (fun _ => ()) <$> e.perform service
  | .submit item context => (fun _ => ()) <$> service.submit item context
  | .approveAll ids decidedBy notes =>
    (fun _ => ()) <$> Desk.approveAll service.partners ids decidedBy notes
  | .rejectAll ids decidedBy reason =>
    (fun _ => ()) <$> Desk.rejectAll service.partners ids decidedBy reason
  | .maintain => (fun _ => ()) <$> service.maintain

/-- The events that an operation consists of, as they happen. -/
def steps (service : Service) : Operation → Session → List Step
  | .single e, s => [e.step service s]
  | .submit item context, s =>
    let resolved := (Event.resolve item context).step service s
    match resolved.result with
    | .ok (.verdicts vs) => [resolved, (Event.process item context vs).step service resolved.after]
    | _ => [resolved]
  | .approveAll ids decidedBy notes, s =>
    Event.steps service Event.batchGoesOn (ids.map fun id => .approve id decidedBy notes) s
  | .rejectAll ids decidedBy reason, s =>
    Event.steps service Event.batchGoesOn (ids.map fun id => .reject id decidedBy reason) s
  | .maintain, s =>
    Event.steps service Event.maintenanceGoesOn
      [.sweep, .cleanup service.cleanupDays, .cleanUsage service.retentionDays] s

end Operation

/-- The step is what some service makes of its event in a session. -/
def Step.Happens (st : Step) (s : Session) : Prop :=
  ∃ service, st = st.event.step service s

theorem Step.Happens.before_eq {st : Step} {s : Session} (h : st.Happens s) : st.before = s := by
  obtain ⟨service, he⟩ := h
  rw [he]
  rfl

theorem Step.Happens.perform_eq {st : Step} {s : Session} (h : st.Happens s) :
    ∃ service, st.event.perform service s = (st.result, st.after) := by
  obtain ⟨service, he⟩ := h
  refine ⟨service, ?_⟩
  rw [he]
  rfl

/-- Steps that follow one another, from a first session to a last one. -/
inductive Linked : Session → List Step → Session → Prop where
  | nil (s : Session) : Linked s [] s
  /-- An event that some service carries out, and the steps after it. -/
  | cons {s s' : Session} {st : Step} {sts : List Step}
      (happens : st.Happens s) (rest : Linked st.after sts s') :
      Linked s (st :: sts) s'

namespace Linked

variable {s s' s'' : Session} {sts sts' : List Step}

theorem step (service : Service) (e : Event) (h : Linked (e.perform service s).2 sts s') :
    Linked s (e.step service s :: sts) s' := .cons ⟨service, rfl⟩ h

theorem single (service : Service) (e : Event) (s : Session) :
    Linked s [e.step service s] (e.perform service s).2 := .step service e (.nil _)

theorem append (h : Linked s sts s') (h' : Linked s' sts' s'') : Linked s (sts ++ sts') s'' := by
  induction h with
  | nil => exact h'
  | cons happens _ ih => exact .cons happens (ih h')

/-- Where steps are cut in two, there is a session in between. -/
theorem split (h : Linked s (sts ++ sts') s'') : ∃ s', Linked s sts s' ∧ Linked s' sts' s'' := by
  induction sts generalizing s with
  | nil => exact ⟨s, .nil s, h⟩
  | cons st sts ih =>
    cases h with
    | cons happens h =>
      obtain ⟨s', h1, h2⟩ := ih h
      exact ⟨s', .cons happens h1, h2⟩

/-- Each step happens in the session before it. -/
theorem happens (h : Linked s sts s') {st : Step} (hst : st ∈ sts) : st.Happens st.before := by
  induction h with
  | nil => cases hst
  | cons happens _ ih =>
    rcases List.mem_cons.1 hst with rfl | hst
    · rw [happens.before_eq]
      exact happens
    · exact ih hst

/-- Each step makes one of the changes that its event can make. -/
theorem change (h : Linked s sts s') {st : Step} (hst : st ∈ sts) :
    ∃ service, Event.Change service st.before st.event (st.result, st.after) := by
  obtain ⟨service, he⟩ := (h.happens hst).perform_eq
  exact ⟨service, he ▸ st.event.change service st.before⟩

/-- What every event keeps holds at each step and in the end. -/
theorem invariant {I : Session → Prop} (hstep : ∀ service e s, I s → I (Event.perform service e s).2)
    (h : Linked s sts s') (hs : I s) : I s' ∧ ∀ st ∈ sts, I st.before ∧ I st.after := by
  induction h with
  | nil => exact ⟨hs, fun st hst => by cases hst⟩
  | @cons s _ st _ happens _ ih =>
    obtain ⟨service, he⟩ := happens.perform_eq
    have hnext := hstep service st.event s hs
    rw [he] at hnext
    obtain ⟨hlast, hsteps⟩ := ih hnext
    refine ⟨hlast, fun st hst => ?_⟩
    rcases List.mem_cons.1 hst with rfl | hst
    · rw [happens.before_eq]
      exact ⟨hs, hnext⟩
    · exact hsteps st hst

end Linked

/-! ## Operations lead where their steps lead -/

theorem Act.discard_apply {α : Type} (x : Act α) (s : Session) :
    (((fun _ => ()) <$> x : Act Unit) s).2 = (x s).2 := by
  rcases h : x s with ⟨r, s'⟩
  rw [map_of_eq _ h]

/-- A decision of a batch goes on with the next one exactly as its result allows. -/
theorem Desk.tryDecide_cases (decide : Int → Act Decision) (id : Int) (s : Session) :
    (Event.batchGoesOn ((decide id s).1.map .decision) = true ∧
      ∃ d, tryDecide decide id s = (.ok d, (decide id s).2)) ∨
    (Event.batchGoesOn ((decide id s).1.map .decision) = false ∧
      ∃ e, tryDecide decide id s = (.error e, (decide id s).2)) := by
  unfold tryDecide
  rw [tryCatch_apply, map_apply]
  rcases decide id s with ⟨e | d, s'⟩
  · cases e with
    | requestNotFound n => exact .inl ⟨rfl, none, rfl⟩
    | _ => exact .inr ⟨rfl, _, rfl⟩
  · exact .inl ⟨rfl, some d, rfl⟩

theorem Desk.decideAll_linked (service : Service) {toEvent : Int → Event}
    {decide : Int → Act Decision}
    (hevent : ∀ id, (toEvent id).perform service = Event.Answer.decision <$> decide id) :
    ∀ (ids : List Int) (s : Session),
      Linked s (Event.steps service Event.batchGoesOn (ids.map toEvent) s) (decideAll decide ids s).2
  | [], s => .nil s
  | id :: ids, s => by
    have hstep : (toEvent id).perform service s
        = ((decide id s).1.map .decision, (decide id s).2) := by
      rw [hevent]
      exact map_of_eq _ rfl
    have hresult : ((toEvent id).step service s).result = (decide id s).1.map .decision := by
      rw [Event.step, hstep]
    have hafter : ((toEvent id).step service s).after = (decide id s).2 := by
      rw [Event.step, hstep]
    rw [List.map_cons, Event.steps, hresult, hafter]
    refine .step service (toEvent id) ?_
    rw [hstep]
    unfold decideAll
    rcases tryDecide_cases decide id s with ⟨hgo, d, ht⟩ | ⟨hgo, e, ht⟩
    · rw [hgo, bind_of_ok ht, if_pos rfl]
      have hrest := decideAll_linked service hevent ids (decide id s).2
      rcases bind_cases (decideAll decide ids) _ (decide id s).2 with
        ⟨rest, s', h, hb⟩ | ⟨e, s', h, hb⟩
      · rw [hb]
        rw [h] at hrest
        exact hrest
      · rw [hb]
        rw [h] at hrest
        exact hrest
    · rw [hgo, bind_of_error ht]
      exact .nil _

/-- Maintenance goes on with the next event exactly if the act of this one does not fail. -/
theorem Event.linked_cons {α β : Type} (service : Service) {e : Event} {es : List Event} {x : Act α}
    {k : α → Act β} (hevent : e.perform service = plain x)
    (hrest : ∀ a s, Linked s (steps service maintenanceGoesOn es s) (k a s).2) (s : Session) :
    Linked s (steps service maintenanceGoesOn (e :: es) s) ((x >>= k) s).2 := by
  rw [steps]
  refine .step service e ?_
  rcases h : x s with ⟨failure | a, s'⟩
  · have hstep : e.perform service s = (.error failure, s') := by
      rw [hevent]
      exact plain_of_eq h
    rw [bind_of_error h, Event.step, hstep]
    exact .nil s'
  · have hstep : e.perform service s = (.ok .done, s') := by
      rw [hevent]
      exact plain_of_eq h
    rw [bind_of_ok h, Event.step, hstep]
    exact hrest a s'

theorem Service.maintain_linked (service : Service) (s : Session) :
    Linked s (Operation.maintain.steps service s) (service.maintain s).2 := by
  refine Event.linked_cons service rfl (fun expired s => ?_) s
  refine Event.linked_cons service rfl (fun dropped s => ?_) s
  refine Event.linked_cons service rfl (fun _ s => ?_) s
  exact .nil s

theorem Service.submit_linked (service : Service) (item : Item) (context : Context) (s : Session) :
    Linked s ((Operation.submit item context).steps service s)
      (service.submit item context s).2 := by
  unfold submit Operation.steps
  rcases h : service.router.resolve item context s with ⟨e | vs, s₁⟩
  · have hstep : (Event.resolve item context).perform service s = (.error e, s₁) := map_of_eq _ h
    have hsingle := Linked.single service (Event.resolve item context) s
    rw [bind_of_error h]
    simp only [Event.step, hstep] at hsingle ⊢
    exact hsingle
  · have hstep : (Event.resolve item context).perform service s = (.ok (.verdicts vs), s₁) :=
      map_of_eq _ h
    have hpair : Linked s
        [(Event.resolve item context).step service s, (Event.process item context vs).step service s₁]
        ((Event.process item context vs).perform service s₁).2 := by
      refine .step service (Event.resolve item context) ?_
      rw [hstep]
      exact .single service _ s₁
    have hlast : ((Event.process item context vs).perform service s₁).2
        = (service.gate.process item context vs s₁).2 := by
      rcases hp : service.gate.process item context vs s₁ with ⟨r, s₂⟩
      exact congrArg Prod.snd (map_of_eq _ hp)
    rw [hlast] at hpair
    rw [bind_of_ok h]
    simp only [Event.step, hstep] at hpair ⊢
    rcases bind_cases (service.gate.process item context vs) (fun outcome => pure (vs, outcome)) s₁
      with ⟨o, s₂, hp, hb⟩ | ⟨e, s₂, hp, hb⟩
    · rw [hb]
      rw [hp] at hpair
      exact hpair
    · rw [hb]
      rw [hp] at hpair
      exact hpair

namespace Operation

/-- The steps of an operation lead where the operation leads. -/
theorem linked (service : Service) (op : Operation) (s : Session) :
    Linked s (op.steps service s) (op.perform service s).2 := by
  cases op with
  | single e =>
    rw [perform, discard_apply]
    exact .single service e s
  | submit item context =>
    rw [perform, discard_apply]
    exact service.submit_linked item context s
  | approveAll ids decidedBy notes =>
    rw [perform, discard_apply]
    exact Desk.decideAll_linked service (fun _ => rfl) ids s
  | rejectAll ids decidedBy reason =>
    rw [perform, discard_apply]
    exact Desk.decideAll_linked service (fun _ => rfl) ids s
  | maintain =>
    rw [perform, discard_apply]
    exact service.maintain_linked s

end Operation

/-! ## Courses -/

/-- An operation, and the service that carries it out. -/
structure Turn where
  service : Service
  operation : Operation

namespace Course

/-- Where a course of operations leads. -/
def run : List Turn → Session → Session
  | [], s => s
  | t :: ts, s => run ts (t.operation.perform t.service s).2

/-- The steps of a course. -/
def steps : List Turn → Session → List Step
  | [], _ => []
  | t :: ts, s => t.operation.steps t.service s ++ steps ts (t.operation.perform t.service s).2

/-- The steps of a course lead where the course leads. -/
theorem linked : ∀ (ts : List Turn) (s : Session), Linked s (steps ts s) (run ts s)
  | [], s => .nil s
  | t :: ts, s => (t.operation.linked t.service s).append (linked ts _)

end Course

/-- Sessions to which operations lead from a session with an empty store. -/
inductive Reachable : Session → Prop where
  | start {s : Session} (h : s.store = {}) : Reachable s
  | next {s : Session} (h : Reachable s) (service : Service) (op : Operation) :
      Reachable (op.perform service s).2

/-- What holds of an empty store and is kept by every event holds wherever operations lead. -/
theorem Reachable.invariant {I : Session → Prop} (hstart : ∀ s, s.store = {} → I s)
    (hstep : ∀ service e s, I s → I (Event.perform service e s).2) {s : Session}
    (h : Reachable s) : I s := by
  induction h with
  | start h => exact hstart _ h
  | next _ service op ih => exact ((op.linked service _).invariant hstep ih).1

/-- An event leads on from where operations led. -/
theorem Reachable.perform {s : Session} (h : Reachable s) (service : Service) (e : Event) :
    Reachable (e.perform service s).2 := by
  have hnext := h.next service (.single e)
  rwa [Operation.perform, Act.discard_apply] at hnext

/-- An event need keep a property only where operations lead. -/
theorem Reachable.kept {I : Session → Prop} (hstart : ∀ s, s.store = {} → I s)
    (hstep : ∀ service e s, Reachable s → I s → I (Event.perform service e s).2) {s : Session}
    (h : Reachable s) : I s := by
  have hboth : Reachable s ∧ I s :=
    h.invariant (I := fun s => Reachable s ∧ I s) (fun s hs => ⟨.start hs, hstart s hs⟩)
      fun service e s hs => ⟨hs.1.perform service e, hstep service e s hs.1 hs.2⟩
  exact hboth.2

/-- The steps of a run that starts where operations lead stay there. -/
theorem Linked.reachable {s s' : Session} {sts : List Step} (h : Linked s sts s')
    (hs : Reachable s) : Reachable s' ∧ ∀ st ∈ sts, Reachable st.before ∧ Reachable st.after :=
  h.invariant (fun service e _ hs => hs.perform service e) hs

theorem Reachable.run {s : Session} (h : Reachable s) (ts : List Turn) :
    Reachable (Course.run ts s) := ((Course.linked ts s).reachable h).1

end Watchgate
