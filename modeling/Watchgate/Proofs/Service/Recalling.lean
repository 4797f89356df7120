import Watchgate.Proofs.Approval.Lifecycle
import Watchgate.Proofs.Service.Runs
import Watchgate.Proofs.Store.Histories

/-!
# What the service writes to the tables that routing reads

Rules and instances change only where an administrator or a configuration puts them into the store, or
drops rules. Along a run the store therefore has a history of such writes, each asked for by an event of
the run, and what is read from it follows from that history: all of it comes back, as long as no quality
profile looks like digits and writes no number.
-/

namespace Watchgate

open Act Store

/-- The writes that an event asks for; some of them may be refused. -/
def Event.Asks : Event → Write → Prop
  | .putInstance i, w => w = .putInstance i
  | .putRule r, w => w = .putRule r
  | .keepRules ids, w => w = .keepRules ids
  | .seed config, w =>
    (∃ is, Config.instances config = .ok is ∧ ∃ i ∈ is, w = .putInstance i) ∨
      ∃ rs, Config.rules config = .ok rs ∧ (w = .keepRules (rs.map Rule.id) ∨ ∃ r ∈ rs, w = .putRule r)
  | _, _ => False

namespace Store

variable {s s' s'' : Store}

theorem SameSetup.refl (s : Store) : s.SameSetup s := ⟨rfl, rfl⟩

theorem SameSetup.trans (h : s.SameSetup s') (h' : s'.SameSetup s'') : s.SameSetup s'' :=
  ⟨h'.instances.trans h.instances, h'.rules.trans h.rules⟩

theorem sameSetup_putUsage {userId : Int} {contentType : Value} {date : Calendar.Date}
    (h : s.putUsage userId contentType date = .ok ((), s')) : s.SameSetup s' := by
  obtain ⟨stored, -, rfl⟩ := putUsage_ok h
  exact ⟨rfl, rfl⟩

theorem sameSetup_addRequest {n : NewRequest} {now : Calendar.Moment} {r : Request}
    (h : s.addRequest n now = .ok (r, s')) : s.SameSetup s' := by
  obtain ⟨kept, row, -, -, -, rfl, -⟩ := newRow_of_addRequest h
  exact ⟨rfl, rfl⟩

theorem sameSetup_transition {id : Int} {t : Transition} {now : Calendar.Moment} {moved : Bool}
    (h : s.transition id t now = .ok (moved, s')) : s.SameSetup s' := by
  obtain ⟨-, decidedBy, notes, rfl⟩ := transition_ok h
  exact ⟨rfl, rfl⟩

end Store

namespace Act

variable {α β : Type} {P : Write → Prop}

/-- Whatever the store has taken, the act adds none but writes with `P` to it. -/
def Adds (x : Act α) (P : Write → Prop) : Prop :=
  ∀ (s : Session) (ws : List Write), Written ws s.store →
    ∃ ws', Written (ws ++ ws') (x s).2.store ∧ ∀ w ∈ ws', P w

/-- The act leaves rules and instances alone. -/
def KeepsSetup (x : Act α) : Prop := ∀ s : Session, s.store.SameSetup (x s).2.store

theorem KeepsTables.keepsSetup {x : Act α} (h : x.KeepsTables) : x.KeepsSetup := fun s => by
  rw [(h s).store]
  exact .refl _

theorem keepsSetup_write {call : StoreCall} {first : Option Value}
    {f : Store → Except Failure (α × Store)} (hf : ∀ {s a s'}, f s = .ok (a, s') → s.SameSetup s') :
    (write call first f).KeepsSetup := by
  intro s
  rcases write_cases call first f s with ⟨a, store, hstore, h⟩ | ⟨e, s', h, hs⟩
  · rw [h]
    exact hf hstore
  · rw [h, hs.store]
    exact .refl _

theorem keepsSetup_bind {x : Act α} {f : α → Act β} (hx : x.KeepsSetup) (hf : ∀ a, (f a).KeepsSetup) :
    (x >>= f).KeepsSetup := by
  intro s
  have hfirst := hx s
  rcases bind_cases x f s with ⟨a, s', h, hb⟩ | ⟨e, s', h, hb⟩
  · rw [h] at hfirst
    rw [hb]
    exact hfirst.trans (hf a s')
  · rw [h] at hfirst
    rwa [hb]

theorem KeepsSetup.adds {x : Act α} (h : x.KeepsSetup) : x.Adds P := fun s ws hws =>
  ⟨[], by rw [List.append_nil]; exact .other hws (h s), nofun⟩

theorem adds_bind {x : Act α} {f : α → Act β} (hx : x.Adds P)
    (hf : ∀ {s a s'}, x s = (.ok a, s') → (f a).Adds P) : (x >>= f).Adds P := by
  intro s ws hws
  obtain ⟨ws₁, hws₁, hP₁⟩ := hx s ws hws
  rcases bind_cases x f s with ⟨a, s', h, hb⟩ | ⟨e, s', h, hb⟩
  · rw [h] at hws₁
    obtain ⟨ws₂, hws₂, hP₂⟩ := hf h s' _ hws₁
    rw [hb]
    refine ⟨ws₁ ++ ws₂, List.append_assoc .. ▸ hws₂, fun w hw => ?_⟩
    exact (List.mem_append.1 hw).elim (hP₁ w) (hP₂ w)
  · rw [h] at hws₁
    rw [hb]
    exact ⟨ws₁, hws₁, hP₁⟩

theorem adds_forM {f : α → Act Unit} {l : List α} (hf : ∀ a ∈ l, (f a).Adds P) : (l.forM f).Adds P := by
  induction l with
  | nil => exact (quiet_pure _).keepsTables.keepsSetup.adds
  | cons a l ih =>
    obtain ⟨hfirst, hrest⟩ := List.forall_mem_cons.1 hf
    exact adds_bind hfirst fun _ => ih hrest

/-- A write is added if the store takes it. -/
theorem adds_write {call : StoreCall} {first : Option Value} {f : Store → Except Failure (α × Store)}
    {w : Write} (hf : ∀ {s a s'}, f s = .ok (a, s') → s.Takes w s') (hw : P w) :
    (write call first f).Adds P := by
  intro s ws hws
  rcases write_cases call first f s with ⟨a, store, hstore, h⟩ | ⟨e, s', h, hs⟩
  · rw [h]
    exact ⟨[w], .write hws (hf hstore), fun v hv => List.mem_singleton.1 hv ▸ hw⟩
  · rw [h, hs.store]
    exact ⟨[], by rwa [List.append_nil], nofun⟩

theorem adds_putInstance {i : Instance} (hi : P (.putInstance i)) : (putInstance i).Adds P :=
  adds_write (w := .putInstance i) (fun h => h) hi

theorem adds_putRule {r : Rule} (hr : P (.putRule r)) : (putRule r).Adds P :=
  adds_write (w := .putRule r) (fun h => h) hr

theorem adds_keepRules {ids : List Int} (hids : P (.keepRules ids)) : (keepRules ids).Adds P :=
  adds_write (w := .keepRules ids) (fun {_ n _} h => ⟨n, h⟩) hids

theorem keepsSetup_putUser (id : Int) (name requiresApproval : Value) :
    (putUser id name requiresApproval).KeepsSetup :=
  keepsSetup_write fun h => by
    obtain ⟨known, -, h⟩ := ok_of_bind h
    obtain ⟨name, -, h⟩ := ok_of_bind h
    obtain ⟨flag, -, h⟩ := ok_of_bind h
    obtain ⟨-, rfl⟩ := Prod.mk.inj (pure_ok h)
    exact ⟨rfl, rfl⟩

theorem keepsSetup_putQuota (q : Quota) : (putQuota q).KeepsSetup :=
  keepsSetup_write fun h => by
    obtain ⟨user, -, h⟩ := ok_of_bind h
    obtain ⟨row, -, h⟩ := ok_of_bind h
    obtain ⟨-, rfl⟩ := Prod.mk.inj (pure_ok h)
    exact ⟨rfl, rfl⟩

theorem keepsSetup_dropQuota (userId : Int) (contentType : Value) :
    (dropQuota userId contentType).KeepsSetup :=
  keepsSetup_write fun h => by
    obtain ⟨_, -, h⟩ := ok_of_bind h
    obtain ⟨_, -, h⟩ := ok_of_bind h
    obtain ⟨-, rfl⟩ := Prod.mk.inj (pure_ok h)
    exact ⟨rfl, rfl⟩

theorem keepsSetup_delete (id : Int) : (Desk.delete id).KeepsSetup := by
  refine keepsSetup_bind (keepsSetup_write fun h => ?_) fun _ =>
    (quiet_ite (quiet_note _ _) (quiet_throw _)).keepsTables.keepsSetup
  rw [dropRequest_ok h]
  exact ⟨rfl, rfl⟩

/-- What is told after rows were dropped or marked. -/
theorem keepsSetup_report (n : Nat) (text : String) :
    (do if n ≠ 0 then info text
        return n : Act Nat).KeepsSetup :=
  (quiet_ite (quiet_bind (quiet_note _ _) fun _ => quiet_pure n) (quiet_pure n)).keepsTables.keepsSetup

theorem keepsSetup_sweep : Desk.sweep.KeepsSetup := by
  refine keepsSetup_bind (fun s => .refl _) fun t => keepsSetup_bind (fun s => ?_) fun n =>
    keepsSetup_report n _
  refine keepsSetup_write (fun h => ?_) s
  obtain ⟨-, rfl⟩ := Prod.mk.inj (Except.ok.inj h)
  exact ⟨rfl, rfl⟩

theorem keepsSetup_cleanup (days : Int) : (Desk.cleanup days).KeepsSetup := by
  refine keepsSetup_bind (fun s => .refl _) fun t => ?_
  cases t.addDays? (-days) with
  | none => exact (quiet_throw _).keepsTables.keepsSetup
  | some before =>
    refine keepsSetup_bind (keepsSetup_write fun h => ?_) fun n => keepsSetup_report n _
    obtain ⟨-, rfl⟩ := Prod.mk.inj (Except.ok.inj h)
    exact ⟨rfl, rfl⟩

theorem keepsSetup_cleanUsage (days : Int) : (Quota.cleanup days).KeepsSetup := by
  intro s
  rcases Quota.cleanup_cases days s with ⟨day, -, same⟩ | same
  · exact same.store ▸ ⟨rfl, rfl⟩
  · exact same.store ▸ .refl _

theorem adds_seed (config : Entries) : (Config.seed config).Adds (Event.Asks (.seed config)) := by
  refine adds_bind (quiet_ofResult _).keepsTables.keepsSetup.adds fun {_ is _} his => ?_
  obtain ⟨his, -⟩ := ofResult_returns his
  refine adds_bind (adds_forM fun i hi => adds_putInstance (.inl ⟨is, his, i, hi, rfl⟩)) fun _ => ?_
  refine adds_bind (quiet_ofResult _).keepsTables.keepsSetup.adds fun _ => ?_
  refine adds_bind (adds_forM fun u _ => (keepsSetup_putUser _ _ _).adds) fun _ => ?_
  refine adds_bind (quiet_ofResult _).keepsTables.keepsSetup.adds fun _ => ?_
  refine adds_bind (adds_forM fun q _ => (keepsSetup_putQuota q).adds) fun _ => ?_
  refine adds_bind (quiet_ofResult _).keepsTables.keepsSetup.adds fun {_ rs _} hrs => ?_
  obtain ⟨hrs, -⟩ := ofResult_returns hrs
  refine adds_bind (adds_forM fun r hr => adds_putRule (.inr ⟨rs, hrs, .inr ⟨r, hr, rfl⟩⟩)) fun _ => ?_
  refine adds_bind (adds_keepRules (.inr ⟨rs, hrs, .inl rfl⟩)) fun _ => ?_
  exact (quiet_note _ _).keepsTables.keepsSetup.adds

end Act

/-! ## Events -/

/-- A submission leaves rules and instances alone. -/
theorem Gate.Effect.sameSetup {item : Item} {context : Context} {verdicts : List Verdict} {s : Session}
    {x : Except Failure Outcome × Session} (h : Effect item context verdicts s x) :
    s.store.SameSetup x.2.store := by
  cases h with
  | kept same => exact same.store ▸ .refl _
  | made _ _ _ added same => exact same.store ▸ sameSetup_addRequest added
  | counted _ _ _ written same => exact same.store ▸ sameSetup_putUsage written

/-- A decision leaves rules and instances alone. -/
theorem Desk.Effect.sameSetup {p : Partners} {id : Int} {isApproval : Bool} {s : Session}
    {x : Except Failure Decision × Session} (h : Effect p id isApproval s x) :
    s.store.SameSetup x.2.store := by
  cases h with
  | kept same => exact same.store ▸ .refl _
  | declined _ moved same => exact same.store ▸ sameSetup_transition moved
  | unplaced _ _ moved same => exact same.store ▸ sameSetup_transition moved
  | tried _ _ moved _ _ same => exact same.store ▸ sameSetup_transition moved
  | counted _ _ moved _ _ written same =>
    exact same.store ▸ (sameSetup_transition moved).trans (sameSetup_putUsage written)

namespace Event

theorem adds_plain {α : Type} {x : Act α} {P : Write → Prop} (h : x.Adds P) : (plain x).Adds P := by
  intro s ws hws
  have hx := h s ws hws
  rcases hxs : x s with ⟨r, s'⟩
  rw [plain_of_eq hxs]
  rwa [hxs] at hx

theorem keepsSetup_change {f : Session → Session} (h : ∀ s, (f s).store = s.store) :
    (Act.change f).KeepsSetup := fun s => ⟨congrArg Store.instances (h s), congrArg Store.rules (h s)⟩

/-- An event adds no writes but those that it asks for. -/
theorem adds (service : Service) (e : Event) : (e.perform service).Adds e.Asks := by
  cases e with
  | setClock t => exact adds_plain (keepsSetup_change fun _ => rfl).adds
  | setNetwork n => exact adds_plain (keepsSetup_change fun _ => rfl).adds
  | setOutages outages => exact adds_plain (keepsSetup_change fun _ => rfl).adds
  | disconnect => exact adds_plain (keepsSetup_change fun _ => rfl).adds
  | putInstance i => exact adds_plain (adds_putInstance rfl)
  | putUser id name requiresApproval => exact adds_plain (keepsSetup_putUser _ _ _).adds
  | putRule r => exact adds_plain (adds_putRule rfl)
  | keepRules ids => exact adds_plain (adds_keepRules rfl)
  | putQuota q => exact adds_plain (keepsSetup_putQuota q).adds
  | dropQuota userId contentType => exact adds_plain (keepsSetup_dropQuota _ _).adds
  | seed config => exact adds_plain (adds_seed config)
  | resolve item context =>
    have hresolve := Router.browses_resolve service.browses_router item context
    exact (quiet_map Answer.verdicts hresolve.quiet).keepsTables.keepsSetup.adds
  | process item context verdicts =>
    refine KeepsSetup.adds fun s => ?_
    have heffect := (service.gate.process_effect service.quiet_partners item context verdicts s).sameSetup
    rcases h : service.gate.process item context verdicts s with ⟨r, s'⟩
    rw [show perform service (.process item context verdicts) s = _ from map_of_eq _ h]
    rwa [h] at heffect
  | approve id decidedBy notes =>
    refine KeepsSetup.adds fun s => ?_
    have heffect := (Desk.approve_effect service.quiet_partners id decidedBy notes s).sameSetup
    rcases h : Desk.approve service.partners id decidedBy notes s with ⟨r, s'⟩
    rw [show perform service (.approve id decidedBy notes) s = _ from map_of_eq _ h]
    rwa [h] at heffect
  | reject id decidedBy reason =>
    refine KeepsSetup.adds fun s => ?_
    have heffect := (Desk.reject_effect service.quiet_partners id decidedBy reason s).sameSetup
    rcases h : Desk.reject service.partners id decidedBy reason s with ⟨r, s'⟩
    rw [show perform service (.reject id decidedBy reason) s = _ from map_of_eq _ h]
    rwa [h] at heffect
  | delete id => exact adds_plain (keepsSetup_delete id).adds
  | sweep => exact adds_plain keepsSetup_sweep.adds
  | cleanup days => exact adds_plain (keepsSetup_cleanup days).adds
  | cleanUsage days => exact adds_plain (keepsSetup_cleanUsage days).adds

end Event

/-- The history of the store goes on along a run with writes that its events ask for. -/
theorem Linked.written {s s' : Session} {sts : List Step} (h : Linked s sts s') {ws : List Write}
    (hws : Written ws s.store) :
    ∃ ws', Written (ws ++ ws') s'.store ∧ ∀ w ∈ ws', ∃ st ∈ sts, st.event.Asks w := by
  induction h generalizing ws with
  | nil => exact ⟨[], by rwa [List.append_nil], nofun⟩
  | @cons s _ st sts happens _ ih =>
    obtain ⟨service, he⟩ := happens.perform_eq
    obtain ⟨ws₁, hws₁, hasked⟩ := st.event.adds service s ws hws
    rw [he] at hws₁
    obtain ⟨ws₂, hws₂, hlater⟩ := ih hws₁
    refine ⟨ws₁ ++ ws₂, List.append_assoc .. ▸ hws₂, fun w hw => ?_⟩
    rcases List.mem_append.1 hw with hw | hw
    · exact ⟨st, List.mem_cons_self, hasked w hw⟩
    · obtain ⟨st', hst', hw⟩ := hlater w hw
      exact ⟨st', List.mem_cons_of_mem _ hst', hw⟩

/-! ## What comes back -/

namespace Store

variable {ws : List Write} {s : Store}

/-- Whatever is resolved for content of a known type, all rules could be read. -/
theorem getRules_of_resolve {router : Router} {item : Item} {context : Context} {s : Session}
    {vs : List Verdict} (hknown : context.knowsContentType = true)
    (h : (router.resolve item context s).1 = .ok vs) : ∃ rules, s.store.getRules = .ok rules := by
  unfold Router.resolve at h
  simp only [hknown, Bool.not_true, Bool.false_eq_true, if_false] at h
  obtain ⟨rules, s₁, hrules, -⟩ := Act.bind_returns (Prod.ext h rfl)
  exact ⟨rules, (Act.read_returns hrules).1⟩

/-- Whatever was written, a read fails exactly if it comes upon a quality profile that looks like digits
and writes no number; all else comes back. A run of the service goes on with writes that its events ask
for, so the same holds after it; and if all the profiles that were written or asked for can be read,
then so can all rules and all instances. -/
theorem written_comes_back (h : Written ws s) :
    RecallsRules ws s ∧ RecallsInstances ws s ∧
    ∀ (before after : Session) (sts : List Step), before.store = s → Linked before sts after →
      ∃ ws', (∀ w ∈ ws', ∃ st ∈ sts, st.event.Asks w) ∧
        after.store.RulesKeyed ∧ after.store.CriteriaMapped ∧
        RecallsRules (ws ++ ws') after.store ∧ RecallsInstances (ws ++ ws') after.store ∧
        ((∀ w ∈ ws, w.Legible) → (∀ st ∈ sts, ∀ w, st.event.Asks w → w.Legible) →
          (∃ rules, after.store.getRules = .ok rules) ∧
            ∃ is, after.store.getInstances .null = .ok is) := by
  refine ⟨h.recalls.1, h.recalls.2, fun before after sts hstore hrun => ?_⟩
  obtain ⟨ws', hws, hasked⟩ := hrun.written (hstore.symm ▸ h)
  refine ⟨ws', hasked, hws.rulesKeyed, hws.criteriaMapped, hws.recalls.1, hws.recalls.2,
    fun hbefore hlegible => hws.reads fun w hw => ?_⟩
  rcases List.mem_append.1 hw with hw | hw
  · exact hbefore w hw
  · obtain ⟨st, hst, hw⟩ := hasked w hw
    exact hlegible st hst w hw

/-- For instance, the number of a profile comes back where its digits were written. -/
theorem written_comes_back_number :
    let i : Instance := { id := 1, type := .text "radarr", qualityProfile := .int 4 }
    let r : Rule := {
      id := 7, name := .text "Old", type := .text "year", targetType := .text "radarr", targetId := 1
      qualityProfile := .text "12" }
    ∃ s, Written [.putInstance i, .putRule r] s ∧ (∃ rules, s.getRules = .ok rules) ∧
      ∃ back, s.getRule 7 = .ok (some back) ∧ r.ComesBack back := by
  intro i r
  have hi : Written [.putInstance i] { instances := [{ i with qualityProfile := .text "4" }] } :=
    .write .empty rfl
  have hr : Written [.putInstance i, .putRule r]
      { instances := [{ i with qualityProfile := .text "4" }], rules := [r] } := .write hi rfl
  obtain ⟨hrules, -, -⟩ := written_comes_back hr
  have hstands : RuleStands [.putInstance i, .putRule r] r := ⟨[.putInstance i], _, [], rfl, rfl, nofun⟩
  have hnumber : Value.integerOfText "12" = .ok 12 := by cbv
  have hlegible : Column.Legible r.qualityProfile := fun _ => ⟨12, hnumber⟩
  have htextual : r.IsTextual := by
    refine ⟨?_, ?_, .text "12"⟩
    · simp [r]
    · simp [r]
  obtain ⟨back, hback, hfound, -, -⟩ := hrules.back r hstands htextual hlegible
  refine ⟨_, hr, hrules.all.2 fun r' hr' => ?_, back, hfound, hback⟩
  obtain ⟨front, _, back, hsplit, rfl, -⟩ := hr'
  have hmem : Write.putRule r' ∈ [Write.putInstance i, Write.putRule r] :=
    hsplit ▸ List.mem_append_right _ List.mem_cons_self
  obtain rfl : r' = r := by simpa using hmem
  exact hlegible

/-- A rule and an instance are taken with a quality profile that only looks like digits. Afterwards none
of the rules can be read, none of the instances, and nothing can be resolved. -/
theorem superscript_spoils_reads :
    let i : Instance := { id := 1, type := .text "radarr" }
    let j : Instance := { i with qualityProfile := .text "²" }
    let r : Rule := {
      id := 7, name := .text "Old", type := .text "year", targetType := .text "radarr", targetId := 1
      qualityProfile := .text "²" }
    r.IsTextual ∧ j.IsTextual ∧
      (∃ s, Written [.putInstance i, .putRule r] s ∧
        (∀ rules, s.getRules ≠ .ok rules) ∧ (∀ found, s.getRule 7 ≠ .ok found) ∧
        (∀ rules, s.getRulesOfType (.text "year") ≠ .ok rules) ∧
        ∀ (router : Router) (item : Item) (context : Context) (now : Calendar.Moment) vs,
          context.knowsContentType = true →
            (router.resolve item context { now, store := s }).1 ≠ .ok vs) ∧
      ∃ s, Written [.putInstance j] s ∧ (∀ is, s.getInstances .null ≠ .ok is) ∧
        ∀ found, s.getInstance 1 (.text "radarr") ≠ .ok found := by
  intro i j r
  have hi : Written [.putInstance i] { instances := [i] } := .write .empty rfl
  have hj : Written [.putInstance j] { instances := [j] } := .write .empty rfl
  have hr : Written [.putInstance i, .putRule r] { instances := [i], rules := [r] } := .write hi rfl
  have hfails : ∀ {α : Type} {x : Except Failure α}, x.toOption.isNone = true → ∀ a, x ≠ .ok a := by
    rintro α x hx a rfl
    cases hx
  have hrules : ∀ rules, ({ instances := [i], rules := [r] } : Store).getRules ≠ .ok rules :=
    hfails (by decide +kernel)
  refine ⟨⟨?_, ?_, .text "²"⟩, ⟨?_, ?_, .text "²"⟩, ⟨_, hr, hrules, ?_, ?_, ?_⟩, _, hj, ?_, ?_⟩
  · simp [r]
  · simp [r]
  · simp [j, i]
  · simp [j, i]
  · exact hfails (by decide +kernel)
  · exact hfails (by decide +kernel)
  · intro router item context now vs hknown h
    obtain ⟨rules, hread⟩ := getRules_of_resolve hknown h
    exact hrules rules hread
  · exact hfails (by decide +kernel)
  · exact hfails (by decide +kernel)

end Store

end Watchgate
