import Watchgate.Proofs.Approval.Deferral
import Watchgate.Proofs.Quota.Reckoning
import Mathlib.Data.List.Induction

/-!
# How many requests a quota admits

Submissions of one user for one type of content come in one after the other on one day. Each of them
asks the store how many requests count today, and is counted itself if it is routed; a request that is
kept for approval is not counted. So what remains goes down by one with each submission until nothing is
left, and from then on every submission waits.
-/

namespace Watchgate

open Act Calendar Store

/-! ## What is left of a quota -/

namespace Quota

/-- A quota with an integer limit binds a user whom nothing else makes wait, and nothing in the store is
out of order. -/
structure Rations (q : Quota) (p : Period) (limit : Int) (userId : Int) (contentType : String)
    (s : Session) : Prop where
  working : s.outages = []
  user : ∃ u, s.store.getUser userId = .ok (some u) ∧ u.requiresApproval = false
  quota : s.store.getQuota userId (.text contentType) = .ok (some q)
  period : periodOf q.period = .ok p
  limit : q.limit = .int limit
  binds : q.bypass = false

/-- These rows count today, and their reset lies in the calendar. -/
structure Counting (p : Period) (userId : Int) (contentType : String) (rows : List Usage)
    (s : Session) : Prop where
  window : ∃ w, p.window s.now.date = .ok w ∧
    (s.store.usage.filter fun u => counts userId contentType u && w.contains u.date) = rows
  reset : ∃ t, p.reset s.now.date (earliest? rows) = .ok t

theorem Counting.of_today {p : Period} {userId : Int} {contentType : String} {rows : List Usage}
    {s s' : Session} (h : Counting p userId contentType rows s)
    (husage : s'.store.usage = s.store.usage) (hday : s'.now.date = s.now.date) :
    Counting p userId contentType rows s' := by
  obtain ⟨⟨w, hw, hcount⟩, hreset⟩ := h
  exact ⟨⟨w, hday ▸ hw, husage ▸ hcount⟩, hday ▸ hreset⟩

namespace Rations

variable {q : Quota} {p : Period} {limit : Int} {userId : Int} {contentType : String}
  {rows : List Usage} {s : Session}

/-- What is told of the quota goes by the number of rows that count. -/
theorem status_eq (h : Rations q p limit userId contentType s)
    (hrows : Counting p userId contentType rows s) :
    ∃ answer, status userId (.text contentType) s = (.ok (some answer), s) ∧
      answer.limit = .int limit ∧ answer.usage = rows.length ∧ answer.bypass = false ∧
      answer.exceeded = decide (limit ≤ rows.length) := by
  obtain ⟨w, hw, hcount⟩ := hrows.window
  obtain ⟨t, hreset⟩ := hrows.reset
  have hstatus := status_eq_reckon h.working h.quota h.period hw (Column.text_text contentType)
  rw [hcount, reckon_int h.limit h.binds hreset] at hstatus
  exact ⟨_, hstatus, rfl, rfl, rfl, rfl⟩

theorem remaining_eq (h : Rations q p limit userId contentType s)
    (hrows : Counting p userId contentType rows s) :
    (remaining userId (.text contentType) s).1 = .ok (.int (max 0 (limit - rows.length))) := by
  obtain ⟨answer, hstatus, hlimit, husage, hbypass, -⟩ := h.status_eq hrows
  unfold remaining
  rw [bind_of_ok hstatus]
  dsimp only
  rw [hbypass, hlimit, husage]
  rfl

theorem wouldExceed_eq (h : Rations q p limit userId contentType s)
    (hrows : Counting p userId contentType rows s) :
    (wouldExceed userId (.text contentType) s).1 = .ok (decide (limit ≤ rows.length)) := by
  obtain ⟨answer, hstatus, -, -, -, hexceeded⟩ := h.status_eq hrows
  unfold wouldExceed
  rw [bind_of_ok hstatus, ← hexceeded]
  rfl

/-- If it can be told what remains, some rows count, and what remains is what they leave of the limit. -/
theorem counting_of_remaining (h : Rations q p limit userId contentType s) {r : Int}
    (hr : (remaining userId (.text contentType) s).1 = .ok (.int r)) :
    ∃ rows, Counting p userId contentType rows s ∧ r = max 0 (limit - rows.length) := by
  rcases hx : remaining userId (.text contentType) s with ⟨result, s'⟩
  rw [hx] at hr
  obtain rfl : result = .ok (.int r) := hr
  obtain ⟨found, s₁, hstatus, -⟩ := bind_returns hx
  cases found with
  | none => cases h.quota.symm.trans (status_none hstatus)
  | some answer =>
    obtain ⟨q', p', w, hread⟩ := status_some hstatus
    obtain rfl := Option.some.inj (Except.ok.inj (h.quota.symm.trans hread.quota))
    obtain rfl := Except.ok.inj (h.period.symm.trans hread.period)
    obtain ⟨hid, huser, stored, hstored, hcontent⟩ := getQuota_some h.quota
    obtain rfl := Value.text.inj (Except.ok.inj hstored)
    have hrows : s.store.usageIn q.userId q.contentType w = .ok (s.store.usage.filter fun u =>
        counts userId contentType u && w.contains u.date) := by
      rw [huser, hcontent]
      exact usageIn_eq_filter hid (Column.text_text _) w s.store
    have hreset := hread.reset
    rw [resetOf_eq h.working hread.window hrows] at hreset
    have hcounting : Counting p userId contentType _ s := ⟨⟨w, hread.window, rfl⟩, _, hreset⟩
    refine ⟨_, hcounting, ?_⟩
    have hremaining := h.remaining_eq hcounting
    rw [hx] at hremaining
    exact Value.int.inj (Except.ok.inj hremaining)

end Rations

end Quota

/-! ## One submission -/

namespace Gate

/-- A submission: when it comes, what it asks for, and what routing says. -/
structure Ask where
  time : Moment
  item : Item
  context : Context
  verdicts : List Verdict

namespace Ask

def key (a : Ask) : Value := contentKey a.item a.context

def placements (a : Ask) : List Placement := a.verdicts.filterMap Verdict.proposed

/-- The session when the submission comes. -/
def arrive (a : Ask) (s : Session) : Session := { s with now := a.time }

/-- What the gate answers, and the session after it. -/
def handle (g : Gate) (a : Ask) (s : Session) : Except Failure Outcome × Session :=
  g.process a.item a.context a.verdicts (a.arrive s)

def after (g : Gate) (asks : List Ask) (s : Session) : Session :=
  asks.foldl (fun s a => (a.handle g s).2) s

theorem after_snoc (g : Gate) (asks : List Ask) (a : Ask) (s : Session) :
    after g (asks ++ [a]) s = (a.handle g (after g asks s)).2 := List.foldl_append

/-- A submission of today by a user, not synchronised and not rejected, the first verdict on which
routes it plainly: quotas are not bypassed, and no rule is named or a stored one. -/
structure Plain (userId : Int) (contentType : String) (s : Session) (a : Ask) : Prop where
  day : a.time.date = s.now.date
  asked : a.context.syncing = false
  user : a.context.primaryUserId = some userId
  contentType : a.context.contentType = .text contentType
  title : ∃ title, a.item.title = .text title
  key : ∃ key, a.key = .text key
  unrejected : ∀ v ∈ a.verdicts, v.action ≠ .reject
  first : ∃ v rest p, a.verdicts = v :: rest ∧ v.action = .route ∧ v.routing = some p ∧
    p.bypassQuota = false ∧ requireRule p.ruleId s.store = .ok ()

/-- The first instance takes the content, and the attempts at the others end with an answer. -/
def Accepted (g : Gate) (a : Ask) (s : Session) : Prop :=
  ∃ p others s₁ taken s₂, a.placements = p :: others ∧
    g.partners.attempt a.item p s = (.ok true, s₁) ∧
    g.partners.attemptAll a.item others s₁ = (.ok taken, s₂)

/-- If no request for it is live, the first verdict decides what becomes of a plain submission. -/
theorem Plain.process_eq {userId : Int} {contentType : String} {s : Session} {a : Ask}
    (ha : a.Plain userId contentType s) (g : Gate) :
    ∃ primary placement others, a.placements = placement :: others ∧ primary.action = .route ∧
      placement.bypassQuota = false ∧ requireRule placement.ruleId s.store = .ok () ∧
      g.process a.item a.context a.verdicts = (liveRequest a.context.primaryUserId a.key >>=
        g.answer a.item a.context primary placement a.placements) := by
  obtain ⟨v, rest, placement, hverdicts, hroutes, hrouting, hcounts, hrule⟩ := ha.first
  have hproposed : v.proposed = some placement := by
    unfold Verdict.proposed
    rw [hroutes, hrouting]
  have hconsults : Consults a.context a.verdicts := by
    refine ⟨ha.asked, ha.unrejected, v, ?_, by rw [hproposed]; rfl⟩
    rw [hverdicts]
    exact List.mem_cons_self
  obtain ⟨primary, first, others, hfirst, hprocess⟩ := process_of_consults g a.item hconsults
  have hpair : (primary, first) = (v, placement) := by
    have hhead := hfirst
    rw [hverdicts, List.filterMap_cons, actionable?, hproposed] at hhead
    exact (List.cons.inj hhead).1.symm
  obtain ⟨rfl, rfl⟩ := Prod.mk.inj hpair
  rw [placements_of_first hfirst] at hprocess
  refine ⟨primary, first, others.map Prod.snd, ?_, hroutes, hcounts, hrule, hprocess⟩
  rw [placements, ← placements_of_first hfirst]

end Ask

section Reasons

variable {g : Gate} {item : Item} {context : Context} {contentType : Value} {primary : Verdict}
  {p : Placement} {userId : Int} {s : Session}

/-- No request is live for a key under which the user asks for nothing. -/
theorem liveRequest_of_fresh (ho : s.outages = []) (hknown : s.store.Knows userId) {key : String}
    (hkey : contentKey item context = .text key)
    (hfresh : ∀ r ∈ s.store.requests, r.userId = userId → r.key ≠ .text key) :
    liveRequest (some userId) (contentKey item context) s = (.ok none, s) := by
  have hid : Column.checked userId = .ok userId := (knows_iff.1 hknown).1
  have hfound : ∃ found, s.store.getRequestFor userId (contentKey item context) = .ok found := by
    unfold Store.getRequestFor
    rw [hid, hkey]
    exact ⟨_, rfl⟩
  obtain ⟨found, hfound⟩ := hfound
  refine liveRequest_of_unanswered ⟨found, read_of_ok ho hfound⟩ fun r hr huser hsame => ?_
  rw [hkey] at hsame
  exact absurd (Except.ok.inj hsame).symm (hfresh r hr huser)

/-- Where the user is not flagged, the status of the quota decides whether there is a reason to wait. -/
theorem reasonToWait_of_status {u : User} {answer : QuotaStatus} (ho : s.outages = [])
    (hroutes : primary.action = .route) (huser : s.store.getUser userId = .ok (some u))
    (hunflagged : u.requiresApproval = false) (hcounts : p.bypassQuota = false)
    (hstatus : Quota.status userId contentType s = (.ok (some answer), s)) :
    reasonToWait primary p contentType (some userId) s
      = (.ok (if answer.exceeded then some (.ofDeferral (quotaDeferral answer p)) else none), s) := by
  have hread : Act.getUser userId s = (.ok (some u), s) := read_of_ok ho huser
  have hnot : ¬ Flagged userId s := by
    rintro ⟨v, hv, hflag⟩
    obtain rfl := Option.some.inj (Except.ok.inj (huser.symm.trans hv))
    rw [hunflagged] at hflag
    cases hflag
  have hquota : userReason.quotaReason contentType userId p s
      = (.ok (if answer.exceeded then some (quotaDeferral answer p) else none), s) := by
    unfold userReason.quotaReason
    rw [hcounts, if_neg Bool.false_ne_true, bind_of_ok hstatus]
    rfl
  have hreason := (userReason_of_unflagged hread hnot).trans hquota
  have hsilent : primary.action ≠ .requireApproval := by
    rw [hroutes]
    decide
  rw [reasonToWait_of_silent hsilent, bind_of_ok hreason]
  cases answer.exceeded <;> rfl

/-- Content that the first instance takes is routed and counted. -/
theorem route_of_accepted (hp : g.partners.Quiet) (ho : s.outages = []) (hknown : s.store.Knows userId)
    (contentType : String) {others taken : List Placement} {s₁ s₂ : Session}
    (hfirst : g.partners.attempt item p s = (.ok true, s₁))
    (hothers : g.partners.attemptAll item others s₁ = (.ok taken, s₂)) :
    s.SameTables s₂ ∧ g.route item (.text contentType) (p :: others) (some userId) s
      = (.ok { kind := .routed, routed := p :: taken }, { s₂ with store := { s₂.store with
          usage := s₂.store.usage ++ [⟨userId, contentType, s₂.now.date⟩] } }) := by
  have hall : g.partners.attemptAll item (p :: others) s = (.ok (p :: taken), s₂) := by
    unfold Partners.attemptAll
    rw [bind_of_ok hfirst, bind_of_ok hothers]
    rfl
  have hsame : s.SameTables s₂ := (Partners.keepsTables_attemptAll hp item _).of_eq hall
  have hcount : Quota.recordUsage userId (.text contentType) s₂ = _ :=
    Quota.recordUsage_of_knows (hsame.outages.trans ho) (hknown.of_users (by rw [hsame.store]))
      contentType
  refine ⟨hsame, ?_⟩
  unfold route
  rw [bind_of_ok hall]
  exact bind_of_ok hcount

/-- Where notices are delivered, telling about a new request does not fail; it changes no record. -/
theorem announce_ok (service : Service) (text : String) {r : Request} {trigger : String}
    (hr : r.triggeredBy = .text trigger) (hn : s.network.Delivers) :
    ∃ s', service.gate.announce text r s = (.ok {
        kind := .pending, request := some r, message := r.reason.orElse (.text "") }, s') ∧
      s.SameRecords s' := by
  rcases htold : service.gate.partners.tellRequired r (info text s).2 with ⟨result, s'⟩
  have hquiet : service.gate.partners.Quiet := service.quiet_partners
  have hsame := quiet_announce hquiet text r s
  have hresult : (service.gate.partners.tellRequired r (info text s).2).1 = .ok () :=
    Partners.real_tellRequired_ok service.isDryRun service.notifier hr hn
  rw [htold] at hresult
  obtain rfl : result = .ok () := hresult
  have hannounce : service.gate.announce text r s = (.ok {
      kind := .pending, request := some r, message := r.reason.orElse (.text "") }, s') :=
    (bind_of_ok (x := info text) rfl).trans (bind_of_ok htold)
  rw [hannounce] at hsame
  exact ⟨s', hannounce, hsame⟩

/-- A submission for which the quota is used up is kept as a request, if its key is free. -/
theorem defer_of_room (service : Service) (ho : s.outages = []) (hn : s.network.Delivers)
    (htimely : service.gate.Timely s) {u : User} (huser : s.store.getUser userId = .ok (some u))
    (hrule : requireRule p.ruleId s.store = .ok ()) {contentType title key : String}
    (hcontent : context.contentType = .text contentType) (htitle : item.title = .text title)
    (hkey : contentKey item context = .text key)
    (hroom : s.store.requests.find? (isRequestFor userId (.text key)) = none)
    (answer : QuotaStatus) :
    ∃ o request, ∃ row : Request, ∃ s',
      service.gate.defer item context userId (.ofDeferral (quotaDeferral answer p)) s = (.ok o, s') ∧
      o.kind = .pending ∧ o.request = some request ∧
      request.triggeredBy = .text "quota_exceeded" ∧ row.key = .text key ∧
      ({ s with store := { s.store with requests := s.store.requests ++ [row] } } : Session).SameTables
        s' := by
  obtain ⟨expiresAt, hexpiry⟩ := expiry_ok_iff.2 htimely
  rcases hx : service.gate.expiry s with ⟨result, s₁⟩
  rw [hx] at hexpiry
  obtain rfl : result = .ok expiresAt := hexpiry
  obtain ⟨hstore, hnow, hout, hleaves⟩ := ((quiet_expiry _).of_eq hx).toSameTables
  let n := newRequest item context userId (.ofDeferral (quotaDeferral answer p)) expiresAt
  obtain ⟨request, row, hadd, htrigger, hrowKey⟩ := addRequest_of_room (n := n) s₁.now huser hrule
    hcontent htitle hkey rfl rfl hroom
  rw [← hstore] at hadd
  let s₂ : Session :=
    { s₁ with store := { s₁.store with requests := s₁.store.requests ++ [row] } }
  have hadded : Act.addRequest n s₁ = (.ok request, s₂) := write_of_ok (hout.trans ho) hadd
  have hdelivers : s₂.network.Delivers := hleaves.delivers hn
  obtain ⟨s', hannounce, hs'⟩ := announce_ok service ("'" ++ item.title.display
    ++ "' needs approval (" ++ request.triggeredBy.display ++ "); request "
    ++ Number.integerText request.id ++ " created") htrigger hdelivers
  refine ⟨{ kind := .pending, request := some request, message := request.reason.orElse (.text "") },
    request, row, s', ?_, rfl, rfl, htrigger, hrowKey, ?_⟩
  · unfold defer
    rw [bind_of_ok hx, bind_of_ok hadded]
    exact hannounce
  · refine .trans ?_ hs'.toSameTables
    exact ⟨by dsimp only [s₂]; rw [hstore], hnow, hout, hleaves⟩

end Reasons

/-! ## One after the other -/

namespace Ask

/-- What some submissions of today leave of a session: `used` of them were counted, and apart from the
requests all tables are as they were. -/
structure Leave (userId : Int) (contentType : String) (used : Nat) (s s' : Session) : Prop where
  outages : s'.outages = s.outages
  today : s'.now.date = s.now.date
  users : s'.store.users = s.store.users
  quotas : s'.store.quotas = s.store.quotas
  rules : s'.store.rules = s.store.rules
  usage : s'.store.usage = s.store.usage ++ List.replicate used ⟨userId, contentType, s.now.date⟩

namespace Leave

variable {service : Service} {q : Quota} {p : Period} {limit : Int} {userId : Int}
  {contentType : String} {rows : List Usage} {used : Nat} {a : Ask} {s s' s'' : Session}

theorem refl (userId : Int) (contentType : String) (s : Session) :
    Leave userId contentType 0 s s :=
  ⟨rfl, rfl, rfl, rfl, rfl, (List.append_nil _).symm⟩

theorem arrive (h : Leave userId contentType used s s') (hday : a.time.date = s.now.date) :
    Leave userId contentType used s (a.arrive s') :=
  ⟨h.outages, hday, h.users, h.quotas, h.rules, h.usage⟩

theorem sameTables (h : Leave userId contentType used s s') (hsame : s'.SameTables s'') :
    Leave userId contentType used s s'' := by
  obtain ⟨hstore, hnow, hout, -⟩ := hsame
  refine ⟨hout.trans h.outages, ?_, ?_, ?_, ?_, ?_⟩
  · rw [hnow, h.today]
  all_goals rw [hstore]
  · exact h.users
  · exact h.quotas
  · exact h.rules
  · exact h.usage

theorem counted (h : Leave userId contentType used s s') :
    Leave userId contentType (used + 1) s { s' with store := { s'.store with
      usage := s'.store.usage ++ [⟨userId, contentType, s'.now.date⟩] } } := by
  refine ⟨h.outages, h.today, h.users, h.quotas, h.rules, ?_⟩
  dsimp only
  rw [h.usage, h.today, List.append_assoc, List.replicate_succ']

theorem requested (h : Leave userId contentType used s s') (requests : List Request) :
    Leave userId contentType used s { s' with store := { s'.store with requests } } :=
  ⟨h.outages, h.today, h.users, h.quotas, h.rules, h.usage⟩

theorem rations (h : Leave userId contentType used s s')
    (hration : Quota.Rations q p limit userId contentType s) :
    Quota.Rations q p limit userId contentType s' := by
  have huser : s'.store.getUser userId = s.store.getUser userId := by
    unfold Store.getUser
    rw [h.users]
  have hquota : s'.store.getQuota userId (.text contentType)
      = s.store.getQuota userId (.text contentType) := by
    unfold Store.getQuota
    rw [h.quotas]
  exact ⟨h.outages.trans hration.working, huser ▸ hration.user,
    hquota ▸ hration.quota, hration.period, hration.limit, hration.binds⟩

/-- The requests that were counted since count as well. If no other counts, their reset has to be in the
calendar. -/
theorem counting (h : Leave userId contentType used s s')
    (hrows : Quota.Counting p userId contentType rows s)
    (hreset : used ≠ 0 → rows = [] → ∃ t, p.reset s.now.date (some s.now.date) = .ok t) :
    Quota.Counting p userId contentType
      (rows ++ List.replicate used ⟨userId, contentType, s.now.date⟩) s' := by
  obtain ⟨w, hw, hcount⟩ := hrows.window
  have htoday : (counts userId contentType ⟨userId, contentType, s.now.date⟩ &&
      w.contains s.now.date) = true := by
    have hcontains : w.contains s.now.date = true :=
      (Period.contains_window hw _).2 ⟨p.firstDay_le _, Nat.le_refl _⟩
    simp [counts, hcontains]
  refine ⟨⟨w, h.today ▸ hw, ?_⟩, ?_⟩
  · rw [h.usage, List.filter_append, hcount, List.filter_replicate, if_pos htoday]
  · rw [h.today]
    rcases hused : used with - | k
    · rw [List.replicate_zero, List.append_nil]
      exact hrows.reset
    have hne : used ≠ 0 := by omega
    -- the oldest row is as old as it was, or of today where there was none
    cases holdest : earliest? rows with
    | none =>
      have hnone := earliest?_eq_none.1 holdest
      refine Period.reset_of_earlier (hreset hne hnone) fun d hd => ?_
      rw [hnone, List.nil_append] at hd
      obtain ⟨⟨u, hu, rfl⟩, -⟩ := earliest?_spec hd
      obtain rfl := List.eq_of_mem_replicate hu
      exact Nat.le_refl _
    | some oldest =>
      refine Period.reset_of_earlier (holdest ▸ hrows.reset) fun d hd => ?_
      obtain ⟨⟨u, hu, rfl⟩, -⟩ := earliest?_spec holdest
      exact (earliest?_spec hd).2 u (List.mem_append_left _ hu)

/-- The gate looks for a reason to wait, and finds one if the quota is used up. -/
theorem handle_eq (service : Service) (h : Leave userId contentType used s s')
    (hration : Quota.Rations q p limit userId contentType s)
    (hrows : Quota.Counting p userId contentType rows s') (ha : a.Plain userId contentType s)
    (hfresh : ∀ r ∈ s'.store.requests, r.userId = userId → r.key ≠ a.key) :
    ∃ primary placement others answer, a.placements = placement :: others ∧
      requireRule placement.ruleId s.store = .ok () ∧
      answer.exceeded = decide (limit ≤ rows.length) ∧
      reasonToWait primary placement a.context.contentType (some userId) (a.arrive s')
        = (.ok (if answer.exceeded then some (.ofDeferral (quotaDeferral answer placement))
            else none), a.arrive s') ∧
      a.handle service.gate s'
        = service.gate.receive a.item a.context primary placement a.placements (a.arrive s') := by
  have harrived := h.arrive ha.day
  have hration' := harrived.rations hration
  have hout : (a.arrive s').outages = [] := hration'.working
  have hrows' : Quota.Counting p userId contentType rows (a.arrive s') :=
    hrows.of_today rfl (ha.day.trans h.today.symm)
  obtain ⟨answer, hstatus, -, -, -, hexceeded⟩ := hration'.status_eq hrows'
  obtain ⟨u, huser, hunflagged⟩ := hration'.user
  obtain ⟨primary, placement, others, hplacements, hroutes, hcounts, hrule, hprocess⟩ :=
    ha.process_eq service.gate
  refine ⟨primary, placement, others, answer, hplacements, hrule, hexceeded, ?_, ?_⟩
  · rw [ha.contentType]
    exact reasonToWait_of_status hout hroutes huser hunflagged hcounts hstatus
  · obtain ⟨key, hkey⟩ := ha.key
    rw [hkey] at hfresh
    unfold handle
    rw [hprocess, ha.user]
    exact bind_of_ok (liveRequest_of_fresh hout ⟨u, huser⟩ hkey hfresh)

/-- While something is left, the submission is routed and one more is counted. -/
theorem routed (h : Leave userId contentType used s s')
    (hration : Quota.Rations q p limit userId contentType s)
    (hrows : Quota.Counting p userId contentType rows s') (ha : a.Plain userId contentType s)
    (hfresh : ∀ r ∈ s'.store.requests, r.userId = userId → r.key ≠ a.key)
    (hleft : rows.length < limit) (htaken : a.Accepted service.gate (a.arrive s')) :
    ∃ o s'', a.handle service.gate s' = (.ok o, s'') ∧ o.kind = .routed ∧
      Leave userId contentType (used + 1) s s'' ∧ s''.store.requests = s'.store.requests := by
  obtain ⟨primary, placement, others, answer, hplacements, -, hexceeded, hreason, hhandle⟩ :=
    handle_eq service h hration hrows ha hfresh
  have hfree : answer.exceeded = false := by
    rw [hexceeded, decide_eq_false_iff_not]
    omega
  obtain ⟨placement', others', s₁, taken, s₂, hplacements', hfirst, hothers⟩ := htaken
  obtain ⟨rfl, rfl⟩ := List.cons.inj (hplacements.symm.trans hplacements')
  have harrived := h.arrive ha.day
  have hknown : (a.arrive s').store.Knows userId := by
    obtain ⟨u, huser, -⟩ := hration.user
    exact (show s.store.Knows userId from ⟨u, huser⟩).of_users harrived.users
  have hquiet : service.gate.partners.Quiet := service.quiet_partners
  obtain ⟨hsame, hroute⟩ := route_of_accepted hquiet (harrived.outages.trans hration.working) hknown
    contentType hfirst hothers
  rw [hfree, if_neg Bool.false_ne_true] at hreason
  have hreceive : a.handle service.gate s'
      = service.gate.route a.item (.text contentType) (placement :: others) (some userId)
          (a.arrive s') := by
    rw [hhandle, hplacements]
    unfold receive
    rw [ha.user, bind_of_ok hreason, ha.contentType]
  have hrequests : s₂.store.requests = s'.store.requests := congrArg Store.requests hsame.store
  exact ⟨_, _, hreceive.trans hroute, rfl, (harrived.sameTables hsame).counted, hrequests⟩

/-- Once nothing is left, the submission waits and nothing is counted. -/
theorem deferred (h : Leave userId contentType used s s')
    (hration : Quota.Rations q p limit userId contentType s)
    (hrows : Quota.Counting p userId contentType rows s') (ha : a.Plain userId contentType s)
    (hfresh : ∀ r ∈ s'.store.requests, r.userId = userId → r.key ≠ a.key)
    (hfull : limit ≤ rows.length) (htimely : service.gate.Timely (a.arrive s))
    (hn : s'.network.Delivers) :
    ∃ o request s'', a.handle service.gate s' = (.ok o, s'') ∧ o.kind = .pending ∧
      o.request = some request ∧ request.triggeredBy = .text "quota_exceeded" ∧
      Leave userId contentType used s s'' ∧
      ∀ r ∈ s''.store.requests, r ∈ s'.store.requests ∨ r.key = a.key := by
  obtain ⟨primary, placement, others, answer, hplacements, hrule, hexceeded, hreason, hhandle⟩ :=
    handle_eq service h hration hrows ha hfresh
  have hstops : answer.exceeded = true := by
    rw [hexceeded, decide_eq_true_eq]
    exact hfull
  have harrived := h.arrive ha.day
  have hration' := harrived.rations hration
  obtain ⟨u, huser, -⟩ := hration'.user
  obtain ⟨key, hkey⟩ := ha.key
  obtain ⟨title, htitle⟩ := ha.title
  have hrule' : requireRule placement.ruleId (a.arrive s').store = .ok () := by
    rw [← hrule]
    unfold requireRule
    rw [harrived.rules]
  have hroom : (a.arrive s').store.requests.find? (isRequestFor userId (.text key)) = none := by
    refine List.find?_eq_none.2 fun r hr hfor => ?_
    simp only [isRequestFor, Bool.and_eq_true, decide_eq_true_eq] at hfor
    exact hfresh r hr hfor.1 ((Column.eq_of_same hfor.2).trans hkey.symm)
  obtain ⟨o, request, row, s'', hdefer, hkind, hrequest, htrigger, hrow, hsame⟩ :=
    defer_of_room service hration'.working hn htimely huser hrule' ha.contentType
      htitle hkey hroom answer
  refine ⟨o, request, s'', ?_, hkind, hrequest, htrigger, ?_, ?_⟩
  · rw [hstops, if_pos rfl] at hreason
    rw [hhandle, receive_eq_defer ha.user hreason, hdefer]
  · exact (harrived.requested _).sameTables hsame
  · intro r hr
    rw [hsame.store] at hr
    rcases List.mem_append.1 hr with hr | hr
    · exact .inl hr
    · rw [List.mem_singleton.1 hr, hrow, hkey]
      exact .inr rfl

end Leave

/-- The answer to a submission after `k` others, if `r` requests were left before them: content is routed
while some are left, and waits from then on. -/
structure Rationed (r : Int) (k : Nat) (o : Outcome) : Prop where
  routed : k < r → o.kind = .routed
  deferred : r ≤ k → o.kind = .pending ∧
    ∃ request, o.request = some request ∧ request.triggeredBy = .text "quota_exceeded"

/-- Submissions of one day, each for other content and none for content that is asked for already.
Content is accepted where the quota leaves it to routing; where it does not, content can wait and the
notice about it is answered or its exchange breaks off. -/
structure Series (g : Gate) (userId : Int) (contentType : String) (r : Int) (s : Session)
    (asks : List Ask) : Prop where
  plain : ∀ a ∈ asks, a.Plain userId contentType s
  distinct : (asks.map key).Nodup
  fresh : ∀ request ∈ s.store.requests, request.userId = userId → request.key ∉ asks.map key
  accepted : ∀ past a future, asks = past ++ a :: future → past.length < r →
    a.Accepted g (a.arrive (after g past s))
  timely : ∀ past a future, asks = past ++ a :: future → r ≤ past.length → g.Timely (a.arrive s)
  delivered : ∀ past a future, asks = past ++ a :: future → r ≤ past.length →
    (after g past s).network.Delivers

namespace Series

variable {service : Service} {q : Quota} {p : Period} {limit r : Int} {userId : Int}
  {contentType : String} {rows : List Usage} {asks past future : List Ask} {a : Ask} {s s' : Session}

/-- After some submissions of a series, as many were counted as were left, and the keys of the others are
still free. -/
structure Reached (userId : Int) (contentType : String) (r : Int) (k : Nat) (future : List Ask)
    (s s' : Session) : Prop where
  leave : Leave userId contentType (min k r.toNat) s s'
  fresh : ∀ request ∈ s'.store.requests, request.userId = userId → request.key ∉ future.map key

theorem counting_of_reached (hrows : Quota.Counting p userId contentType rows s)
    (hfirst : 0 < r → rows = [] → ∃ t, p.reset s.now.date (some s.now.date) = .ok t) {k : Nat}
    (h : Reached userId contentType r k future s s') :
    ∃ rows', Quota.Counting p userId contentType rows' s' ∧
      rows'.length = rows.length + min k r.toNat :=
  ⟨_, h.leave.counting hrows fun hne => hfirst (by omega), by simp⟩

/-- The next submission of a series is answered as the quota says. It counts if something was left. -/
theorem step (h : Series service.gate userId contentType r s asks)
    (hration : Quota.Rations q p limit userId contentType s)
    (hrows : Quota.Counting p userId contentType rows s) (hr : r = max 0 (limit - rows.length))
    (hfirst : 0 < r → rows = [] → ∃ t, p.reset s.now.date (some s.now.date) = .ok t)
    (hasks : asks = past ++ a :: future)
    (hpast : Reached userId contentType r past.length (a :: future) s (after service.gate past s)) :
    (∃ o, (a.handle service.gate (after service.gate past s)).1 = .ok o ∧
      Rationed r past.length o) ∧
    Reached userId contentType r (past ++ [a]).length future s
      (after service.gate (past ++ [a]) s) := by
  obtain ⟨rows', hrows', hlength⟩ := counting_of_reached hrows hfirst hpast
  have hplain : a.Plain userId contentType s := h.plain a (by simp [hasks])
  have hfresh : ∀ request ∈ (after service.gate past s).store.requests, request.userId = userId →
      request.key ≠ a.key := fun request hmem huser hkey =>
    hpast.fresh request hmem huser (by simp [hkey])
  rw [after_snoc, List.length_append]
  -- what was counted so far is `r` at most, so `r` decides whether the rows reach the limit
  by_cases hleft : past.length < r
  · have hroom : (rows'.length : Int) < limit := by omega
    obtain ⟨o, s'', hhandle, hkind, hleave, hrequests⟩ := hpast.leave.routed hration hrows' hplain
      hfresh hroom (h.accepted past a future hasks hleft)
    rw [hhandle]
    refine ⟨⟨o, rfl, fun _ => hkind, fun hfull => absurd hfull (by omega)⟩, ?_, ?_⟩
    · have hone : min (past.length + 1) r.toNat = min past.length r.toNat + 1 := by omega
      exact hone ▸ hleave
    · intro request hmem huser hkey
      rw [hrequests] at hmem
      exact hpast.fresh request hmem huser (List.mem_cons_of_mem _ hkey)
  · have hfull : limit ≤ rows'.length := by omega
    obtain ⟨o, request, s'', hhandle, hkind, hrequest, htrigger, hleave, hrequests⟩ :=
      hpast.leave.deferred hration hrows' hplain hfresh hfull
        (h.timely past a future hasks (by omega)) (h.delivered past a future hasks (by omega))
    rw [hhandle]
    have hwaits : o.kind = .pending ∧ ∃ request, o.request = some request ∧
        request.triggeredBy = .text "quota_exceeded" := ⟨hkind, request, hrequest, htrigger⟩
    refine ⟨⟨o, rfl, fun hless => absurd hless hleft, fun _ => hwaits⟩, ?_, ?_⟩
    · have hnone : min (past.length + 1) r.toNat = min past.length r.toNat := by omega
      exact hnone ▸ hleave
    · intro request hmem huser hkey
      rcases hrequests request hmem with hmem | hsame
      · exact hpast.fresh request hmem huser (List.mem_cons_of_mem _ hkey)
      · have hdistinct := h.distinct
        rw [hasks, List.map_append, List.map_cons] at hdistinct
        have hother := (List.nodup_cons.1 (List.nodup_append.1 hdistinct).2.1).1
        exact hother (hsame ▸ hkey)

theorem reached (h : Series service.gate userId contentType r s asks)
    (hration : Quota.Rations q p limit userId contentType s)
    (hrows : Quota.Counting p userId contentType rows s) (hr : r = max 0 (limit - rows.length))
    (hfirst : 0 < r → rows = [] → ∃ t, p.reset s.now.date (some s.now.date) = .ok t)
    (hasks : asks = past ++ future) :
    Reached userId contentType r past.length future s (after service.gate past s) := by
  -- from the back: the step is about the last of the submissions that have come
  induction past using List.reverseRecOn generalizing future with
  | nil =>
    obtain rfl : asks = future := hasks
    refine ⟨?_, h.fresh⟩
    rw [List.length_nil, Nat.zero_min]
    exact .refl userId contentType s
  | append_singleton past a ih =>
    have hasks' : asks = past ++ a :: future := by rw [hasks, List.append_assoc]; rfl
    exact (h.step hration hrows hr hfirst hasks' (ih hasks')).2

/-- Two submissions of different content, where nothing is asked for yet and requests wait for good. -/
theorem pair {g : Gate} {b : Ask} (hnone : s.store.requests = []) (hgood : g.waitHours = none)
    (ha : a.Plain userId contentType s) (hb : b.Plain userId contentType s) (hkeys : a.key ≠ b.key)
    (hfirst : a.Accepted g (a.arrive s))
    (hsecond : 1 < r → b.Accepted g (b.arrive (after g [a] s)))
    (hn : s.network.Delivers) (hn' : (after g [a] s).network.Delivers) :
    Series g userId contentType r s [a, b] := by
  have hparts : ∀ {past c future}, [a, b] = past ++ c :: future →
      past = [] ∧ c = a ∨ past = [a] ∧ c = b := by
    rintro (_ | ⟨d, _ | ⟨e, past⟩⟩) c future hasks
    · exact .inl ⟨rfl, (List.cons.inj hasks).1.symm⟩
    · obtain ⟨rfl, hrest⟩ := List.cons.inj hasks
      exact .inr ⟨rfl, (List.cons.inj hrest).1.symm⟩
    · have hlength := congrArg List.length hasks
      simp at hlength
  refine ⟨by simp [ha, hb], by simp [hkeys], by simp [hnone], ?_, ?_, ?_⟩
  · intro past c future hasks hleft
    obtain ⟨rfl, rfl⟩ | ⟨rfl, rfl⟩ := hparts hasks
    · exact hfirst
    · exact hsecond hleft
  · intro _ _ _ _ _ hours hwait
    rw [hgood] at hwait
    cases hwait
  · intro past c future hasks _
    obtain ⟨rfl, -⟩ | ⟨rfl, -⟩ := hparts hasks
    · exact hn
    · exact hn'

end Series

end Ask

open Ask in
/-- A quota admits as many more requests as remain of it. After each of them one less remains, and
the quota would be exceeded exactly when none does; then content waits. -/
theorem admits_remaining (service : Service) {q : Quota} {p : Period} {limit r : Int} {userId : Int}
    {contentType : String} {asks : List Ask} {s : Session}
    (hration : Quota.Rations q p limit userId contentType s)
    (hr : (Quota.remaining userId (.text contentType) s).1 = .ok (.int r))
    (hfirst : 0 < r → Quota.Counting p userId contentType [] s →
      ∃ t, p.reset s.now.date (some s.now.date) = .ok t)
    (h : Series service.gate userId contentType r s asks) :
    ∀ past future, asks = past ++ future →
      (Quota.remaining userId (.text contentType) (after service.gate past s)).1
        = .ok (.int (max 0 (r - past.length))) ∧
      (Quota.wouldExceed userId (.text contentType) (after service.gate past s)).1
        = .ok (decide (max 0 (r - past.length) = 0)) ∧
      ∀ a later, future = a :: later →
        ∃ o, (a.handle service.gate (after service.gate past s)).1 = .ok o ∧
          Rationed r past.length o := by
  intro past future hasks
  obtain ⟨rows, hrows, hleft⟩ := hration.counting_of_remaining hr
  have hfirst' : 0 < r → rows = [] → ∃ t, p.reset s.now.date (some s.now.date) = .ok t :=
    fun hpos hnone => hfirst hpos (hnone ▸ hrows)
  have hreached := h.reached hration hrows hleft hfirst' hasks
  obtain ⟨rows', hrows', hlength⟩ := Series.counting_of_reached hrows hfirst' hreached
  have hration' := hreached.leave.rations hration
  refine ⟨?_, ?_, ?_⟩
  · rw [hration'.remaining_eq hrows']
    congr 2
    omega
  · rw [hration'.wouldExceed_eq hrows']
    congr 1
    apply decide_eq_decide.2
    omega
  · rintro a later rfl
    exact (h.step hration hrows hleft hfirst' hasks hreached).1

/-- A quota of Ann for films. -/
def filmQuota (period : String) (limit : Int) : Quota :=
  ⟨1, .text "movie", .text period, .int limit, false⟩

/-- Ann has the quota, and nothing was counted yet. -/
def rationed (q : Quota) (day : Nat) : Session where
  store := {
    instances := [{ id := 1, type := .text "radarr" }]
    users := [{ id := 1, name := .text "Ann" }]
    quotas := [q] }
  now := .ofDate ⟨day⟩

/-- Ann asks for a film, for each of some instances. -/
def Ask.film (day : Nat) (title guid : String) (instances : List Int) : Ask where
  time := .ofDate ⟨day⟩
  item := { title := .text title, guids := [guid] }
  context := { contentType := .text "movie", userId := .one 1 }
  verdicts := instances.map fun id => .route { instanceId := id }

theorem rations_films (period : String) {p : Period} (h : periodOf (.text period) = .ok p)
    (limit : Int) (day : Nat) :
    Quota.Rations (filmQuota period limit) p limit 1 "movie" (rationed (filmQuota period limit) day) :=
  ⟨rfl, ⟨_, rfl, rfl⟩, rfl, h, rfl, rfl⟩

theorem counting_none (q : Quota) : Quota.Counting .daily 1 "movie" [] (rationed q 738959) where
  window := ⟨_, rfl, rfl⟩
  reset := by
    have hreset : ∃ t, Period.daily.reset (Moment.ofDate ⟨738959⟩).date none = .ok t :=
      exists_ok_iff.2 (by decide +kernel)
    exact hreset

theorem Ask.plain_film (day : Nat) (title guid : String) (q : Quota) (others : List Int) :
    (Ask.film day title guid (1 :: others)).Plain 1 "movie" (rationed q day) := by
  refine ⟨rfl, rfl, rfl, rfl, ⟨_, rfl⟩, ⟨_, rfl⟩, ?_, _, _, _, rfl, rfl, rfl, rfl, rfl⟩
  intro v hv
  obtain ⟨id, -, rfl⟩ := List.mem_map.1 hv
  exact fun h => by cases h

/-- The one instance that a film is for takes it if the attempt says so. -/
theorem Ask.accepted_film {g : Gate} {day : Nat} {title guid : String} {s : Session}
    (h : (g.partners.attempt (Ask.film day title guid [1]).item { instanceId := 1 } s).1.toOption
      = some true) : (Ask.film day title guid [1]).Accepted g s :=
  ⟨_, _, _, _, _, rfl, Prod.ext (ok_of_toOption h) rfl, rfl⟩

open Ask in
/-- For instance, Ann may ask for one film a day: the first is routed, and the second waits. -/
theorem admits_remaining_one_film :
    let s := rationed (filmQuota "daily" 1) 738959
    let g := ({} : Service).gate
    let dune := film 738959 "Dune" "tmdb:438631" [1]
    let heat := film 738959 "Heat" "tmdb:949" [1]
    (∃ o, (dune.handle g s).1 = .ok o ∧ o.kind = .routed) ∧
      (Quota.remaining 1 (.text "movie") (after g [dune] s)).1 = .ok (.int 0) ∧
      ∃ o, (heat.handle g (after g [dune] s)).1 = .ok o ∧ o.kind = .pending := by
  intro s g dune heat
  have hration := rations_films "daily" rfl 1 738959
  have hcounting := counting_none (filmQuota "daily" 1)
  have hr : (Quota.remaining 1 (.text "movie") s).1 = .ok (.int 1) := hration.remaining_eq hcounting
  have hempty : (after g [dune] s).network = [] := List.isEmpty_iff.1 (by decide +kernel)
  have h : Series g 1 "movie" 1 s [dune, heat] := by
    refine .pair rfl rfl (plain_film ..) (plain_film ..) ?_ (accepted_film (by decide +kernel))
      (fun hless => absurd hless (by decide)) Network.delivers_nil (hempty ▸ Network.delivers_nil)
    exact fun hsame => absurd (Value.text.inj hsame) (by decide)
  have hmain := admits_remaining {} hration hr (fun _ _ => hcounting.reset) h
  obtain ⟨-, -, hfirst⟩ := hmain [] [dune, heat] rfl
  obtain ⟨hnone, -, hsecond⟩ := hmain [dune] [heat] rfl
  obtain ⟨o, ho, hrouted⟩ := hfirst dune [heat] rfl
  obtain ⟨o', ho', hdeferred⟩ := hsecond heat [] rfl
  exact ⟨⟨o, ho, hrouted.1 (by decide)⟩, hnone, o', ho', (hdeferred.2 (by decide)).1⟩

open Ask in
/-- While something is left, a submission can still end without an answer: in the last seven days of the
calendar, on none of which a first request stops counting in a rolling week, or if an instance fails
that comes after the one that takes the content. If nothing is left, it ends without an answer where the
request would wait beyond the calendar, and where the notice about it goes wrong. -/
theorem submissions_without_answer :
    let g := ({} : Service).gate
    (let q := filmQuota "weekly_rolling" 2
      let s := rationed q 3652056
      let dune := film 3652056 "Dune" "tmdb:438631" [1]
      let heat := film 3652056 "Heat" "tmdb:949" [1]
      (Quota.Rations q .weeklyRolling 2 1 "movie" s ∧
        (Quota.remaining 1 (.text "movie") s).1 = .ok (.int 2) ∧
        Series g 1 "movie" 2 s [dune, heat]) ∧
      (¬ ∃ r, (Quota.remaining 1 (.text "movie") (after g [dune] s)).1 = .ok r) ∧
      ¬ ∃ o, (heat.handle g (after g [dune] s)).1 = .ok o) ∧
    (let q := filmQuota "daily" 2
      let s := rationed q 738959
      let dune := film 738959 "Dune" "tmdb:438631" [1, 9223372036854775808]
      (Quota.Rations q .daily 2 1 "movie" s ∧
        (Quota.remaining 1 (.text "movie") s).1 = .ok (.int 2) ∧ dune.Plain 1 "movie" s ∧
        ∃ s', g.partners.attempt dune.item { instanceId := 1 } (dune.arrive s) = (.ok true, s')) ∧
      ¬ ∃ o, (dune.handle g s).1 = .ok o) ∧
    (let q := filmQuota "daily" 0
      let service : Service := { waitHours := some 100000000 }
      let s := rationed q 738959
      let dune := film 738959 "Dune" "tmdb:438631" [1]
      (Quota.Rations q .daily 0 1 "movie" s ∧
        (Quota.remaining 1 (.text "movie") s).1 = .ok (.int 0) ∧ dune.Plain 1 "movie" s ∧
        dune.Accepted service.gate (dune.arrive s)) ∧
      ¬ ∃ o, (dune.handle service.gate s).1 = .ok o) ∧
    (let q := filmQuota "daily" 0
      let service : Service := { notifier := some { apiKey := .text "key" } }
      let s : Session := { rationed q 738959 with network := [
        ("POST https://notifiarr.com/api/v1/notification/passthrough/key",
          [.failed (.unforeseen "no time to connect")])] }
      let dune := film 738959 "Dune" "tmdb:438631" [1]
      (Quota.Rations q .daily 0 1 "movie" s ∧
        (Quota.remaining 1 (.text "movie") s).1 = .ok (.int 0) ∧ dune.Plain 1 "movie" s ∧
        dune.Accepted service.gate (dune.arrive s) ∧ service.gate.Timely (dune.arrive s)) ∧
      ¬ ∃ o, (dune.handle service.gate s).1 = .ok o) := by
  intro g
  refine ⟨?week, ?others, ?late, ?untold⟩
  case week =>
    intro q s dune heat
    have hwindow : ∃ w, Period.weeklyRolling.window s.now.date = .ok w :=
      exists_ok_iff.2 (by decide +kernel)
    obtain ⟨w, hw⟩ := hwindow
    have hq : Quota.Rations q .weeklyRolling 2 1 "movie" s := rations_films _ rfl 2 3652056
    have hempty : (after g [dune] s).network = [] := List.isEmpty_iff.1 (by decide +kernel)
    have h : Series g 1 "movie" 2 s [dune, heat] := by
      refine .pair rfl rfl (plain_film ..) (plain_film ..) ?_ (accepted_film (by decide +kernel))
        (fun _ => accepted_film (by decide +kernel)) Network.delivers_nil
        (hempty ▸ Network.delivers_nil)
      exact fun hsame => absurd (Value.text.inj hsame) (by decide)
    refine ⟨⟨hq, hq.remaining_eq ⟨⟨w, hw, rfl⟩, none, rfl⟩, h⟩, ?_, ?_⟩
    · exact fun htold => absurd (exists_ok_iff.1 htold) (by decide +kernel)
    · exact fun hanswer => absurd (exists_ok_iff.1 hanswer) (by decide +kernel)
  case others =>
    intro q s dune
    have hq : Quota.Rations q .daily 2 1 "movie" s := rations_films _ rfl 2 738959
    have htaken : (g.partners.attempt dune.item { instanceId := 1 } (dune.arrive s)).1.toOption
        = some true := by decide +kernel
    refine ⟨⟨hq, hq.remaining_eq (counting_none q), plain_film .., _,
      Prod.ext (ok_of_toOption htaken) rfl⟩, ?_⟩
    exact fun hanswer => absurd (exists_ok_iff.1 hanswer) (by decide +kernel)
  case late =>
    intro q service s dune
    have hq : Quota.Rations q .daily 0 1 "movie" s := rations_films _ rfl 0 738959
    refine ⟨⟨hq, hq.remaining_eq (counting_none q), plain_film ..,
      accepted_film (by decide +kernel)⟩, ?_⟩
    exact fun hanswer => absurd (exists_ok_iff.1 hanswer) (by decide +kernel)
  case untold =>
    intro q service s dune
    have hq : Quota.Rations q .daily 0 1 "movie" s := ⟨rfl, ⟨_, rfl, rfl⟩, rfl, rfl, rfl, rfl⟩
    have hplain : dune.Plain 1 "movie" s := by
      obtain ⟨day, asked, user, content, title, key, unrejected, first⟩ :=
        plain_film 738959 "Dune" "tmdb:438631" q []
      exact ⟨day, asked, user, content, title, key, unrejected, first⟩
    refine ⟨⟨hq, hq.remaining_eq ((counting_none q).of_today rfl rfl), hplain, accepted_film (by decide +kernel),
      fun hours hwait => by cases hwait⟩, ?_⟩
    exact fun hanswer => absurd (exists_ok_iff.1 hanswer) (by decide +kernel)

end Gate

end Watchgate
