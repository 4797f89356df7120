import Watchgate.Proofs.Approval.OneUser
import Mathlib.Logic.Function.Basic

/-!
# Submissions of different users commute

Each of two submissions of different users changes rows of its own user only, and changes them alike
whether or not the other came first. So both orders end with the same rows of either user and of
anybody else. The rows are put side by side here and the new ids are matched.
-/

namespace Watchgate

open Act Store

/-- Requests that are the same in another order, where those that are not in `old` may have been given
other ids by `rename`. -/
structure Renames (old : List Request) (rename : Int → Int) (rows rows' : List Request) : Prop where
  perm : rows'.Perm (rows.map fun r => r.withId (rename r.id))
  distinct : ((rows.map Request.id).map rename).Nodup
  stays : ∀ r ∈ rows, r ∈ old ∨ r.withId (rename r.id) ∈ old → rename r.id = r.id

/-- Requests with different ids can be renamed independently of each other. -/
theorem exists_rename {old rows rows' : List Request}
    (h : List.Forall₂ (Request.SameUpToNewId old) rows rows') (hd : (rows.map Request.id).Nodup) :
    ∃ rename : Int → Int, rows' = rows.map (fun r => r.withId (rename r.id)) ∧
      ∀ r ∈ rows, r ∈ old ∨ r.withId (rename r.id) ∈ old → rename r.id = r.id := by
  induction h with
  | nil => exact ⟨id, rfl, by simp⟩
  | @cons r r' rows rows' hr _ ih =>
    obtain ⟨hnew, hd⟩ := List.nodup_cons.1 hd
    obtain ⟨rename, rfl, hstays⟩ := ih hd
    have hother : ∀ q ∈ rows, Function.update rename r.id r'.id q.id = rename q.id := by
      intro q hq
      refine Function.update_of_ne (fun he => hnew ?_) _ _
      exact he ▸ List.mem_map_of_mem hq
    refine ⟨Function.update rename r.id r'.id, ?_, fun q hq => ?_⟩
    · rw [List.map_cons, Function.update_self, ← hr.eq]
      exact congrArg (r' :: ·) (List.map_congr_left fun q hq => by rw [hother q hq])
    · rcases List.mem_cons.1 hq with rfl | hq
      · rw [Function.update_self, ← hr.eq]
        exact fun ho => congrArg Request.id (hr.stays ho)
      · rw [hother q hq]
        exact hstays q hq

/-- So can requests that are put into another order first. -/
theorem exists_renames {old l l' rows rows' : List Request} (hl : l.Perm rows)
    (hl' : l'.Perm rows') (h : List.Forall₂ (Request.SameUpToNewId old) rows rows')
    (hd : (l.map Request.id).Nodup) (hd' : (l'.map Request.id).Nodup) :
    ∃ rename, Renames old rename l l' := by
  obtain ⟨rename, rfl, hstays⟩ := exists_rename h ((hl.map Request.id).nodup_iff.1 hd)
  have hperm : l'.Perm (l.map fun r => r.withId (rename r.id)) := hl'.trans (hl.map _).symm
  refine ⟨rename, hperm, ?_, fun r hr => hstays r (hl.mem_iff.1 hr)⟩
  have hids := (hperm.map Request.id).nodup_iff.1 hd'
  rwa [List.map_map] at hids ⊢

/-- Rows by whose they are: one user's, another's, anybody else's. -/
theorem perm_byUser {α : Type} (f : α → Int) {a b : Int} (hab : a ≠ b) (l : List α) :
    l.Perm (l.filter (f · = a) ++ (l.filter (f · = b) ++ l.filter fun x => f x ≠ a ∧ f x ≠ b)) := by
  have hb : (l.filter fun x => !decide (f x = a)).filter (f · = b) = l.filter (f · = b) := by
    rw [List.filter_filter]
    refine List.filter_congr fun x _ => ?_
    by_cases hx : f x = b
    · simp [hx, hab.symm]
    · simp [hx]
  have hneither : (l.filter fun x => !decide (f x = a)).filter (fun x => !decide (f x = b))
      = l.filter fun x => f x ≠ a ∧ f x ≠ b := by
    rw [List.filter_filter]
    refine List.filter_congr fun x _ => ?_
    by_cases hx : f x = a <;> simp [hx]
  have hrest := List.filter_append_perm (fun x => decide (f x = b))
    (l.filter fun x => !decide (f x = a))
  rw [hb, hneither] at hrest
  have hall := List.filter_append_perm (fun x => decide (f x = a)) l
  exact hall.symm.trans (hrest.symm.append_left _)

/-- Where each of two steps changes rows of one user only, what they come to in either order can be
put side by side, if each changes its rows alike whether or not the other came first. -/
theorem exists_aligned {α : Type} {f : α → Int} {R : α → α → Prop} (hrefl : ∀ r, R r r)
    (hsymm : ∀ r r', R r r' → R r' r) {a b : Int} (hab : a ≠ b) {l l₁ l₂ l₁₂ l₂₁ : List α}
    (h₁ : l₁.filter (f · ≠ a) = l.filter (f · ≠ a))
    (h₂ : l₂.filter (f · ≠ b) = l.filter (f · ≠ b))
    (h₁₂ : l₁₂.filter (f · ≠ b) = l₁.filter (f · ≠ b))
    (h₂₁ : l₂₁.filter (f · ≠ a) = l₂.filter (f · ≠ a))
    (ha : List.Forall₂ R (l₁.filter (f · = a)) (l₂₁.filter (f · = a)))
    (hb : List.Forall₂ R (l₂.filter (f · = b)) (l₁₂.filter (f · = b))) :
    ∃ rows rows', l₁₂.Perm rows ∧ l₂₁.Perm rows' ∧ List.Forall₂ R rows rows' := by
  have hneither : ∀ x, decide (f x ≠ a ∧ f x ≠ b) = true → f x ≠ a ∧ f x ≠ b := fun x hx =>
    of_decide_eq_true hx
  refine ⟨_, _, perm_byUser f hab l₁₂, perm_byUser f hab l₂₁, ?_⟩
  refine List.rel_append ?_ (List.rel_append ?_ ?_)
  · rw [filter_user_of_others hab h₁₂]
    exact ha
  · rw [filter_user_of_others hab.symm h₂₁]
    exact (hb.imp hsymm).flip
  · rw [filter_of_others (fun x hx => (hneither x hx).2) h₁₂,
      filter_of_others (fun x hx => (hneither x hx).1) h₁,
      filter_of_others (fun x hx => (hneither x hx).1) h₂₁,
      filter_of_others (fun x hx => (hneither x hx).2) h₂]
    exact List.forall₂_same.2 fun r _ => hrefl r

/-- Two submissions come to the same in either order: each ends alike, the same requests are counted,
and the same are waiting or decided, up to ids of new ones. -/
structure Interchangeable (x y : Act Outcome) (s : Session) : Prop where
  first : SameUpToId (x s).1 (x (y s).2).1
  second : SameUpToId (y s).1 (y (x s).2).1
  usage : (y (x s).2).2.store.usage.Perm (x (y s).2).2.store.usage
  requests : ∃ rename, Renames s.store.requests rename (y (x s).2).2.store.requests
    (x (y s).2).2.store.requests

namespace Gate

theorem interchangeable {g : Gate} (hq : g.partners.Quiet) (hc : g.partners.Consistent)
    (item item' : Item) {context context' : Context} (verdicts verdicts' : List Verdict) {a b : Int}
    (ha : context.primaryUserId = some a) (hb : context'.primaryUserId = some b) (hab : a ≠ b)
    {s : Session} (hd : (s.store.requests.map Request.id).Nodup) (ho : s.network.Delivers) :
    Interchangeable (g.process item context verdicts) (g.process item' context' verdicts') s := by
  let old := s.store.requests
  let x := g.process item context verdicts
  let y := g.process item' context' verdicts'
  have hx : s.OnlyOf a (x s).2 := process_onlyOf hq item verdicts ha hd
  have hy : s.OnlyOf b (y s).2 := process_onlyOf hq item' verdicts' hb hd
  have hxy : (x s).2.OnlyOf b (y (x s).2).2 := process_onlyOf hq item' verdicts' hb hx.distinct
  have hyx : (y s).2.OnlyOf a (x (y s).2).2 := process_onlyOf hq item verdicts ha hy.distinct
  obtain ⟨hfirst, hmine⟩ := process_matches hq hc item verdicts ha old s (y s).2
    (hy.sameFor hab hd ho)
  obtain ⟨hsecond, htheirs⟩ := process_matches hq hc item' verdicts' hb old s (x s).2
    (hx.sameFor hab.symm hd ho)
  refine ⟨hfirst, hsecond, ?_, ?_⟩
  · obtain ⟨rows, rows', hrows, hrows', halike⟩ := exists_aligned (R := Eq) (fun _ => rfl)
      (fun _ _ => Eq.symm) hab hx.store.usage hy.store.usage hxy.store.usage hyx.store.usage
      (List.forall₂_eq_eq_eq ▸ hmine.usage.symm) (List.forall₂_eq_eq_eq ▸ htheirs.usage.symm)
    obtain rfl : rows = rows' := List.forall₂_eq_eq_eq ▸ halike
    exact hrows.trans hrows'.symm
  · obtain ⟨rows, rows', hrows, hrows', halike⟩ := exists_aligned (.refl old)
      (fun _ _ => Request.SameUpToNewId.symm) hab hx.store.requests hy.store.requests
      hxy.store.requests hyx.store.requests hmine.requests htheirs.requests
    exact exists_renames hrows hrows' halike hxy.distinct hyx.distinct

/-- The notification service hears of a request alike under any id. -/
theorem consistent_of_answer {acquire : Item → Placement → Act Bool}
    {answer : Item → Placement → Except Failure Bool}
    (hanswer : ∀ item placement s, (acquire item placement s).1 = answer item placement)
    (notifier : Option Notifier) :
    Partners.Consistent { Partners.real false notifier with acquire } where
  acquire item placement s s' _ _ :=
    (hanswer item placement s).trans (hanswer item placement s').symm
  tellRequired r id s s' ho ho' := by
    cases notifier with
    | none => rfl
    | some n =>
      have htold : ∀ (r : Request) (s : Session),
          ((Partners.real false (some n)).tellRequired r s).1
            = (n.required r s).1.map fun _ => () := by
        intro r s
        show (((fun _ => PUnit.unit) <$> n.required r : Act PUnit) s).1 = _
        rw [map_apply]
        rcases n.required r s with ⟨_ | _, _⟩ <;> rfl
      show ((Partners.real false (some n)).tellRequired r s).1
        = ((Partners.real false (some n)).tellRequired (r.withId id) s').1
      rw [htold, htold, n.required_result r ho, n.required_result (r.withId id) ho']
      rfl

/-- Submissions of different users commute, if whether content is taken depends on the content and its
placement only and every notice is answered or its exchange breaks off. `interchangeable` says so of all
partners that do not depend on what happened before. -/
theorem submissions_commute {acquire : Item → Placement → Act Bool}
    (hquiet : ∀ item placement, (acquire item placement).Quiet)
    {answer : Item → Placement → Except Failure Bool}
    (hanswer : ∀ item placement s, (acquire item placement s).1 = answer item placement)
    (notifier : Option Notifier) (waitHours : Option Int) (item item' : Item)
    {context context' : Context} (verdicts verdicts' : List Verdict) {a b : Int}
    (ha : context.primaryUserId = some a) (hb : context'.primaryUserId = some b) (hab : a ≠ b)
    {s : Session} (hd : (s.store.requests.map Request.id).Nodup) (ho : s.network.Delivers) :
    let g : Gate := { partners := { Partners.real false notifier with acquire }, waitHours }
    Interchangeable (g.process item context verdicts) (g.process item' context' verdicts') s := by
  intro g
  have hq : g.partners.Quiet :=
    { (Partners.real_browses false notifier).quiet with acquire := hquiet }
  exact interchangeable hq (consistent_of_answer hanswer notifier) item item' verdicts verdicts'
    ha hb hab hd ho

/-- For instance, where the requests of both users wait, they take their ids in the order in which they
are made. -/
theorem submissions_commute_both_wait :
    let acquire : Item → Placement → Act Bool := fun _ _ => pure true
    let g : Gate := { partners := { Partners.real false none with acquire }, waitHours := some 24 }
    let s : Session := {
      store := { users := [⟨1, .text "Ann", true⟩, ⟨2, .text "Bob", true⟩] }
      now := .ofDate ⟨738959⟩ }
    let x := g.process { title := .text "Dune", guids := ["tmdb:438631"] }
      { contentType := .text "movie", userId := .one 1 } [.route { instanceId := 1 }]
    let y := g.process { title := .text "Heat", guids := ["tmdb:949"] }
      { contentType := .text "movie", userId := .one 2 } [.route { instanceId := 1 }]
    Interchangeable x y s ∧
      (y (x s).2).2.store.requests.map (fun r => (r.id, r.userId)) = [(1, 1), (2, 2)] ∧
      (x (y s).2).2.store.requests.map (fun r => (r.id, r.userId)) = [(1, 2), (2, 1)] := by
  intro acquire g s x y
  have hdelivers : s.network.Delivers := Network.delivers_nil
  refine ⟨submissions_commute (fun _ _ => quiet_pure _) (fun _ _ _ => rfl) none (some 24) _ _ _ _
    (a := 1) (b := 2) rfl rfl (by decide) List.nodup_nil hdelivers, ?_⟩
  decide +kernel

end Gate

end Watchgate
