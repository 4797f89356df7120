import Watchgate.Proofs.Pattern.Openings

/-!
# The screen keeps repetitions apart

Screening and reading go through a pattern side by side. Behind every item the mark of the open
group tells whether a repetition was read in it, so a quantifier that the screen lets through never
lands on an item that holds one.
-/

namespace Watchgate.Pattern

open Screen

variable {b inner : Bool} {bs : List Bool} {seen : List Node} {n : Node} {cs : List Char}
  {flags : Flags} {g : Groups} {ts rest : List Token}

/-- Reading has the items `seen` of a group with the mark `b` behind it. -/
structure Ready (b : Bool) (bs : List Bool) (seen : List Node) (cs : List Char) : Prop where
  resumes : Resumes (b :: bs) cs
  takes : ∀ n ns q rest, seen = n :: ns → n.isRepeated = false →
    quantifier? cs = some (q, rest) → Allows n.holdsMany b bs q rest
  tame : ∀ n ∈ seen, n.isTame = true
  marked : ∀ n ∈ seen, n.holdsMany = true → b = true

namespace Ready

theorem start (h : Resumes (b :: bs) cs) : Ready b bs [] cs := by
  refine ⟨h, ?_, by simp, by simp⟩
  intro _ _ _ _ hseen
  cases hseen

theorem push {cs' : List Char} (h : Ready b bs seen cs) (htame : n.isTame = true)
    (hmany : n.holdsMany = true → inner = true) (ha : Awaits inner b bs cs') :
    Ready (b || inner) bs (n :: seen) cs' := by
  constructor
  · exact ha.goesOn
  · rintro _ _ q rest ⟨rfl, rfl⟩ - hq
    obtain ⟨honce, hlow, hresumes⟩ := ha.takes q rest hq
    refine ⟨?_, hlow, hresumes⟩
    intro hrepeats
    rw [Bool.eq_false_iff]
    intro hn
    rw [hmany hn] at honce
    cases honce hrepeats
  · intro m hm
    rcases List.mem_cons.mp hm with rfl | hm
    · exact htame
    · exact h.tame m hm
  · intro m hm hholds
    rcases List.mem_cons.mp hm with rfl | hm
    · rw [hmany hholds, Bool.or_true]
    · rw [h.marked m hm hholds, Bool.true_or]

theorem push_simple {cs' : List Char} (h : Ready b bs seen cs) (hn : n.holdsMany = false)
    (ha : Awaits false b bs cs') : Ready b bs (n :: seen) cs' := by
  have hpush := h.push (Node.isTame_of_holdsMany_eq_false hn) (by simp [hn]) ha
  rwa [Bool.or_false] at hpush

/-- A quantifier that the screen let through goes to an item without repetitions. -/
theorem quantified {seen' : List Node} {mode : RepeatMode} {bounds : Bounds} {rest : List Char}
    (h : Ready b bs seen cs) (hq : quantifier? cs = some (bounds.quantifier, rest))
    (hread : quantify seen mode bounds = .ok seen') :
    Ready (b || bounds.quantifier.repeats) bs seen' (dropMark rest) := by
  cases seen with
  | nil => cases hread
  | cons n ns =>
    simp only [quantify] at hread
    split at hread
    · cases hread
    next hitem =>
      cases hread
      simp only [Bool.or_eq_true, not_or, Bool.not_eq_true] at hitem
      obtain ⟨honce, hlow, hresumes⟩ := h.takes n ns _ _ rfl hitem.2 hq
      have hbound := bounds.tooHigh_quantifier hlow
      rw [bounds.repeats_quantifier] at honce hresumes ⊢
      constructor
      · exact hresumes
      · rintro _ _ _ _ ⟨rfl, rfl⟩ hrepeated
        cases hrepeated
      · intro m hm
        rcases List.mem_cons.mp hm with rfl | hm
        · rw [Node.isTame_repeated, hbound, h.tame n List.mem_cons_self]
          cases hmany : bounds.high.all (1 < ·) with
          | false => rfl
          | true => rw [honce hmany]; rfl
        · exact h.tame m (.tail _ hm)
      · intro m hm hholds
        rcases List.mem_cons.mp hm with rfl | hm
        · rw [Node.holdsMany_repeated, Bool.or_eq_true] at hholds
          rcases hholds with hmany | hbody
          · rw [hmany, Bool.or_true]
          · rw [h.marked n List.mem_cons_self hbody, Bool.true_or]
        · rw [h.marked m (.tail _ hm) hholds, Bool.true_or]

end Ready

/-- Reading stopped before `rest` with the node `n`. -/
structure Ends (b : Bool) (bs : List Bool) (ts : List Token) (n : Node) (g : Groups)
    (rest : List Token) : Prop where
  suffix : rest <:+ ts
  global : g.global.verbose = false
  tame : n.isTame = true
  passes : ∃ b', (b = true → b' = true) ∧ (n.holdsMany = true → b' = true) ∧
    Passes (b' :: bs) (spelled rest)

/-- Reading went on to `rest` inside a group. -/
structure Advances (b : Bool) (bs : List Bool) (ts : List Token) (flags : Flags) (g : Groups)
    (seen : List Node) (rest : List Token) : Prop where
  suffix : rest <:+ ts
  flags : flags.verbose = false
  global : g.global.verbose = false
  ready : ∃ b', (b = true → b' = true) ∧ Ready b' bs seen (spelled rest)

theorem expectClose_ok {after : List Token} (h : expectClose ts = .ok after) :
    ts = .plain ')' :: after := by
  unfold expectClose at h
  split at h <;> cases h
  rfl

namespace Ends

theorem weaken {b' : Bool} {us : List Token} (h : Ends b' bs us n g rest)
    (hb : b = true → b' = true) (hus : us <:+ ts) : Ends b bs ts n g rest where
  suffix := h.suffix.trans hus
  global := h.global
  tame := h.tame
  passes := by
    obtain ⟨b'', hb'', hn, hpasses⟩ := h.passes
    exact ⟨b'', fun hmark => hb'' (hb hmark), hn, hpasses⟩

/-- Behind a bar the next alternative starts. -/
theorem bar {more : List Token} (h : Ends b bs ts n g (.plain '|' :: more)) :
    ∃ b', (b = true → b' = true) ∧ (n.holdsMany = true → b' = true) ∧
      Resumes (b' :: bs) (spelled more) ∧ more <:+ ts := by
  obtain ⟨b', hb, hn, hpasses⟩ := h.passes
  have hbehind : Awaits false b' bs (spelled more) := hpasses.behind (by decide) (by decide)
  exact ⟨b', hb, hn, hbehind.resumes_of_false, (List.suffix_cons _ _).trans h.suffix⟩

/-- Behind the closing parenthesis the group is an item with the mark that it got. -/
theorem closed {after : List Token} (h : Ends inner (b :: bs) ts n g rest)
    (hclose : expectClose rest = .ok after) :
    ∃ inner', (inner = true → inner' = true) ∧ (n.holdsMany = true → inner' = true) ∧
      Awaits inner' b bs (spelled after) ∧ after <:+ ts := by
  obtain rfl := expectClose_ok hclose
  obtain ⟨inner', hinner, hn, hpasses⟩ := h.passes
  exact ⟨inner', hinner, hn, hpasses.closed, (List.suffix_cons _ _).trans h.suffix⟩

end Ends

namespace Advances

variable {c : Char} {g' : Groups}

theorem item (hready : Ready b bs seen cs) (hflags : flags.verbose = false)
    (hglobal : g.global.verbose = false) (hn : n.holdsMany = false)
    (ha : Awaits false b bs (spelled rest)) (hrest : rest <:+ ts) :
    Advances b bs ts flags g (n :: seen) rest :=
  ⟨hrest, hflags, hglobal, b, id, hready.push_simple hn ha⟩

theorem group (hready : Ready b bs seen cs) (hflags : flags.verbose = false)
    (hglobal : g.global.verbose = false) (htame : n.isTame = true)
    (hn : n.holdsMany = true → inner = true) (ha : Awaits inner b bs (spelled rest))
    (hrest : rest <:+ ts) : Advances b bs ts flags g (n :: seen) rest :=
  ⟨hrest, hflags, hglobal, b || inner, fun hb => by rw [hb, Bool.true_or],
    hready.push htame hn ha⟩

theorem escape (hready : Ready b bs seen (spelled (.escaped c :: ts)))
    (hflags : flags.verbose = false) (hglobal : g.global.verbose = false)
    (hread : readEscape flags g c ts = .ok (n, g', rest)) :
    Advances b bs (.escaped c :: ts) flags g' (n :: seen) rest := by
  obtain ⟨hn, rfl, hskips⟩ := readEscape_skips hread
  have hpasses : Passes (b :: bs) ('\\' :: c :: spelled ts) := hready.resumes rfl
  have hbehind := hskips.awaits hpasses.escaped
  exact item hready hflags hglobal hn hbehind (hskips.suffix.trans (List.suffix_cons _ _))

theorem set (hready : Ready b bs seen (spelled (.plain '[' :: ts)))
    (hplain : .plain '\\' ∉ ts) (hflags : flags.verbose = false)
    (hglobal : g.global.verbose = false) (hread : readSet flags ts = .ok (n, rest)) :
    Advances b bs (.plain '[' :: ts) flags g (n :: seen) rest := by
  obtain ⟨hn, hdrop, hrest⟩ := readSet_dropSet hplain hread
  have hpasses : Passes (b :: bs) ('[' :: spelled ts) := hready.resumes rfl
  have hbehind := hpasses.set
  rw [hdrop] at hbehind
  exact item hready hflags hglobal hn hbehind (hrest.trans (List.suffix_cons _ _))

/-- A character that stands for an item of its own. -/
theorem single (hready : Ready b bs seen (spelled (.plain c :: ts)))
    (hc : c ≠ '(' ∧ c ≠ ')' ∧ c ≠ '\\' ∧ c ≠ '[') (hq : quantifier? (c :: spelled ts) = none)
    (hflags : flags.verbose = false) (hglobal : g.global.verbose = false)
    (hn : n.holdsMany = false) : Advances b bs (.plain c :: ts) flags g (n :: seen) ts := by
  have hpasses : Passes (b :: bs) (c :: spelled ts) := hready.resumes hq
  have hbehind := hpasses.behind hc.1 hc.2.1
  rw [behind_of_ordinary hc.2.2.1 hc.2.2.2] at hbehind
  exact item hready hflags hglobal hn hbehind (List.suffix_cons _ _)

theorem quantifier {bounds : Bounds} {seen' : List Node}
    (hready : Ready b bs seen (spelled (.plain c :: ts)))
    (hq : quantifier? (c :: spelled ts) = some (bounds.quantifier, spelled rest))
    (hrest : rest <:+ ts) (hflags : flags.verbose = false) (hglobal : g.global.verbose = false)
    (hread : quantify seen (readMode rest).1 bounds = .ok seen') :
    Advances b bs (.plain c :: ts) flags g seen' (readMode rest).2 := by
  have hquantified := hready.quantified hq hread
  rw [← spelled_readMode] at hquantified
  refine ⟨?_, hflags, hglobal, _, ?_, hquantified⟩
  · exact (readMode_suffix rest).trans (hrest.trans (List.suffix_cons _ _))
  · intro hb
    rw [hb, Bool.true_or]

end Advances

/-- Behind the content of a group and its closing parenthesis. -/
structure Closes (b : Bool) (bs : List Bool) (ts : List Token) (n : Node) (g : Groups)
    (after : List Token) : Prop where
  suffix : after <:+ ts
  global : g.global.verbose = false
  tame : n.isTame = true
  awaits : ∃ inner, (n.holdsMany = true → inner = true) ∧ Awaits inner b bs (spelled after)

/-- What reading does with a counter of `fuel`, at every place that the screen lets through. -/
structure Faithful (fuel : Nat) : Prop where
  alternatives : ∀ {top : Bool} {flags : Flags} {g g' : Groups} {ts rest : List Token} {n : Node}
    {b : Bool} {bs : List Bool}, Plainly ts → flags.verbose = false → g.global.verbose = false →
    Resumes (b :: bs) (spelled ts) → readAlternatives fuel top flags g ts = .ok (n, g', rest) →
    Ends b bs ts n g' rest
  later : ∀ {top : Bool} {flags : Flags} {g g' : Groups} {ts rest : List Token} {before n : Node}
    {b : Bool} {bs : List Bool}, Plainly ts → flags.verbose = false → g.global.verbose = false →
    Resumes (b :: bs) (spelled ts) → before.isTame = true → (before.holdsMany = true → b = true) →
    readRest fuel top flags before g ts = .ok (n, g', rest) → Ends b bs ts n g' rest
  sequence : ∀ {top : Bool} {flags : Flags} {g g' : Groups} {ts rest : List Token}
    {seen : List Node} {n : Node} {b : Bool} {bs : List Bool}, Plainly ts →
    flags.verbose = false → g.global.verbose = false → Ready b bs seen (spelled ts) →
    readSequence fuel top flags g seen ts = .ok (n, g', rest) → Ends b bs ts n g' rest
  content : ∀ {kind : Option GroupKind} {name : Option String} {flags : Flags} {g g' : Groups}
    {ts after : List Token} {n : Node} {b : Bool} {bs : List Bool}, Plainly ts →
    flags.verbose = false → g.global.verbose = false → Resumes (false :: b :: bs) (spelled ts) →
    readContent fuel kind name flags g ts = .ok (n, g', after) → Closes b bs ts n g' after

theorem faithful_zero : Faithful 0 := by
  constructor
  all_goals
    intros
    rename_i h
    cases h

namespace Faithful

variable {fuel : Nat} {top : Bool} {g' : Groups} {before : Node}

theorem alternatives_succ (ih : Faithful fuel) (hplain : Plainly ts)
    (hflags : flags.verbose = false) (hglobal : g.global.verbose = false)
    (hresumes : Resumes (b :: bs) (spelled ts))
    (h : readAlternatives (fuel + 1) top flags g ts = .ok (n, g', rest)) :
    Ends b bs ts n g' rest := by
  rw [readAlternatives] at h
  obtain ⟨⟨first, g1, rest1⟩, hfirst, h⟩ := ok_of_bind h
  have hends := ih.sequence hplain hflags hglobal (Ready.start hresumes) hfirst
  simp only at h
  split at h
  next more =>
    obtain ⟨b', hb, hn, hmore, hsuffix⟩ := hends.bar
    have hlater : (if top then g1.global else flags).verbose = false := by
      split
      · exact hends.global
      · exact hflags
    exact (ih.later (hplain.suffix hsuffix) hlater hends.global hmore hends.tame hn h).weaken hb
      hsuffix
  next =>
    cases pure_ok h
    exact hends

theorem later_succ (ih : Faithful fuel) (hplain : Plainly ts) (hflags : flags.verbose = false)
    (hglobal : g.global.verbose = false) (hresumes : Resumes (b :: bs) (spelled ts))
    (htame : before.isTame = true) (hbefore : before.holdsMany = true → b = true)
    (h : readRest (fuel + 1) top flags before g ts = .ok (n, g', rest)) :
    Ends b bs ts n g' rest := by
  have halt : ∀ m g'' rest', Ends b bs ts m g'' rest' → Ends b bs ts (.alt before m) g'' rest' := by
    intro m g'' rest' hm
    refine ⟨hm.suffix, hm.global, by rw [Node.isTame_alt, htame, hm.tame]; rfl, ?_⟩
    obtain ⟨b', hb, hmany, hpasses⟩ := hm.passes
    refine ⟨b', hb, ?_, hpasses⟩
    rw [Node.holdsMany_alt, Bool.or_eq_true]
    rintro (hold | hnew)
    · exact hb (hbefore hold)
    · exact hmany hnew
  rw [readRest] at h
  obtain ⟨⟨m, g1, rest1⟩, hread, h⟩ := ok_of_bind h
  have hends := ih.sequence hplain hflags hglobal (Ready.start hresumes) hread
  simp only at h
  split at h
  next more =>
    obtain ⟨⟨last, g2, rest2⟩, hmore, h⟩ := ok_of_bind h
    cases pure_ok h
    obtain ⟨b', hb, hn, hresumes', hsuffix⟩ := hends.bar
    have hlast := ih.later (hplain.suffix hsuffix) hflags hends.global hresumes' hends.tame hn hmore
    exact halt _ _ _ (hlast.weaken hb hsuffix)
  next =>
    cases pure_ok h
    exact halt _ _ _ hends

theorem global_opened? {g1 : Groups} {name : Option String} (h : g.opened? name = some g1) :
    g1.global = g.global := by
  simp only [Groups.opened?] at h
  split at h
  · cases h
    rfl
  · split at h <;> cases h
    rfl

theorem content_succ {kind : Option GroupKind} {name : Option String} {after : List Token}
    (ih : Faithful fuel) (hplain : Plainly ts) (hflags : flags.verbose = false)
    (hglobal : g.global.verbose = false) (hresumes : Resumes (false :: b :: bs) (spelled ts))
    (h : readContent (fuel + 1) kind name flags g ts = .ok (n, g', after)) :
    Closes b bs ts n g' after := by
  cases kind with
  | some kind =>
    rw [readContent] at h
    obtain ⟨⟨body, g1, rest1⟩, hbody, h⟩ := ok_of_bind h
    obtain ⟨after1, hclose, h⟩ := ok_of_bind h
    cases pure_ok h
    have hends := ih.alternatives hplain hflags hglobal hresumes hbody
    obtain ⟨inner, -, hmany, hawaits, hsuffix⟩ := hends.closed hclose
    exact ⟨hsuffix, hends.global, hends.tame, inner, hmany, hawaits⟩
  | none =>
    rw [readContent] at h
    simp only at h
    split at h
    · cases h
    next g1 hopened =>
      obtain ⟨⟨body, g2, rest1⟩, hbody, h⟩ := ok_of_bind h
      obtain ⟨after1, hclose, h⟩ := ok_of_bind h
      cases pure_ok h
      have hglobal1 : g1.global.verbose = false := by rw [global_opened? hopened]; exact hglobal
      have hends := ih.alternatives hplain hflags hglobal1 hresumes hbody
      obtain ⟨inner, -, hmany, hawaits, hsuffix⟩ := hends.closed hclose
      exact ⟨hsuffix, hends.global, hends.tame, inner, hmany, hawaits⟩

/-- The items end where the next token is none of theirs. -/
theorem ends_of_ready (hready : Ready b bs seen (spelled ts)) (hglobal : g.global.verbose = false)
    (hq : quantifier? (spelled ts) = none) : Ends b bs ts (.ofList seen.reverse) g ts := by
  refine ⟨List.suffix_refl _, hglobal, ?_, b, id, ?_, hready.resumes hq⟩
  · rw [Node.isTame_ofList, List.all_reverse, List.all_eq_true]
    exact hready.tame
  · rw [Node.holdsMany_ofList, List.any_reverse, List.any_eq_true]
    rintro ⟨m, hm, hmany⟩
    exact hready.marked m hm hmany

theorem go (ih : Faithful fuel) (hplain : Plainly ts)
    (hadvances : Advances b bs ts flags g seen rest) {after : List Token}
    (h : readSequence fuel top flags g seen rest = .ok (n, g', after)) : Ends b bs ts n g' after := by
  obtain ⟨b', hb, hready⟩ := hadvances.ready
  have hends := ih.sequence (hplain.suffix hadvances.suffix) hadvances.flags hadvances.global
    hready h
  exact hends.weaken hb hadvances.suffix

theorem look (ih : Faithful fuel) {g1 g2 : Groups} {us after : List Token} {body : Node}
    {back : Option Nat} {negated : Bool} (hplain : Plainly ts) (hus : us <:+ ts)
    (hflags : flags.verbose = false) (hready : Ready b bs seen cs)
    (hresumes : Resumes (false :: b :: bs) (spelled us)) (hglobal : g1.global.verbose = false)
    (hg2 : g2.global = g'.global)
    (hbody : readAlternatives fuel false flags g1 us = .ok (body, g', rest))
    (hclose : expectClose rest = .ok after) :
    Advances b bs ts flags g2 (.look back negated body :: seen) after := by
  have hends := ih.alternatives (hplain.suffix hus) hflags hglobal hresumes hbody
  obtain ⟨inner, -, hmany, hawaits, hsuffix⟩ := hends.closed hclose
  refine Advances.group hready hflags ?_ hends.tame hmany hawaits (hsuffix.trans hus)
  rw [hg2]
  exact hends.global

theorem conditional_two (ih : Faithful fuel) {g1 : Groups} {us more after : List Token} {i : Nat}
    {yes no : Node} (hplain : Plainly ts) (hus : us <:+ ts) (hflags : flags.verbose = false)
    (hready : Ready b bs seen cs) (hyes : Ends false (b :: bs) us yes g1 (.plain '|' :: more))
    (hno : readSequence fuel false flags g1 [] more = .ok (no, g', rest))
    (hclose : expectClose rest = .ok after) :
    Advances b bs ts flags g' (.conditional i yes no :: seen) after := by
  obtain ⟨mark, -, hyesMark, hmore, hbar⟩ := hyes.bar
  have hends := ih.sequence (hplain.suffix (hbar.trans hus)) hflags hyes.global (Ready.start hmore) hno
  obtain ⟨mark', hmark, hnoMark, hawaits, hafter⟩ := hends.closed hclose
  have htame : (Node.conditional i yes no).isTame = true := by
    rw [Node.isTame_conditional, hyes.tame, hends.tame]
    rfl
  have hmany : (Node.conditional i yes no).holdsMany = true → mark' = true := by
    rw [Node.holdsMany_conditional, Bool.or_eq_true]
    rintro (hheld | hheld)
    · exact hmark (hyesMark hheld)
    · exact hnoMark hheld
  exact Advances.group hready hflags hends.global htame hmany hawaits
    (hafter.trans (hbar.trans hus))

theorem conditional_one {us after : List Token} {i : Nat} {yes : Node} (hus : us <:+ ts)
    (hflags : flags.verbose = false) (hready : Ready b bs seen cs)
    (hyes : Ends false (b :: bs) us yes g rest) (hclose : expectClose rest = .ok after) :
    Advances b bs ts flags g (.conditional i yes .empty :: seen) after := by
  obtain ⟨mark, -, hyesMark, hawaits, hafter⟩ := hyes.closed hclose
  have htame : (Node.conditional i yes .empty).isTame = true := by
    rw [Node.isTame_conditional, hyes.tame]
    rfl
  have hmany : (Node.conditional i yes .empty).holdsMany = true → mark = true := by
    rw [Node.holdsMany_conditional, Bool.or_eq_true]
    rintro (hheld | hheld)
    · exact hyesMark hheld
    · cases hheld
  exact Advances.group hready hflags hyes.global htame hmany hawaits (hafter.trans hus)

theorem quantifier_succ {c : Char} (ih : Faithful fuel) (hplain : Plainly (.plain c :: ts))
    (hc : c = '?' ∨ c = '*' ∨ c = '+' ∨ c = '\x7b') (hflags : flags.verbose = false)
    (hglobal : g.global.verbose = false) (hready : Ready b bs seen (spelled (.plain c :: ts)))
    (h : (do
      match ← readBounds c ts with
      | none => readSequence fuel top flags g (.literal c.toNat flags.caseRule :: seen) ts
      | some (bounds, rest) =>
        let (mode, after) := readMode rest
        let seen ← quantify seen mode bounds
        readSequence fuel top flags g seen after) = .ok (n, g', rest)) :
    Ends b bs (.plain c :: ts) n g' rest := by
  obtain ⟨found, hbounds, h⟩ := ok_of_bind h
  have hlegible : c = '\x7b' → isLegible (spelled ts) = true := by
    rintro rfl
    exact hplain.isLegible
  have hbound : c = '\x7b' → ∀ us, ts ≠ .plain ',' :: .plain '\x7d' :: us := by
    rintro rfl
    exact hplain.not_closed
  have hq := quantifier?_of_readBounds hc hlegible hbound hbounds
  cases found with
  | none =>
    have hordinary : c ≠ '(' ∧ c ≠ ')' ∧ c ≠ '\\' ∧ c ≠ '[' := by
      rcases hc with rfl | rfl | rfl | rfl <;> decide
    exact ih.go hplain (Advances.single hready hordinary hq hflags hglobal rfl) h
  | some found =>
    obtain ⟨bounds, rest1⟩ := found
    obtain ⟨seen', hquantify, h⟩ := ok_of_bind h
    exact ih.go hplain
      (Advances.quantifier hready hq (readBounds_suffix hbounds) hflags hglobal hquantify) h

theorem group_succ (ih : Faithful fuel) (hplain : Plainly (.plain '(' :: ts))
    (hflags : flags.verbose = false) (hglobal : g.global.verbose = false)
    (hready : Ready b bs seen (spelled (.plain '(' :: ts)))
    (h : readSequence (fuel + 1) top flags g seen (.plain '(' :: ts) = .ok (n, g', rest)) :
    Ends b bs (.plain '(' :: ts) n g' rest := by
  have hpasses : Passes (b :: bs) ('(' :: spelled ts) := hready.resumes rfl
  rw [readSequence, if_neg (by decide), if_neg (by simp [hflags]), if_neg (by simp [hflags]),
    if_neg (by decide), if_neg (by decide), if_neg (by decide), if_neg (by decide),
    if_neg (by decide), if_pos rfl] at h
  obtain ⟨⟨opening, g1, rest1⟩, hopening, h⟩ := ok_of_bind h
  obtain ⟨hopens, hrest1, hglobal1⟩ := readOpening_opens hplain hflags hglobal hpasses hopening
  have hsuffix : rest1 <:+ .plain '(' :: ts := hrest1.trans (List.suffix_cons _ _)
  cases opening with
  | nothing => exact hopens.elim
  | global f =>
    obtain ⟨hstart, hf, hawaits⟩ := hopens
    simp only [Bool.and_eq_true, List.isEmpty_iff] at hstart
    obtain ⟨-, rfl⟩ := hstart
    have hadvances : Advances b bs (.plain '(' :: ts) f g1 [] rest1 :=
      ⟨hsuffix, hf, hglobal1, b, id, Ready.start hawaits.resumes_of_false⟩
    exact ih.go hplain hadvances h
  | item m =>
    obtain ⟨hm, hawaits⟩ := hopens
    exact ih.go hplain (Advances.item hready hflags hglobal1 hm hawaits hsuffix) h
  | content kind name inner =>
    obtain ⟨hinner, hresumes⟩ := hopens
    obtain ⟨⟨m, g2, after⟩, hcontent, h⟩ := ok_of_bind h
    have hcloses := ih.content (hplain.suffix hsuffix) hinner hglobal1 hresumes hcontent
    obtain ⟨mark, hmany, hawaits⟩ := hcloses.awaits
    exact ih.go hplain (Advances.group hready hflags hcloses.global hcloses.tame hmany hawaits
      (hcloses.suffix.trans hsuffix)) h
  | look behind negated =>
    obtain ⟨⟨body, g2, rest2⟩, hbody, h⟩ := ok_of_bind h
    obtain ⟨after, hclose, h⟩ := ok_of_bind h
    refine ih.go hplain (ih.look hplain hsuffix hflags hready hopens ?_ ?_ hbody hclose) h
    · split <;> exact hglobal1
    · split <;> rfl
  | condition i =>
    obtain ⟨⟨yes, g2, rest2⟩, hyes, h⟩ := ok_of_bind h
    have hfirst := ih.sequence (hplain.suffix hsuffix) hflags hglobal1 (Ready.start hopens) hyes
    simp only at h
    split at h
    next more =>
      obtain ⟨⟨no, g3, rest3⟩, hno, h⟩ := ok_of_bind h
      obtain ⟨after, hclose, h⟩ := ok_of_bind h
      exact ih.go hplain (ih.conditional_two hplain hsuffix hflags hready hfirst hno hclose) h
    next =>
      obtain ⟨after, hclose, h⟩ := ok_of_bind h
      exact ih.go hplain (conditional_one hsuffix hflags hready hfirst hclose) h

theorem sequence_succ (ih : Faithful fuel) (hplain : Plainly ts) (hflags : flags.verbose = false)
    (hglobal : g.global.verbose = false) (hready : Ready b bs seen (spelled ts))
    (h : readSequence (fuel + 1) top flags g seen ts = .ok (n, g', rest)) :
    Ends b bs ts n g' rest := by
  cases ts with
  | nil =>
    cases h
    exact ends_of_ready hready hglobal rfl
  | cons t ts =>
    cases t with
    | escaped c =>
      rw [readSequence] at h
      obtain ⟨⟨m, g1, rest1⟩, hread, h⟩ := ok_of_bind h
      exact ih.go hplain (Advances.escape hready hflags hglobal hread) h
    | plain c =>
      by_cases hopen : c = '('
      · subst hopen
        exact ih.group_succ hplain hflags hglobal hready h
      rw [readSequence] at h
      by_cases hstop : (decide (c = '|') || decide (c = ')')) = true
      · rw [if_pos hstop] at h
        cases h
        have hq : quantifier? (c :: spelled ts) = none := by
          simp only [Bool.or_eq_true, decide_eq_true_eq] at hstop
          rcases hstop with rfl | rfl <;> rfl
        exact ends_of_ready hready hglobal hq
      rw [if_neg hstop, if_neg (by simp [hflags]), if_neg (by simp [hflags])] at h
      by_cases hset : c = '['
      · rw [if_pos hset] at h
        subst hset
        obtain ⟨⟨m, rest1⟩, hread, h⟩ := ok_of_bind h
        exact ih.go hplain (Advances.set hready hplain.tail.noBackslash hflags hglobal hread) h
      rw [if_neg hset] at h
      by_cases hany : c = '.'
      · rw [if_pos hany] at h
        subst hany
        exact ih.go hplain (Advances.single hready (by decide) rfl hflags hglobal rfl) h
      rw [if_neg hany] at h
      by_cases hstart : c = '^'
      · rw [if_pos hstart] at h
        subst hstart
        exact ih.go hplain (Advances.single hready (by decide) rfl hflags hglobal rfl) h
      rw [if_neg hstart] at h
      by_cases hfinish : c = '$'
      · rw [if_pos hfinish] at h
        subst hfinish
        exact ih.go hplain (Advances.single hready (by decide) rfl hflags hglobal rfl) h
      rw [if_neg hfinish] at h
      by_cases hquantifier : c = '?' ∨ c = '*' ∨ c = '+' ∨ c = '\x7b'
      · rw [if_pos (by simpa [or_assoc] using hquantifier)] at h
        exact ih.quantifier_succ hplain hquantifier hflags hglobal hready h
      rw [if_neg (by simpa [or_assoc] using hquantifier), if_neg hopen] at h
      have hordinary : c ≠ '(' ∧ c ≠ ')' ∧ c ≠ '\\' ∧ c ≠ '[' := by
        refine ⟨hopen, ?_, ?_, hset⟩
        · rintro rfl
          exact hstop rfl
        · rintro rfl
          exact hplain.noBackslash List.mem_cons_self
      have hq : quantifier? (c :: spelled ts) = none := quantifier?_of_other hquantifier
      exact ih.go hplain (Advances.single hready hordinary hq hflags hglobal rfl) h

theorem succ (ih : Faithful fuel) : Faithful (fuel + 1) where
  alternatives := ih.alternatives_succ
  later := ih.later_succ
  sequence := ih.sequence_succ
  content := ih.content_succ

end Faithful

/-- Whatever the counter, reading and screening stay side by side. -/
theorem faithful (fuel : Nat) : Faithful fuel := by
  induction fuel with
  | zero => exact faithful_zero
  | succ fuel ih => exact ih.succ

/-- The text of a pattern is written plainly: without comments, without the flag that makes blanks
meaningless, and in braces with decimals of ASCII and a bound. -/
def isPlainText (p : String) : Bool :=
  (tokens? p.toList).any isPlain

/-- A pattern that is written plainly and passes the screen holds no repetition inside another and
no bound above the limit. -/
theorem isTame_of_isSafe {p : String} {ignoreCase : Bool} {n : Node}
    (hplain : isPlainText p = true) (hsafe : isSafe p = true)
    (hread : read ignoreCase p = .ok n) : n.isTame = true := by
  unfold read at hread
  split at hread
  next => cases hread
  next ts hts =>
    obtain ⟨hspelled, hbackslash⟩ := spelled_of_tokens? hts
    have hplainly : Plainly ts := by
      refine ⟨hbackslash, ?_⟩
      rw [isPlainText, hts] at hplain
      exact hplain
    obtain ⟨⟨m, g, rest⟩, halternatives, hread⟩ := ok_of_bind hread
    have hscan : Passes [false] (spelled ts) := by
      simp only [isSafe, Bool.and_eq_true] at hsafe
      rw [hspelled]
      exact passes_of_scan (Nat.lt_succ_self _) hsafe.2
    have hends := (faithful _).alternatives hplainly rfl rfl hscan.resumes halternatives
    simp only at hread
    -- of the checks that follow, none changes what was read
    have hgroups := ok_of_unless (ok_of_unless (ok_of_unless hread))
    obtain rfl := Except.ok.inj (ok_of_unless (ok_of_unless hgroups))
    exact hends.tame

/-- For instance, in a pattern with alternatives no repetition holds an unbounded one. -/
theorem isTame_of_isSafe_alternatives :
    ∃ n, isPlainText "a+(b|c\x7b2\x7d)?" = true ∧ isSafe "a+(b|c\x7b2\x7d)?" = true ∧
      read false "a+(b|c\x7b2\x7d)?" = .ok n ∧ n.isTame = true := by
  have hplain : isPlainText "a+(b|c\x7b2\x7d)?" = true := by decide +kernel
  have hsafe : isSafe "a+(b|c\x7b2\x7d)?" = true := by decide +kernel
  have hread : read false "a+(b|c\x7b2\x7d)?" =
      .ok (.cat (.repeated .greedy 1 none (.literal 97 .exact))
        (.repeated .greedy 0 (some 1) (.group (.capture 1)
          (.alt (.literal 98 .exact) (.repeated .greedy 2 (some 2) (.literal 99 .exact)))))) :=
    ok_of_toOption (by decide +kernel)
  exact ⟨_, hplain, hsafe, hread, isTame_of_isSafe hplain hsafe hread⟩

/-- The screen lets a pattern through that is not tame. -/
def isMissed (p : String) : Bool :=
  isSafe p && (read false p).toOption.any fun n => !n.isTame

set_option maxRecDepth 4000 in
/-- Without plain writing a repetition inside another gets past the screen: with braces that have no
bound, with blanks or a comment before the quantifier, or with decimals of another script. -/
theorem isMissed_unplain :
    isMissed "(a+)\x7b,\x7d" = true ∧ isMissed "(?x)(a+) +" = true ∧
      isMissed "(a+)(?#)+" = true ∧ isMissed "(x\x7b\u0661\x7d+)+" = true := by
  decide +kernel

end Watchgate.Pattern
