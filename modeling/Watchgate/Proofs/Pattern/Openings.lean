import Watchgate.Proofs.Pattern.Quantifiers
import Mathlib.Data.List.Infix

/-!
# What opens a group on both sides

The screen takes every opening parenthesis for a group and goes through what stands behind it like
through ordinary text. That agrees with the notation but for comments and for the flag that makes
blanks meaningless, which a text written plainly does without.
-/

namespace Watchgate.Pattern

open Screen

/-- A comment starts here. -/
def opensComment : List Token → Bool
  | .plain '(' :: .plain '?' :: .plain '#' :: _ => true
  | _ => false

/-- Flags start here that make blanks meaningless. -/
def opensVerbose : List Token → Bool
  | .plain '(' :: .plain '?' :: ts => (takeFlags ts).1.contains .x
  | _ => false

/-- Braces start here that the two sides count differently. -/
def opensOddBraces : List Token → Bool
  | .plain '\x7b' :: .plain ',' :: .plain '\x7d' :: _ => true
  | .plain '\x7b' :: ts => !isLegible (spelled ts)
  | _ => false

/-- Nowhere do the screen and the notation part. -/
def isPlain (ts : List Token) : Bool :=
  ts.tails.all fun us => !(opensComment us || opensVerbose us || opensOddBraces us)

/-- Tokens cut from a text that is written plainly. -/
structure Plainly (ts : List Token) : Prop where
  noBackslash : .plain '\\' ∉ ts
  isPlain : isPlain ts = true

namespace Plainly

variable {ts rest : List Token}

theorem suffix (h : Plainly ts) (hrest : rest <:+ ts) : Plainly rest := by
  constructor
  · exact fun hmem => h.noBackslash (hrest.subset hmem)
  · have hplain := h.isPlain
    unfold Pattern.isPlain at hplain ⊢
    rw [List.all_eq_true] at hplain ⊢
    intro us hus
    exact hplain us ((List.mem_tails ..).2 (((List.mem_tails ..).1 hus).trans hrest))

theorem tail {t : Token} (h : Plainly (t :: ts)) : Plainly ts :=
  h.suffix (List.suffix_cons t ts)

theorem here (h : Plainly ts) :
    opensComment ts = false ∧ opensVerbose ts = false ∧ opensOddBraces ts = false := by
  have hplain := h.isPlain
  unfold Pattern.isPlain at hplain
  rw [List.all_eq_true] at hplain
  have hts := hplain ts ((List.mem_tails ..).2 (List.suffix_refl ts))
  simpa [and_assoc] using hts

theorem not_flag_x (h : Plainly (.plain '(' :: .plain '?' :: ts)) : .x ∉ (takeFlags ts).1 := by
  have hverbose := h.here.2.1
  simpa [opensVerbose] using hverbose

theorem isLegible (h : Plainly (.plain '\x7b' :: ts)) : isLegible (spelled ts) = true := by
  have hbraces := h.here.2.2
  unfold opensOddBraces at hbraces
  split at hbraces
  next heq => cases hbraces
  next heq =>
    cases heq
    simpa using hbraces
  next hother => exact absurd rfl (hother _)

theorem not_closed (h : Plainly (.plain '\x7b' :: ts)) (us : List Token) :
    ts ≠ .plain ',' :: .plain '\x7d' :: us := by
  rintro rfl
  have hbraces := h.here.2.2
  cases hbraces

end Plainly

/-- What is asked behind an opening at a place where the group outside has the mark `b`. -/
def Opens (atStart b : Bool) (bs : List Bool) (rest : List Token) : Opening → Prop
  | .content _ _ flags => flags.verbose = false ∧ Resumes (false :: b :: bs) (spelled rest)
  | .look .. => Resumes (false :: b :: bs) (spelled rest)
  | .condition _ => Resumes (false :: b :: bs) (spelled rest)
  | .item n => n.holdsMany = false ∧ Awaits false b bs (spelled rest)
  | .nothing => False
  | .global flags => atStart = true ∧ flags.verbose = false ∧ Awaits false b bs (spelled rest)

section Openings

variable {b : Bool} {bs : List Bool} {flags : Flags} {g g' : Groups} {us rest : List Token}

/-- The name of a group. -/
theorem resumes_of_name {name : String} (hname : readUntil '>' [] us = .ok (name, rest))
    (hisName : isName name = true)
    (hresumes : Resumes (false :: b :: bs) ('P' :: '<' :: spelled us)) :
    Resumes (false :: b :: bs) (spelled rest) ∧ rest <:+ us := by
  have hover := readUntil_skips hname (isSignal_of_isName hisName)
  have hskips : Skips us rest := hover.trans (.cons rfl (.refl _))
  exact ⟨(Skips.cons rfl (Skips.cons rfl hskips)).resumes hresumes, hskips.suffix⟩

/-- A reference by name, up to its closing parenthesis. -/
theorem awaits_of_reference {name : String} (hname : readUntil ')' [] us = .ok (name, rest))
    (hisName : isName name = true)
    (hresumes : Resumes (false :: b :: bs) ('P' :: '=' :: spelled us)) :
    Awaits false b bs (spelled rest) ∧ rest <:+ us := by
  have hover := readUntil_skips hname (isSignal_of_isName hisName)
  have hbefore := (Skips.cons rfl (Skips.cons rfl hover)).resumes hresumes
  exact ⟨hbefore.closed, (List.suffix_cons _ _).trans hover.suffix⟩

/-- The group that a condition asks for stands in parentheses of its own. -/
theorem resumes_of_condition {name : String} {i : Nat}
    (hname : readUntil ')' [] us = .ok (name, rest)) (hi : conditionIndex? g name = some i)
    (hresumes : Resumes (false :: b :: bs) ('(' :: spelled us)) :
    Resumes (false :: b :: bs) (spelled rest) ∧ rest <:+ us := by
  have hover := readUntil_skips hname (isSignal_of_conditionIndex? hi)
  have hinside : Passes (false :: false :: b :: bs) (spelled us) := (hresumes rfl).opened
  have hbehind : Awaits false false (b :: bs) (spelled rest) :=
    (hover.resumes hinside.resumes).closed
  exact ⟨hbehind.resumes_of_false, (List.suffix_cons _ _).trans hover.suffix⟩

/-- Flags without `x`, for the whole pattern or for a group. -/
theorem opens_of_flags {atStart : Bool} {o : Opening} (hx : .x ∉ (takeFlags us).1)
    (hflags : flags.verbose = false) (hglobal : g.global.verbose = false)
    (hresumes : Resumes (false :: b :: bs) (spelled us))
    (h : (do
      let (fs, after) ← readFlags us
      match fs with
      | .whole on =>
        if atStart then
          let global := on.foldl (fun f l => f.switch true l) g.global
          .ok (.global global, { g with global }, after)
        else .error .malformed
      | .scoped on off => .ok (.content (some .plain) none (flags.within on off), g, after) :
      Except PatternFault (Step Opening)) = .ok (o, g', rest)) :
    Opens atStart b bs rest o ∧ rest <:+ us ∧ g'.global.verbose = false := by
  obtain ⟨⟨fs, after⟩, hread, h⟩ := ok_of_bind h
  rcases fs with on | ⟨on, off⟩
  · obtain ⟨rfl, hover⟩ := readFlags_whole hread
    have hverbose := verbose_switched true (fun _ => hx) hglobal
    have hbefore := hover.resumes hresumes
    simp only at h
    split at h
    next hstart =>
      cases h
      exact ⟨⟨hstart, hverbose, hbefore.closed⟩, (List.suffix_cons _ _).trans hover.suffix, hverbose⟩
    next => cases h
  · obtain ⟨rfl, hover⟩ := readFlags_scoped hread
    cases h
    exact ⟨⟨verbose_within hx hflags, hover.resumes hresumes⟩, hover.suffix, hglobal⟩

/-- Behind an opening parenthesis the screen is where reading is. -/
theorem readOpening_opens {atStart : Bool} {ts : List Token} {o : Opening}
    (hplain : Plainly (.plain '(' :: ts)) (hflags : flags.verbose = false)
    (hglobal : g.global.verbose = false) (hpasses : Passes (b :: bs) ('(' :: spelled ts))
    (h : readOpening flags atStart g ts = .ok (o, g', rest)) :
    Opens atStart b bs rest o ∧ rest <:+ ts ∧ g'.global.verbose = false := by
  have hopened := hpasses.opened
  unfold readOpening at h
  split at h
  next us =>
    have hinner : Resumes (false :: b :: bs) (spelled us) :=
      (hopened.behind (by decide) (by decide)).resumes_of_false
    have hmark : us <:+ .plain '?' :: us := List.suffix_cons _ _
    have hskip : ∀ more, Skips us more → Resumes (false :: b :: bs) (spelled more) ∧
        more <:+ .plain '?' :: us := by
      intro more hmore
      exact ⟨hmore.resumes hinner, hmore.suffix.trans hmark⟩
    split at h
    next us =>
      obtain ⟨⟨name, after⟩, hname, h⟩ := ok_of_bind h
      simp only at h
      split at h
      next hisName =>
        cases h
        obtain ⟨hresumes, hsuffix⟩ := resumes_of_name hname hisName hinner
        refine ⟨⟨hflags, hresumes⟩, ?_, hglobal⟩
        exact hsuffix.trans ((List.suffix_append [_, _] _).trans hmark)
      next => cases h
    next us =>
      obtain ⟨⟨name, after⟩, hname, h⟩ := ok_of_bind h
      simp only at h
      split at h
      next i hisName _ =>
        obtain ⟨⟨n, g'', after'⟩, hread, hitem⟩ := ok_of_bind h
        obtain ⟨hn, rfl, rfl⟩ := readBackref_ok hread
        cases pure_ok hitem
        obtain ⟨hawaits, hsuffix⟩ := awaits_of_reference hname hisName hinner
        refine ⟨⟨hn, hawaits⟩, ?_, hglobal⟩
        exact hsuffix.trans ((List.suffix_append [_, _] _).trans hmark)
      next => cases h
    next us =>
      cases h
      obtain ⟨hresumes, hsuffix⟩ := hskip rest (.cons rfl (.refl _))
      exact ⟨⟨hflags, hresumes⟩, hsuffix, hglobal⟩
    next us =>
      cases h
      obtain ⟨hresumes, hsuffix⟩ := hskip rest (.cons rfl (.refl _))
      exact ⟨⟨hflags, hresumes⟩, hsuffix, hglobal⟩
    next us =>
      have hcomment := hplain.here.1
      cases hcomment
    next us =>
      cases h
      obtain ⟨hresumes, hsuffix⟩ := hskip rest (.cons rfl (.refl _))
      exact ⟨hresumes, hsuffix, hglobal⟩
    next us =>
      cases h
      obtain ⟨hresumes, hsuffix⟩ := hskip rest (.cons rfl (.refl _))
      exact ⟨hresumes, hsuffix, hglobal⟩
    next us =>
      cases h
      obtain ⟨hresumes, hsuffix⟩ := hskip rest (.cons rfl (.cons rfl (.refl _)))
      exact ⟨hresumes, hsuffix, hglobal⟩
    next us =>
      cases h
      obtain ⟨hresumes, hsuffix⟩ := hskip rest (.cons rfl (.cons rfl (.refl _)))
      exact ⟨hresumes, hsuffix, hglobal⟩
    next us =>
      obtain ⟨⟨name, after⟩, hname, h⟩ := ok_of_bind h
      simp only at h
      split at h
      next i hi =>
        obtain ⟨hresumes, hsuffix⟩ := resumes_of_condition hname hi hinner
        have hasked :
            (if isName name then g else { g with asked := i :: g.asked }).global = g.global := by
          split <;> rfl
        generalize (if isName name then g else { g with asked := i :: g.asked }) = g'' at h hasked
        split at h <;> cases h
        refine ⟨hresumes, hsuffix.trans ((List.suffix_cons _ _).trans hmark), ?_⟩
        rw [hasked]
        exact hglobal
      next => cases h
    next =>
      obtain ⟨hopens, hsuffix, hverbose⟩ :=
        opens_of_flags hplain.not_flag_x hflags hglobal hinner h
      exact ⟨hopens, hsuffix.trans hmark, hverbose⟩
  next =>
    cases h
    exact ⟨⟨hflags, hopened.resumes⟩, List.suffix_refl _, hglobal⟩

end Openings

end Watchgate.Pattern
