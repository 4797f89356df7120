import Watchgate.Pattern.Screen

/-!
# What the screen asks of the text ahead

`Passes marks cs` says that the screen lets the rest `cs` of a pattern through when its open groups
have the marks `marks`, whatever the counter of the scan. The lemmas follow one character at a
time what is then asked of the characters behind it.
-/

namespace Watchgate.Pattern.Screen

theorem braces?_length {cs rest : List Char} {q : Quantifier}
    (h : braces? cs = some (q, rest)) : rest.length < cs.length := by
  have hlow := (List.dropWhile_suffix Text.isDecimal (l := cs)).length_le
  simp only [braces?] at h
  split at h
  next more hmore =>
    have hhigh := (List.dropWhile_suffix Text.isDecimal (l := more)).length_le
    rw [hmore, List.length_cons] at hlow
    split at h
    next after hafter =>
      rw [hafter, List.length_cons] at hhigh
      have hrest : rest = after := by
        split at h
        · cases h
        · split at h <;> cases h <;> rfl
      rw [hrest]
      omega
    next => cases h
  next after hafter =>
    rw [hafter, List.length_cons] at hlow
    have hrest : rest = after := by
      split at h <;> cases h
      rfl
    rw [hrest]
    omega
  next => cases h

theorem quantifier?_length {cs rest : List Char} {q : Quantifier}
    (h : quantifier? cs = some (q, rest)) : rest.length < cs.length := by
  unfold quantifier? at h
  split at h
  · cases h; simp
  · cases h; simp
  · cases h; simp
  · have := braces?_length h
    rw [List.length_cons]
    omega
  · cases h

theorem dropMark_length (cs : List Char) : (dropMark cs).length ≤ cs.length := by
  unfold dropMark
  split <;> simp

theorem dropSetItems_length (cs : List Char) : (dropSetItems cs).length ≤ cs.length := by
  fun_induction dropSetItems cs with
  | case1 => simp
  | case2 => simp
  | case3 _ _ ih =>
    simp only [List.length_cons]
    omega
  | case4 _ _ _ _ ih =>
    simp only [List.length_cons]
    omega

theorem dropSet_length (cs : List Char) : (dropSet cs).length ≤ cs.length := by
  unfold dropSet
  extract_lets ds
  have hds : ds.length ≤ cs.length := by
    unfold ds
    split <;> simp
  clear_value ds
  split
  next rest =>
    rw [List.length_cons] at hds
    have := dropSetItems_length rest
    omega
  next => exact Nat.le_trans (dropSetItems_length ds) hds

/-- The text behind a character that opens and closes nothing: a set and an escape go as a whole. -/
def behind (c : Char) (cs : List Char) : List Char :=
  if c = '\\' then cs.drop 1 else if c = '[' then dropSet cs else cs

/-- What the screen goes on with after one character, the marks and the rest; none if it refuses. -/
def step (marks : List Bool) (c : Char) (cs : List Char) : Option (List Bool × List Char) :=
  if c = '(' then some (false :: marks, cs)
  else if c = ')' then
    let inner := if 1 < marks.length then marks.headD false else false
    let outer := if 1 < marks.length then marks.tail else marks
    match quantifier? cs with
    | some (q, rest) =>
      if (q.repeats && inner) || q.tooHigh then none
      else some (addMark (inner || q.repeats) outer, rest)
    | none => some (addMark inner outer, cs)
  else
    match quantifier? (behind c cs) with
    | some (q, rest) =>
      if q.tooHigh then none
      else some (addMark q.repeats marks, if c = '\\' then rest else dropMark rest)
    | none => some (marks, behind c cs)

theorem scan_cons (fuel : Nat) (marks : List Bool) (c : Char) (cs : List Char) :
    scan (fuel + 1) marks (c :: cs) =
      (step marks c cs).elim false fun (marks, rest) => scan fuel marks rest := by
  rw [scan, step]
  by_cases hopen : c = '('
  · simp only [if_pos hopen, Option.elim_some]
  by_cases hclose : c = ')'
  · simp only [if_neg hopen, if_pos hclose]
    generalize (if 1 < marks.length then marks.headD false else false) = inner
    generalize (if 1 < marks.length then marks.tail else marks) = outer
    cases quantifier? cs with
    | none => rfl
    | some found =>
      simp only
      split <;> rfl
  · simp only [if_neg hopen, if_neg hclose, behind]
    cases quantifier? (if c = '\\' then cs.drop 1 else if c = '[' then dropSet cs else cs) with
    | none => rfl
    | some found =>
      simp only
      split <;> rfl

theorem behind_length (c : Char) (cs : List Char) : (behind c cs).length ≤ cs.length := by
  unfold behind
  split
  · simp
  · split
    · exact dropSet_length cs
    · exact Nat.le_refl _

theorem step_length {marks marks' : List Bool} {c : Char} {cs rest : List Char}
    (h : step marks c cs = some (marks', rest)) : rest.length ≤ cs.length := by
  simp only [step] at h
  generalize (if 1 < marks.length then marks.headD false else false) = inner at h
  generalize (if 1 < marks.length then marks.tail else marks) = outer at h
  split at h
  · cases h
    exact Nat.le_refl _
  split at h
  · split at h
    next hq =>
      have := quantifier?_length hq
      split at h <;> cases h
      omega
    next =>
      cases h
      exact Nat.le_refl _
  · have hbehind := behind_length c cs
    split at h
    next q after hq =>
      have := quantifier?_length hq
      have := dropMark_length after
      split at h <;> cases h
      split <;> omega
    next =>
      cases h
      exact hbehind

/-- The rest of a pattern passes, however long the screen goes on. -/
def Passes (marks : List Bool) (cs : List Char) : Prop :=
  ∀ fuel, scan fuel marks cs = true

/-- The scan takes a character a step, so a counter above their number does not matter. -/
theorem passes_of_scan {fuel : Nat} {marks : List Bool} {cs : List Char}
    (hlen : cs.length < fuel) (h : scan fuel marks cs = true) : Passes marks cs := by
  induction fuel generalizing marks cs with
  | zero => omega
  | succ fuel ih =>
    intro fuel'
    cases fuel' with
    | zero => rfl
    | succ fuel' =>
      cases cs with
      | nil => rfl
      | cons c cs =>
        rw [scan_cons] at h ⊢
        cases hstep : step marks c cs with
        | none => simp [hstep] at h
        | some r =>
          obtain ⟨marks', rest⟩ := r
          have hrest := step_length hstep
          simp only [List.length_cons] at hlen
          simp only [hstep, Option.elim_some] at h ⊢
          exact ih (by omega) h fuel'

theorem Passes.step {marks : List Bool} {c : Char} {cs : List Char} (h : Passes marks (c :: cs)) :
    ∃ marks' rest, step marks c cs = some (marks', rest) ∧ Passes marks' rest := by
  cases hstep : Screen.step marks c cs with
  | none =>
    have h1 := h 1
    simp [scan_cons, hstep] at h1
  | some r =>
    refine ⟨r.1, r.2, rfl, ?_⟩
    intro fuel
    have hnext := h (fuel + 1)
    simpa [scan_cons, hstep] using hnext

/-! ### Places behind an item

A quantifier that follows an item belongs to it. At places where none may follow, one that stands
there all the same makes the pattern unreadable, and nothing is asked. -/

/-- The rest passes unless it starts with a quantifier. -/
def Resumes (marks : List Bool) (cs : List Char) : Prop :=
  quantifier? cs = none → Passes marks cs

/-- A quantifier is let through behind an item of a group with the mark `b`, where `inner` says
whether a repetition was seen in the item; `rest` follows the quantifier. -/
structure Allows (inner b : Bool) (bs : List Bool) (q : Quantifier) (rest : List Char) : Prop where
  once : q.repeats = true → inner = false
  low : q.tooHigh = false
  resumes : Resumes ((b || q.repeats) :: bs) (dropMark rest)

/-- What is asked behind an item. -/
structure Awaits (inner b : Bool) (bs : List Bool) (cs : List Char) : Prop where
  goesOn : quantifier? cs = none → Passes ((b || inner) :: bs) cs
  takes : ∀ q rest, quantifier? cs = some (q, rest) → Allows inner (b || inner) bs q rest

variable {b inner : Bool} {bs : List Bool} {c : Char} {cs : List Char}

theorem Passes.resumes {marks : List Bool} (h : Passes marks cs) : Resumes marks cs := by
  intro _
  exact h

theorem Awaits.resumes_of_false (h : Awaits false b bs cs) : Resumes (b :: bs) cs := by
  intro hq
  simpa using h.goesOn hq

/-- A mark that the screen takes for an ordinary character asks nothing. -/
theorem Passes.resumes_dropMark (h : Passes (b :: bs) cs) : Resumes (b :: bs) (dropMark cs) := by
  have hplain : ∀ d ds, d = '?' ∨ d = '+' → Passes (b :: bs) (d :: ds) →
      Resumes (b :: bs) ds := by
    intro d ds hd hpasses hq
    obtain ⟨marks, rest, hstep, hrest⟩ := hpasses.step
    rcases hd with rfl | rfl
    all_goals
      simp [Screen.step, behind, hq] at hstep
      rw [hstep.1, hstep.2]
      exact hrest
  unfold dropMark
  split
  · exact hplain _ _ (.inl rfl) h
  · exact hplain _ _ (.inr rfl) h
  · exact h.resumes

theorem Passes.opened (h : Passes (b :: bs) ('(' :: cs)) : Passes (false :: b :: bs) cs := by
  obtain ⟨marks, rest, hstep, hrest⟩ := h.step
  simp [Screen.step] at hstep
  rw [hstep.1, hstep.2]
  exact hrest

theorem awaits_of_none (hq : quantifier? cs = none) (h : Passes ((b || inner) :: bs) cs) :
    Awaits inner b bs cs := by
  constructor
  · intro _
    exact h
  · intro q rest hsome
    rw [hq] at hsome
    cases hsome

theorem awaits_of_some {q : Quantifier} {rest : List Char} (hq : quantifier? cs = some (q, rest))
    (h : Allows inner (b || inner) bs q rest) : Awaits inner b bs cs := by
  constructor
  · intro hnone
    rw [hq] at hnone
    cases hnone
  · intro q' rest' hsome
    rw [hq] at hsome
    cases hsome
    exact h

theorem Passes.closed (h : Passes (inner :: b :: bs) (')' :: cs)) : Awaits inner b bs cs := by
  obtain ⟨marks, after, hstep, hafter⟩ := h.step
  cases hq : quantifier? cs with
  | none =>
    simp [Screen.step, hq, addMark] at hstep
    rw [← hstep.1, ← hstep.2] at hafter
    exact awaits_of_none hq hafter
  | some found =>
    obtain ⟨q, rest⟩ := found
    simp [Screen.step, hq, addMark] at hstep
    obtain ⟨⟨honce, hlow⟩, hmarks, hrest⟩ := hstep
    rw [← hmarks, ← hrest] at hafter
    refine awaits_of_some hq ⟨honce, hlow, ?_⟩
    rw [Bool.or_assoc]
    exact hafter.resumes_dropMark

theorem Resumes.closed (h : Resumes (inner :: b :: bs) (')' :: cs)) : Awaits inner b bs cs :=
  (h rfl).closed

/-- Behind a character that is no parenthesis, or the set or the escape that it starts. -/
theorem Passes.behind (hopen : c ≠ '(') (hclose : c ≠ ')') (h : Passes (b :: bs) (c :: cs)) :
    Awaits false b bs (behind c cs) := by
  obtain ⟨marks, after, hstep, hafter⟩ := h.step
  cases hq : quantifier? (Screen.behind c cs) with
  | none =>
    simp [Screen.step, hopen, hclose, hq] at hstep
    rw [← hstep.1, ← hstep.2] at hafter
    exact awaits_of_none hq (by simpa using hafter)
  | some found =>
    obtain ⟨q, rest⟩ := found
    simp [Screen.step, hopen, hclose, hq, addMark] at hstep
    obtain ⟨hlow, hmarks, hrest⟩ := hstep
    rw [← hmarks, ← hrest] at hafter
    refine awaits_of_some hq ⟨fun _ => rfl, hlow, ?_⟩
    rw [Bool.or_false]
    -- behind an escape the screen leaves the mark in the text
    by_cases hescape : c = '\\'
    · rw [if_pos hescape] at hafter
      exact hafter.resumes_dropMark
    · rw [if_neg hescape] at hafter
      exact hafter.resumes

theorem Passes.escaped (h : Passes (b :: bs) ('\\' :: c :: cs)) : Awaits false b bs cs :=
  h.behind (by decide) (by decide)

theorem Passes.set (h : Passes (b :: bs) ('[' :: cs)) : Awaits false b bs (dropSet cs) :=
  h.behind (by decide) (by decide)

/-- The characters that the screen looks at. -/
def signals : List Char :=
  ['\\', '(', ')', '[', ']', '*', '+', '?', '\x7b']

def isSignal (c : Char) : Bool :=
  signals.contains c

theorem isSignal_eq_false_of {p : Char → Bool} (hp : signals.all (fun d => !p d) = true)
    (hc : p c = true) : isSignal c = false := by
  rw [Bool.eq_false_iff]
  intro hsignal
  have hnot := List.all_eq_true.mp hp c (List.contains_iff_mem.mp hsignal)
  rw [hc] at hnot
  cases hnot

theorem quantifier?_of_other (h : ¬(c = '?' ∨ c = '*' ∨ c = '+' ∨ c = '\x7b')) :
    quantifier? (c :: cs) = none := by
  simp only [not_or] at h
  obtain ⟨hopt, hstar, hplus, hbrace⟩ := h
  unfold quantifier?
  split
  next heq => exact absurd (List.cons.inj heq).1 hstar
  next heq => exact absurd (List.cons.inj heq).1 hplus
  next heq => exact absurd (List.cons.inj heq).1 hopt
  next heq => exact absurd (List.cons.inj heq).1 hbrace
  next => rfl

theorem quantifier?_eq_none (h : isSignal c = false) : quantifier? (c :: cs) = none := by
  apply quantifier?_of_other
  rintro (rfl | rfl | rfl | rfl) <;> cases h

theorem behind_of_ordinary (hescape : c ≠ '\\') (hset : c ≠ '[') : Screen.behind c cs = cs := by
  simp [Screen.behind, hescape, hset]

theorem ne_of_not_isSignal {d : Char} (h : isSignal c = false) (hd : isSignal d = true) :
    c ≠ d := by
  rintro rfl
  rw [h] at hd
  cases hd

/-- The screen goes over a character that is no signal. -/
theorem Resumes.skip (hc : isSignal c = false) (h : Resumes (b :: bs) (c :: cs)) :
    Awaits false b bs cs := by
  have hpasses := (h (quantifier?_eq_none hc)).behind (ne_of_not_isSignal hc rfl)
    (ne_of_not_isSignal hc rfl)
  rwa [behind_of_ordinary (ne_of_not_isSignal hc rfl) (ne_of_not_isSignal hc rfl)] at hpasses

theorem Awaits.skips {ds : List Char} (hds : ∀ c ∈ ds, isSignal c = false)
    (h : Awaits false b bs (ds ++ cs)) : Awaits false b bs cs := by
  induction ds with
  | nil => exact h
  | cons d ds ih =>
    have hskip := h.resumes_of_false.skip (hds d (by simp))
    exact ih (fun c hc => hds c (by simp [hc])) hskip

theorem Resumes.skips {ds : List Char} (hds : ∀ c ∈ ds, isSignal c = false)
    (h : Resumes (b :: bs) (ds ++ cs)) : Resumes (b :: bs) cs := by
  cases ds with
  | nil => exact h
  | cons d ds =>
    have hskip := h.skip (hds d (by simp))
    exact (hskip.skips fun c hc => hds c (by simp [hc])).resumes_of_false

end Watchgate.Pattern.Screen
