import Watchgate.Proofs.Pattern.Quantifiers

/-!
# Where the screen is exact

Patterns as they are commonly written: characters, sets, escapes, groups and alternatives, with a
quantifier behind any of the first four. On the text of such a pattern the screen answers neither
too soon nor too late: it accepts just the patterns of at most 500 characters in which no bound is
above 25 and no group that is matched more than once holds another such repetition.
-/

namespace Watchgate.Pattern

open Text Screen

namespace Written

/-- A number as it is written. -/
structure Numeral where
  digits : List Char
  nonempty : digits ≠ []
  decimal : ∀ c ∈ digits, c.isDigit = true

def Numeral.value (n : Numeral) : Nat :=
  numeral 10 (n.digits.map fun c => c.toNat - 48)

/-- How often something is matched, as it is written. -/
inductive Times where
  | atMostOnce
  | anyNumber
  | atLeastOnce
  | exactly (n : Numeral)
  | atLeast (low : Numeral)
  | atMost (high : Numeral)
  | between (low high : Numeral)

namespace Times

def text : Times → List Char
  | atMostOnce => ['?']
  | anyNumber => ['*']
  | atLeastOnce => ['+']
  | exactly n => '\x7b' :: n.digits ++ ['\x7d']
  | atLeast low => '\x7b' :: low.digits ++ [',', '\x7d']
  | atMost high => '\x7b' :: ',' :: high.digits ++ ['\x7d']
  | between low high => '\x7b' :: low.digits ++ ',' :: high.digits ++ ['\x7d']

/-- The upper bound, if there is one. -/
def upper : Times → Option Nat
  | atMostOnce => some 1
  | anyNumber | atLeastOnce | atLeast _ => none
  | exactly n | atMost n | between _ n => some n.value

/-- More than one match is possible. -/
def Repeats (t : Times) : Prop := ∀ n, t.upper = some n → 1 < n

instance (t : Times) : Decidable t.Repeats :=
  decidable_of_iff (t.upper.all (1 < ·) = true) (by cases h : t.upper <;> simp [Repeats, h])

end Times

/-- A quantifier, lazy or not. -/
structure Repeat where
  times : Times
  isLazy : Bool

def Repeat.mark (r : Repeat) : List Char := if r.isLazy then ['?'] else []

/-- The text of a quantifier that may be absent. -/
def suffix : Option Repeat → List Char
  | none => []
  | some r => r.times.text ++ r.mark

/-- Characters with a meaning of their own outside a set. -/
def specials : List Char :=
  ['\\', '[', ']', '(', ')', '\x7b', '\x7d', '*', '+', '?', '.', '^', '$', '|']

inductive SetItem where
  | plain (c : Char) (h : c ≠ ']' ∧ c ≠ '\\')
  | escaped (c : Char)

def SetItem.text : SetItem → List Char
  | plain c _ => [c]
  | escaped c => ['\\', c]

/-- What stands between the brackets of a set: maybe `^` for its complement, maybe a closing
bracket as the first member, and items. -/
structure CharSet where
  negated : Bool
  bracketFirst : Bool
  items : List SetItem
  nonempty : bracketFirst = true ∨ items ≠ []
  noCaret : bracketFirst = false → (items.flatMap SetItem.text).head? ≠ some '^'

def CharSet.text (s : CharSet) : List Char :=
  (if s.negated then ['^'] else []) ++ (if s.bracketFirst then [']'] else []) ++
    s.items.flatMap SetItem.text ++ [']']

inductive Atom where
  | char (c : Char) (h : c ∉ specials)
  | any
  | escaped (c : Char)
  | set (s : CharSet)

def Atom.text : Atom → List Char
  | char c _ => [c]
  | any => ['.']
  | escaped c => ['\\', c]
  | set s => '[' :: s.text

end Written

open Written in
/-- A pattern as it is written. An alternative needs no group around it, so several patterns share
one text. -/
inductive Written where
  | empty
  | start
  | finish
  | atom (a : Atom) (times : Option Repeat)
  | group (remembered : Bool) (body : Written) (times : Option Repeat)
  | cat (a b : Written)
  | alt (a b : Written)

namespace Written

def text : Written → List Char
  | empty => []
  | start => ['^']
  | finish => ['$']
  | atom a times => a.text ++ suffix times
  | group remembered body times =>
    '(' :: (if remembered then [] else ['?', ':']) ++ body.text ++ ')' :: suffix times
  | cat a b => a.text ++ b.text
  | alt a b => a.text ++ '|' :: b.text

/-- The quantifiers at every depth. -/
def quantifiers : Written → List Times
  | atom _ times => (times.map Repeat.times).toList
  | group _ body times => (times.map Repeat.times).toList ++ body.quantifiers
  | cat a b | alt a b => a.quantifiers ++ b.quantifiers
  | _ => []

/-- The groups with a quantifier at every depth, the quantifier and the body of each. -/
def quantified : Written → List (Times × Written)
  | group _ body times => (times.map fun r => (r.times, body)).toList ++ body.quantified
  | cat a b | alt a b => a.quantified ++ b.quantified
  | _ => []

end Written

/-! ## Quantifiers as the screen finds them -/

namespace Written

namespace Times

/-- The quantifier that the screen finds. -/
def seen (t : Times) : Quantifier :=
  match t.upper with
  | none => .unbounded
  | some n => .upTo n

theorem repeats_seen (t : Times) : t.seen.repeats = true ↔ t.Repeats := by
  unfold seen Repeats
  cases t.upper <;> simp [Quantifier.repeats]

/-- No upper bound that is too high. -/
def Low (t : Times) : Prop := ∀ n, t.upper = some n → n ≤ maxRepetition

theorem tooHigh_seen (t : Times) : t.seen.tooHigh = false ↔ t.Low := by
  unfold seen Low
  cases t.upper <;> simp [Quantifier.tooHigh]

end Times

theorem Numeral.takeWhile_digits (n : Numeral) {c : Char} (hc : isDecimal c = false)
    (cs : List Char) :
    (n.digits ++ c :: cs).takeWhile isDecimal = n.digits ∧
      (n.digits ++ c :: cs).dropWhile isDecimal = c :: cs := by
  have hdigits : ∀ d ∈ n.digits, isDecimal d = true := fun d hd =>
    isDecimal_of_isDigit (n.decimal d hd)
  rw [List.takeWhile_append_of_pos hdigits, List.dropWhile_append_of_pos hdigits]
  simp [hc]

theorem quantifier?_text (t : Times) (rest : List Char) :
    quantifier? (t.text ++ rest) = some (t.seen, rest) := by
  have hcomma : isDecimal ',' = false := by decide
  have hbrace : isDecimal '\x7d' = false := by decide
  have hvalue : ∀ n : Numeral, decimalNumber n.digits = n.value := fun n =>
    decimalNumber_eq_numeral n.decimal
  cases t with
  | atMostOnce => rfl
  | anyNumber => rfl
  | atLeastOnce => rfl
  | exactly n =>
    obtain ⟨htake, hdrop⟩ := n.takeWhile_digits hbrace rest
    simp [Times.text, quantifier?, braces?, htake, hdrop, n.nonempty, hvalue, Times.seen, Times.upper]
  | atLeast low =>
    obtain ⟨htake, hdrop⟩ := low.takeWhile_digits hcomma ('\x7d' :: rest)
    simp [Times.text, quantifier?, braces?, htake, hdrop, low.nonempty, hbrace, Times.seen, Times.upper]
  | atMost high =>
    obtain ⟨htake, hdrop⟩ := high.takeWhile_digits hbrace rest
    simp [Times.text, quantifier?, braces?, htake, hdrop, high.nonempty, hcomma, hvalue, Times.seen,
      Times.upper]
  | between low high =>
    obtain ⟨htake, hdrop⟩ := low.takeWhile_digits hcomma (high.digits ++ '\x7d' :: rest)
    obtain ⟨htake', hdrop'⟩ := high.takeWhile_digits hbrace rest
    simp [Times.text, quantifier?, braces?, htake, hdrop, htake', hdrop', low.nonempty, high.nonempty,
      hvalue, Times.seen, Times.upper]

/-! ## What the screen does with one atom -/

theorem quantifier?_char {c : Char} (h : c ∉ ['?', '*', '+', '\x7b']) (cs : List Char) :
    quantifier? (c :: cs) = none := by
  apply quantifier?_of_other
  simpa using h

/-- Screening goes on behind each character. -/
theorem passes_cons {marks : List Bool} {c : Char} {cs : List Char} :
    Passes marks (c :: cs) ↔
      ∃ marks' rest, step marks c cs = some (marks', rest) ∧ Passes marks' rest := by
  constructor
  · exact Passes.step
  · rintro ⟨marks', rest, hstep, hrest⟩ fuel
    cases fuel with
    | zero => rfl
    | succ fuel =>
      rw [scan_cons, hstep]
      exact hrest fuel

variable {b inner : Bool} {bs : List Bool} {rest : List Char}

/-- A character that opens and closes nothing, in front of something that is no quantifier. -/
theorem passes_skip {c : Char} (hc : c ∉ ['\\', '(', ')', '[']) (hrest : quantifier? rest = none) :
    Passes (b :: bs) (c :: rest) ↔ Passes (b :: bs) rest := by
  simp only [List.mem_cons, not_or] at hc
  rw [passes_cons]
  simp [step, behind, hc, hrest]

theorem quantifier?_suffix (r : Option Repeat) (hrest : quantifier? rest = none) :
    quantifier? (suffix r ++ rest) = r.map fun r => (r.times.seen, r.mark ++ rest) := by
  cases r with
  | none => exact hrest
  | some r => 
    show quantifier? (r.times.text ++ r.mark ++ rest) = _
    rw [List.append_assoc, quantifier?_text]
    rfl

theorem dropMark_of_none (hrest : quantifier? rest = none) : dropMark rest = rest := by
  unfold dropMark
  split
  · simp [quantifier?] at hrest
  · simp [quantifier?] at hrest
  · rfl

/-- A lazy mark changes nothing, be it taken with its quantifier or as a character. -/
theorem passes_mark (r : Repeat) (hrest : quantifier? rest = none) :
    Passes (b :: bs) (r.mark ++ rest) ↔ Passes (b :: bs) rest := by
  unfold Repeat.mark
  split
  · exact passes_skip (by decide) hrest
  · exact Iff.rfl

theorem dropMark_mark (r : Repeat) (hrest : quantifier? rest = none) :
    dropMark (r.mark ++ rest) = rest := by
  unfold Repeat.mark
  split
  · rfl
  · exact dropMark_of_none hrest

theorem dropSetItems_text (items : List SetItem) (more : List Char) :
    dropSetItems (items.flatMap SetItem.text ++ ']' :: more) = more := by
  induction items with
  | nil => rfl
  | cons item items ih =>
    rw [List.flatMap_cons, List.append_assoc]
    cases item with
    | plain c h =>
      show dropSetItems (c :: _) = more
      rw [dropSetItems]
      · exact ih
      · exact h.1
      · exact fun _ _ hescape => absurd hescape h.2
    | escaped c =>
      show dropSetItems ('\\' :: c :: _) = more
      rw [dropSetItems]
      exact ih

theorem dropSet_text (s : CharSet) (more : List Char) : dropSet (s.text ++ more) = more := by
  obtain ⟨negated, bracketFirst, items, hsome, hcaret⟩ := s
  have hitems := dropSetItems_text items more
  cases bracketFirst with
  | true => cases negated <;> simp [CharSet.text, dropSet, hitems]
  | false =>
    have hcaret := hcaret rfl
    have hfirst : ∃ c cs, items.flatMap SetItem.text = c :: cs ∧ c ≠ ']' := by
      cases items with
      | nil => simp at hsome
      | cons item items =>
        cases item with
        | plain c h => exact ⟨c, _, rfl, h.1⟩
        | escaped c => exact ⟨'\\', _, rfl, by decide⟩
    obtain ⟨c, cs, htext, hc⟩ := hfirst
    rw [htext] at hitems hcaret
    have hc' : c ≠ '^' := by simpa using hcaret
    cases negated <;> simp_all [CharSet.text, dropSet]

/-- Where the text of an atom ends the screen goes on. -/
theorem behind_atom (a : Atom) :
    ∃ c cs, a.text = c :: cs ∧ c ∉ ['(', ')', '?', '*', '+', '\x7b'] ∧
      ∀ more, behind c (cs ++ more) = more := by
  cases a with
  | char c h =>
    simp only [specials, List.mem_cons, not_or] at h
    refine ⟨c, [], rfl, by simp [h], fun more => ?_⟩
    exact behind_of_ordinary h.1 h.2.1
  | any => exact ⟨'.', [], rfl, by decide, fun more => rfl⟩
  | escaped c => exact ⟨'\\', [c], rfl, by decide, fun more => rfl⟩
  | set s => exact ⟨'[', s.text, rfl, by decide, dropSet_text s⟩

/-- What is matched may be matched again. -/
def again (r : Option Repeat) : Bool := r.any fun r => r.times.seen.repeats

theorem passes_atom (a : Atom) (r : Option Repeat) (hrest : quantifier? rest = none) :
    Passes (b :: bs) (a.text ++ suffix r ++ rest) ↔
      (∀ q ∈ r, q.times.Low) ∧ Passes ((b || again r) :: bs) rest := by
  obtain ⟨c, cs, htext, hc, hbehind⟩ := behind_atom a
  simp only [List.mem_cons, not_or] at hc
  rw [htext, List.append_assoc, List.cons_append, passes_cons]
  simp only [step, hc, if_false, hbehind, quantifier?_suffix r hrest]
  cases r with
  | none => simp [again, suffix]
  | some r =>
    have hmark : Passes ((b || r.times.seen.repeats) :: bs) (r.mark ++ rest) ↔ _ := passes_mark r hrest
    have hdrop := dropMark_mark r hrest
    have hlow := r.times.tooHigh_seen
    cases hhigh : r.times.seen.tooHigh with
    | true => simp_all
    | false => by_cases hescape : c = '\\' <;> simp_all [again, addMark]

theorem passes_close (r : Option Repeat) (hrest : quantifier? rest = none) :
    Passes (inner :: b :: bs) (')' :: (suffix r ++ rest)) ↔
      (∀ q ∈ r, q.times.Low ∧ (q.times.Repeats → inner = false)) ∧
        Passes ((b || (inner || again r)) :: bs) rest := by
  rw [passes_cons]
  simp only [step, quantifier?_suffix r hrest]
  cases r with
  | none => simp [again, suffix, addMark]
  | some r =>
    have hmark : Passes ((b || (inner || r.times.seen.repeats)) :: bs) (r.mark ++ rest) ↔ _ :=
      passes_mark r hrest
    have hlow := r.times.tooHigh_seen
    have hrepeats := r.times.repeats_seen
    cases hhigh : r.times.seen.tooHigh with
    | true => simp_all
    | false => cases hagain : r.times.seen.repeats <;> cases inner <;> simp_all [again, addMark]

/-! ## The whole pattern -/

def Low (t : Written) : Prop := ∀ q ∈ t.quantifiers, q.Low

/-- No group that is matched again holds a quantifier by which something is matched again. -/
def Flat (t : Written) : Prop :=
  ∀ g ∈ t.quantified, g.1.Repeats → ∀ q ∈ g.2.quantifiers, ¬ q.Repeats

def repeats (t : Written) : Bool := t.quantifiers.any fun q => q.seen.repeats

theorem repeats_eq_false (t : Written) :
    t.repeats = false ↔ ∀ q ∈ t.quantifiers, ¬ q.Repeats := by
  simp [repeats, ← Times.repeats_seen]

/-- A pattern of two parts side by side is judged by its parts. -/
theorem judged_of_append {p t u : Written} (hall : p.quantifiers = t.quantifiers ++ u.quantifiers)
    (hgroups : p.quantified = t.quantified ++ u.quantified) :
    (p.Low ↔ t.Low ∧ u.Low) ∧ (p.Flat ↔ t.Flat ∧ u.Flat) ∧
      p.repeats = (t.repeats || u.repeats) := by
  unfold Low Flat repeats
  rw [hall, hgroups]
  simp only [List.mem_append, List.any_append, and_true]
  constructor
  · exact ⟨fun h => ⟨fun q hq => h q (.inl hq), fun q hq => h q (.inr hq)⟩,
      fun h q hq => hq.elim (h.1 q) (h.2 q)⟩
  · exact ⟨fun h => ⟨fun g hg => h g (.inl hg), fun g hg => h g (.inr hg)⟩,
      fun h g hg => hg.elim (h.1 g) (h.2 g)⟩

theorem judged_group (remembered : Bool) (body : Written) (times : Option Repeat) :
    ((group remembered body times).Low ↔ (∀ q ∈ times, q.times.Low) ∧ body.Low) ∧
      ((group remembered body times).Flat ↔
        (∀ q ∈ times, q.times.Repeats → body.repeats = false) ∧ body.Flat) ∧
      (group remembered body times).repeats = (again times || body.repeats) := by
  unfold Low Flat
  simp only [repeats_eq_false]
  cases times <;> simp [quantifiers, quantified, repeats, again]

theorem quantifier?_pattern (t : Written) (hrest : quantifier? rest = none) :
    quantifier? (t.text ++ rest) = none := by
  induction t generalizing rest with
  | empty => exact hrest
  | start => rfl
  | finish => rfl
  | atom a times =>
    obtain ⟨c, cs, htext, hc, -⟩ := behind_atom a
    simp only [text, htext, List.cons_append]
    exact quantifier?_char (by simp_all) _
  | group remembered body times => rfl
  | cat a b iha ihb =>
    rw [text, List.append_assoc]
    exact iha (ihb hrest)
  | alt a b iha ihb =>
    rw [text, List.append_assoc]
    exact iha rfl

theorem passes_text (t : Written) (hrest : quantifier? rest = none) :
    Passes (b :: bs) (t.text ++ rest) ↔ t.Low ∧ t.Flat ∧ Passes ((b || t.repeats) :: bs) rest := by
  induction t generalizing b bs rest with
  | empty => simp [text, Low, Flat, repeats, quantifiers, quantified]
  | start =>
    rw [text, List.cons_append, List.nil_append, passes_skip (by decide) hrest]
    simp [Low, Flat, repeats, quantifiers, quantified]
  | finish =>
    rw [text, List.cons_append, List.nil_append, passes_skip (by decide) hrest]
    simp [Low, Flat, repeats, quantifiers, quantified]
  | atom a times =>
    rw [text, passes_atom a times hrest]
    cases times <;> simp [Low, Flat, repeats, quantifiers, quantified, again]
  | group remembered body times ih =>
    have hopened : Passes (b :: bs) ((group remembered body times).text ++ rest) ↔
        Passes (false :: b :: bs) (body.text ++ ')' :: (suffix times ++ rest)) := by
      rw [text, List.append_assoc, List.append_assoc, List.cons_append, passes_cons]
      cases remembered with
      | true => simp [step]
      | false =>
        have hbody : quantifier? (body.text ++ ')' :: (suffix times ++ rest)) = none :=
          quantifier?_pattern body rfl
        simp [step, passes_skip (c := '?') (by decide) (quantifier?_char (c := ':') (by decide) _),
          passes_skip (c := ':') (by decide) hbody]
    obtain ⟨hlow, hflat, hrepeats⟩ := judged_group remembered body times
    rw [hopened, ih rfl, passes_close times hrest, hlow, hflat, hrepeats, Bool.false_or,
      Bool.or_comm (again times)]
    simp only [imp_and, forall_and]
    tauto
  | cat t u iht ihu =>
    obtain ⟨hlow, hflat, hrepeats⟩ := judged_of_append (p := cat t u) rfl rfl
    rw [text, List.append_assoc, iht (quantifier?_pattern u hrest), ihu hrest, hlow, hflat, hrepeats,
      Bool.or_assoc]
    tauto
  | alt t u iht ihu =>
    obtain ⟨hlow, hflat, hrepeats⟩ := judged_of_append (p := alt t u) rfl rfl
    have hu := quantifier?_pattern u hrest
    rw [text, List.append_assoc, iht rfl, List.cons_append, passes_skip (by decide) hu, ihu hrest, hlow,
      hflat, hrepeats, Bool.or_assoc]
    tauto

/-- The screen accepts a written pattern exactly if its text is no longer than 500 characters, none of
its bounds is above 25, and no group with a repeating quantifier has another one inside. -/
theorem isSafe_text_iff (t : Written) :
    isSafe (String.ofList t.text) = true ↔
      t.text.length ≤ 500 ∧ (∀ q ∈ t.quantifiers, ∀ n, q.upper = some n → n ≤ 25) ∧
        ∀ g ∈ t.quantified, g.1.Repeats → ∀ q ∈ g.2.quantifiers, ¬ q.Repeats := by
  have hscan : scan (t.text.length + 1) [false] t.text = true ↔ Passes [false] t.text :=
    ⟨passes_of_scan (Nat.lt_succ_self _), fun h => h _⟩
  have hpasses : Passes [false] t.text ↔ t.Low ∧ t.Flat := by
    have hend : Passes [t.repeats] [] := fun fuel => by cases fuel <;> rfl
    have htext : Passes [false] (t.text ++ []) ↔ _ := passes_text t rfl
    simpa [hend] using htext
  rw [isSafe, String.toList_ofList, Bool.and_eq_true, decide_eq_true_eq, hscan, hpasses]
  rfl

end Written

end Watchgate.Pattern
