import Watchgate.Pattern.Syntax
import Watchgate.Text.Word
import Watchgate.Text.Digit

/-!
# Reading a pattern

The notation of patterns: characters stand for themselves, a backslash gives the next character
another meaning, `.`, `^`, `$`, sets in brackets, groups in parentheses, alternatives divided by a
bar, and the quantifiers `?`, `*`, `+` and `{m,n}`, which `?` makes lazy and `+` possessive. Flags
stand at the start of the pattern or of a group; with the flag `x`, blanks and comments are skipped.
A character cannot be written by its name: `\N{...}` is refused, since there is no table of names.

The text is first cut into tokens, a backslash together with the character after it. Reading goes
through the tokens; every step takes at least one, so a counter that starts well above their number
never runs out.
-/

namespace Watchgate.Pattern

/-- Why a text is no pattern. -/
inductive PatternFault where
  | malformed
  /-- A repetition count is beyond every bound. -/
  | hugeCount
  /-- The flags for ASCII and for all scripts stand together. -/
  | flagClash
deriving DecidableEq, Repr

/-- A character, alone or after a backslash. -/
inductive Token where
  | plain (c : Char)
  | escaped (c : Char)
deriving DecidableEq, Repr

/-- Cuts a text into tokens; none if it ends with a lone backslash. -/
def tokens? : List Char → Option (List Token)
  | [] => some []
  | '\\' :: [] => none
  | '\\' :: c :: cs => (tokens? cs).map (.escaped c :: ·)
  | c :: cs => (tokens? cs).map (.plain c :: ·)

/-- The flags under which a part of the pattern is read. -/
structure Flags where
  ignoreCase : Bool := false
  /-- Anchors match at every line. -/
  multiline : Bool := false
  /-- The point matches line ends. -/
  dotAll : Bool := false
  /-- Blanks and comments are skipped. -/
  verbose : Bool := false
  /-- Classes hold ASCII characters only. -/
  ascii : Bool := false
  /-- Classes hold characters of all scripts. -/
  unicode : Bool := false
  /-- Nothing may be repeated. -/
  template : Bool := false
deriving DecidableEq, Repr

def Flags.caseRule (f : Flags) : CaseRule :=
  if !f.ignoreCase then .exact else if f.ascii then .ascii else .full

/-- What has been learned about the groups so far. -/
structure Groups where
  /-- Shortest and longest text of each group, in order of their opening; none while open. -/
  widths : List (Option (Nat × Option Nat)) := []
  names : List (String × Nat) := []
  /-- Inside a look behind: how many groups, counting the whole, were there at its start. -/
  behind : Option Nat := none
  /-- Numbers that conditions refer to. -/
  asked : List Nat := []
  global : Flags := {}

namespace Groups

/-- The number that the next group will have. -/
def next (g : Groups) : Nat := g.widths.length + 1

def isClosed (g : Groups) (i : Nat) : Bool :=
  0 < i && (g.widths[i - 1]?).any Option.isSome

/-- The widths of closed groups. -/
def widthOf (g : Groups) (i : Nat) : Nat × Option Nat :=
  ((g.widths[i - 1]?).bind id).getD (0, some 0)

/-- Whether a reference is allowed where it stands: not, inside a look behind, to a group that was
opened there. -/
def allowsBehind (g : Groups) (i : Nat) : Bool :=
  match g.behind with
  | none => true
  | some n => g.isClosed i && i < n

/-- Opens a group; none if its name is taken. -/
def opened? (g : Groups) (name : Option String) : Option Groups :=
  let i := g.next
  match name with
  | none => some { g with widths := g.widths ++ [none] }
  | some s =>
    if g.names.any (·.1 = s) then none
    else some { g with widths := g.widths ++ [none], names := g.names ++ [(s, i)] }

def close (g : Groups) (i : Nat) (body : Node) : Groups :=
  { g with widths := g.widths.set (i - 1) (some (body.width g.widthOf)) }

end Groups

/-- What a step of reading gives: what was read, the groups, and the tokens left. -/
abbrev Step (α : Type) := α × Groups × List Token

def digitIn? (base : Nat) (c : Char) : Option Nat :=
  let v := if c.isDigit then some (c.toNat - 48)
    else if 'a' ≤ c && c ≤ 'f' then some (c.toNat - 87)
    else if 'A' ≤ c && c ≤ 'F' then some (c.toNat - 55)
    else none
  v.filter (· < base)

/-- Up to `n` digits at the front, and what follows. -/
def takeDigits (base : Nat) : Nat → List Token → List Nat × List Token
  | 0, ts => ([], ts)
  | n + 1, .plain c :: ts =>
    match digitIn? base c with
    | some d => let (ds, rest) := takeDigits base n ts; (d :: ds, rest)
    | none => ([], .plain c :: ts)
  | _ + 1, ts => ([], ts)

/-- The number that digits stand for. -/
def numeral (base : Nat) (ds : List Nat) : Nat :=
  ds.foldl (fun n d => base * n + d) 0

/-- The control characters with a letter of their own. -/
def controlEscape? : Char → Option Nat
  | 'a' => some 7
  | 'b' => some 8
  | 'f' => some 12
  | 'n' => some 10
  | 'r' => some 13
  | 't' => some 9
  | 'v' => some 11
  | _ => none

/-- The class with a letter of its own, and whether the letter stands for its complement. -/
def classEscape? : Char → Option (CharClass × Bool)
  | 'd' => some (.digit, false)
  | 'D' => some (.digit, true)
  | 's' => some (.space, false)
  | 'S' => some (.space, true)
  | 'w' => some (.word, false)
  | 'W' => some (.word, true)
  | _ => none

/-- A code point written with exactly `n` hexadecimal digits. -/
def hexEscape (n : Nat) (ts : List Token) : Except PatternFault (Nat × List Token) :=
  let (ds, rest) := takeDigits 16 n ts
  let code := numeral 16 ds
  if ds.length = n && code ≤ 0x10FFFF then .ok (code, rest) else .error .malformed

/-- Whether a letter of the alphabet; those have no meaning after a backslash unless given one. -/
def isAsciiLetter (c : Char) : Bool :=
  c.isAlpha

/-- What an escape inside a set stands for. -/
def readSetEscape (flags : Flags) (c : Char) (ts : List Token) :
    Except PatternFault (SetItem × List Token) :=
  match controlEscape? c, classEscape? c with
  | some code, _ => .ok (.one code, ts)
  | none, some (cls, negated) => .ok (.cls cls negated flags.ascii, ts)
  | none, none =>
    if c = 'x' then (hexEscape 2 ts).map fun (n, r) => (.one n, r)
    else if c = 'u' then (hexEscape 4 ts).map fun (n, r) => (.one n, r)
    else if c = 'U' then (hexEscape 8 ts).map fun (n, r) => (.one n, r)
    else match digitIn? 8 c with
      | some d =>
        let (ds, rest) := takeDigits 8 2 ts
        let code := numeral 8 (d :: ds)
        if code ≤ 0o377 then .ok (.one code, rest) else .error .malformed
      | none =>
        if c.isDigit || isAsciiLetter c then .error .malformed else .ok (.one c.toNat, ts)

def readBackref (flags : Flags) (g : Groups) (i : Nat) (ts : List Token) :
    Except PatternFault (Step Node) :=
  if i < g.next && g.isClosed i && g.allowsBehind i then .ok (.backref i flags.caseRule, g, ts)
  else .error .malformed

/-- What an escape outside sets stands for. -/
def readEscape (flags : Flags) (g : Groups) (c : Char) (ts : List Token) :
    Except PatternFault (Step Node) :=
  let code (r : Nat × List Token) : Node × Groups × List Token :=
    (.literal r.1 flags.caseRule, g, r.2)
  match c with
  | 'A' => .ok (.textStart, g, ts)
  | 'Z' => .ok (.textEnd, g, ts)
  | 'b' => .ok (.boundary false flags.ascii, g, ts)
  | 'B' => .ok (.boundary true flags.ascii, g, ts)
  | 'x' => (hexEscape 2 ts).map code
  | 'u' => (hexEscape 4 ts).map code
  | 'U' => (hexEscape 8 ts).map code
  | '0' =>
    let (ds, rest) := takeDigits 8 2 ts
    .ok (code (numeral 8 ds, rest))
  | _ =>
    match classEscape? c, controlEscape? c, digitIn? 10 c with
    | some (cls, negated), _, _ => .ok (.set false [.cls cls negated flags.ascii] .exact, g, ts)
    | none, some n, _ => .ok (code (n, ts))
    | none, none, some d =>
      match takeDigits 10 1 ts with
      | (e :: _, rest) =>
        match takeDigits 8 1 rest with
        | (f :: _, more) =>
          if d < 8 && e < 8 then
            let n := numeral 8 [d, e, f]
            if n ≤ 0o377 then .ok (code (n, more)) else .error .malformed
          else readBackref flags g (10 * d + e) rest
        | ([], _) => readBackref flags g (10 * d + e) rest
      | ([], _) => readBackref flags g d ts
    | none, none, none =>
      if isAsciiLetter c then .error .malformed else .ok (code (c.toNat, ts))

/-- One element of a set: a character or an escape. -/
def readSetItem (flags : Flags) : Token → List Token →
    Except PatternFault (SetItem × List Token)
  | .plain c, ts => .ok (.one c.toNat, ts)
  | .escaped c, ts => readSetEscape flags c ts

/-- The items of a set up to its closing bracket, which is an ordinary character while the set is
empty. -/
def readSetItems (flags : Flags) : Nat → List SetItem → List Token →
    Except PatternFault (List SetItem × List Token)
  | 0, _, _ => .error .malformed
  | _ + 1, _, [] => .error .malformed
  | fuel + 1, seen, t :: ts =>
    if t = .plain ']' && !seen.isEmpty then .ok (seen.reverse, ts)
    else do
      let (a, ts) ← readSetItem flags t ts
      match ts with
      | .plain '-' :: [] => .error .malformed
      | .plain '-' :: .plain ']' :: rest => .ok ((.one 45 :: a :: seen).reverse, rest)
      | .plain '-' :: u :: rest =>
        let (b, rest) ← readSetItem flags u rest
        match a, b with
        | .one low, .one high =>
          if high < low then .error .malformed
          else readSetItems flags fuel (.range low high :: seen) rest
        | _, _ => .error .malformed
      | _ => readSetItems flags fuel (a :: seen) ts

/-- A set after its opening bracket. -/
def readSet (flags : Flags) (ts : List Token) : Except PatternFault (Node × List Token) := do
  let (negated, ts) := match ts with
    | .plain '^' :: rest => (true, rest)
    | _ => (false, ts)
  let (items, rest) ← readSetItems flags (ts.length + 1) [] ts
  match negated, items with
  | false, [.one code] => .ok (.literal code flags.caseRule, rest)
  | _, _ => .ok (.set negated items flags.caseRule, rest)

/-- Bounds of a repetition. -/
structure Bounds where
  low : Nat
  /-- Greatest number of times, if there is one. -/
  high : Option Nat
deriving DecidableEq, Repr

/-- Counts from here on are refused. -/
def countLimit : Nat := 4294967295

/-- The numbers between braces: low end, whether a comma follows, high end. -/
def readBraces? (ts : List Token) : Option (List Nat × Bool × List Nat × List Token) :=
  let (low, rest) := takeDigits 10 ts.length ts
  match rest with
  | .plain ',' :: more =>
    match takeDigits 10 more.length more with
    | (high, .plain '}' :: after) => some (low, true, high, after)
    | _ => none
  | .plain '}' :: after => some (low, false, [], after)
  | _ => none

/-- The bounds of a quantifier after its first character; none where the brace is an ordinary
character. -/
def readBounds (c : Char) (ts : List Token) : Except PatternFault (Option (Bounds × List Token)) :=
  if c = '?' then .ok (some (⟨0, some 1⟩, ts))
  else if c = '*' then .ok (some (⟨0, none⟩, ts))
  else if c = '+' then .ok (some (⟨1, none⟩, ts))
  else if ts.head? = some (.plain '}') then .ok none
  else match readBraces? ts with
    | none => .ok none
    | some (low, comma, high, after) =>
      let l := numeral 10 low
      let high := if comma then high else low
      let h := numeral 10 high
      if countLimit ≤ l then .error .hugeCount
      else if high.isEmpty then .ok (some (⟨l, none⟩, after))
      else if countLimit ≤ h then .error .hugeCount
      else if h < l then .error .malformed
      else .ok (some (⟨l, some h⟩, after))

def readMode : List Token → RepeatMode × List Token
  | .plain '?' :: rest => (.lazy, rest)
  | .plain '+' :: rest => (.possessive, rest)
  | ts => (.greedy, ts)

/-- The text up to a closing character, and what follows; an escaped character does not close. -/
def readUntil (close : Char) (seen : List Char) : List Token →
    Except PatternFault (String × List Token)
  | [] => .error .malformed
  | .plain c :: ts =>
    if c = close then
      if seen.isEmpty then .error .malformed else .ok (String.ofList seen.reverse, ts)
    else readUntil close (c :: seen) ts
  | .escaped c :: ts => readUntil close (c :: '\\' :: seen) ts

/-- Whether a text may name a group. -/
def isName (s : String) : Bool :=
  match s.toList with
  | [] => false
  | c :: cs =>
    (c = '_' || (Text.isAlphanumeric c && !Text.isDigitLike c)) && cs.all Text.isWordChar

def skipComment : List Token → Except PatternFault (List Token)
  | [] => .error .malformed
  | .plain ')' :: ts => .ok ts
  | _ :: ts => skipComment ts

/-- The tokens after the end of the line. -/
def skipLine : List Token → List Token
  | [] => []
  | .plain '\n' :: ts => ts
  | _ :: ts => skipLine ts

/-- Blanks that the flag `x` makes meaningless. -/
def isFiller (c : Char) : Bool :=
  c = ' ' || c = '\t' || c = '\n' || c = '\r' || c.toNat = 11 || c.toNat = 12

inductive FlagLetter where
  | i
  /-- Anchors match at every line. -/
  | m
  /-- The point matches line ends. -/
  | s
  /-- Blanks are skipped. -/
  | x
  | a
  | u
  /-- Nothing is repeated; for the whole pattern only. -/
  | t
deriving DecidableEq, Repr

def flagLetter? : Char → Option FlagLetter
  | 'i' => some .i
  | 'm' => some .m
  | 's' => some .s
  | 'x' => some .x
  | 'a' => some .a
  | 'u' => some .u
  | 't' => some .t
  | _ => none

def Flags.switch (f : Flags) (on : Bool) : FlagLetter → Flags
  | .i => { f with ignoreCase := on }
  | .m => { f with multiline := on }
  | .s => { f with dotAll := on }
  | .x => { f with verbose := on }
  | .a => { f with ascii := on }
  | .u => { f with unicode := on }
  | .t => { f with template := on }

/-- Flag letters at the front, and what follows. -/
def takeFlags : List Token → List FlagLetter × List Token
  | .plain c :: ts =>
    match flagLetter? c with
    | some l => let (ls, rest) := takeFlags ts; (l :: ls, rest)
    | none => ([], .plain c :: ts)
  | ts => ([], ts)

/-- Flags between parentheses: those switched on, and for a group also those switched off. -/
inductive FlagGroup where
  | whole (on : List FlagLetter)
  | scoped (on off : List FlagLetter)

/-- Reads flags after the question mark. -/
def readFlags (ts : List Token) : Except PatternFault (FlagGroup × List Token) :=
  let (on, rest) := takeFlags ts
  let clash := on.contains .a && on.contains .u
  if clash then .error .malformed
  else match rest with
    | .plain ')' :: after => if on.isEmpty then .error .malformed else .ok (.whole on, after)
    | .plain ':' :: after =>
      if on.contains .t then .error .malformed else .ok (.scoped on [], after)
    | .plain '-' :: more =>
      let (off, rest) := takeFlags more
      if on.contains .t || off.isEmpty || off.contains .a || off.contains .u || off.contains .t
          || on.any off.contains then .error .malformed
      else match rest with
        | .plain ':' :: after => .ok (.scoped on off, after)
        | _ => .error .malformed
    | _ => .error .malformed

/-- The flags inside a group with flags of its own. -/
def Flags.within (f : Flags) (on off : List FlagLetter) : Flags :=
  let f := if on.contains .a || on.contains .u then { f with ascii := false, unicode := false }
    else f
  let f := on.foldl (fun f l => f.switch true l) f
  off.foldl (fun f l => f.switch false l) f

/-- The number of the group that a condition names, if the name is allowed. -/
def conditionIndex? (g : Groups) (name : String) : Option Nat :=
  if isName name then (g.names.find? (·.1 = name)).map (·.2)
  else if !name.isEmpty && name.toList.all Char.isDigit then
    let i := numeral 10 (name.toList.map fun c => c.toNat - 48)
    if i = 0 || 1073741823 ≤ i then none else some i
  else none

/-- The last item, its repetition put in its place. -/
def quantify (seen : List Node) (mode : RepeatMode) (b : Bounds) :
    Except PatternFault (List Node) :=
  match seen with
  | [] => .error .malformed
  | n :: ns =>
    if n.isAnchor || n.isRepeated then .error .malformed
    else .ok (.repeated mode b.low b.high n :: ns)

/-- What stands behind the opening parenthesis of a group. -/
inductive Opening where
  /-- A group with its content still to be read, under these flags. -/
  | content (kind : Option GroupKind) (name : Option String) (flags : Flags)
  /-- A test whose content is still to be read. -/
  | look (behind negated : Bool)
  | condition (index : Nat)
  | item (node : Node)
  | nothing
  | global (flags : Flags)

/-- Reads what stands behind an opening parenthesis, up to the content of the group. `atStart` says
that flags of the whole pattern may stand here. -/
def readOpening (flags : Flags) (atStart : Bool) (g : Groups) (ts : List Token) :
    Except PatternFault (Step Opening) :=
  match ts with
  | .plain '?' :: rest =>
    match rest with
    | .plain 'P' :: .plain '<' :: more => do
      let (name, after) ← readUntil '>' [] more
      if isName name then .ok (.content none (some name) flags, g, after) else .error .malformed
    | .plain 'P' :: .plain '=' :: more => do
      let (name, after) ← readUntil ')' [] more
      match isName name, g.names.find? (·.1 = name) with
      | true, some (_, i) =>
        let (n, g, after) ← readBackref flags g i after
        return (.item n, g, after)
      | _, _ => .error .malformed
    | .plain ':' :: more => .ok (.content (some .plain) none flags, g, more)
    | .plain '>' :: more => .ok (.content (some .atomic) none flags, g, more)
    | .plain '#' :: more => do
      let after ← skipComment more
      return (.nothing, g, after)
    | .plain '=' :: more => .ok (.look false false, g, more)
    | .plain '!' :: more => .ok (.look false true, g, more)
    | .plain '<' :: .plain '=' :: more => .ok (.look true false, g, more)
    | .plain '<' :: .plain '!' :: more => .ok (.look true true, g, more)
    | .plain '(' :: more => do
      let (name, after) ← readUntil ')' [] more
      match conditionIndex? g name with
      | some i =>
        let g := if isName name then g else { g with asked := i :: g.asked }
        if g.allowsBehind i then .ok (.condition i, g, after) else .error .malformed
      | none => .error .malformed
    | _ => do
      let (fs, after) ← readFlags rest
      match fs with
      | .whole on =>
        if atStart then
          let global := on.foldl (fun f l => f.switch true l) g.global
          .ok (.global global, { g with global }, after)
        else .error .malformed
      | .scoped on off => .ok (.content (some .plain) none (flags.within on off), g, after)
  | _ => .ok (.content none none flags, g, ts)

def expectClose : List Token → Except PatternFault (List Token)
  | .plain ')' :: ts => .ok ts
  | _ => .error .malformed

mutual

/-- Reads alternatives up to a closing parenthesis or the end. At the top of the pattern the flags
of the whole pattern apply to the later alternatives too. -/
def readAlternatives : Nat → Bool → Flags → Groups → List Token →
    Except PatternFault (Step Node)
  | 0, _, _, _, _ => .error .malformed
  | fuel + 1, top, flags, g, ts => do
    let (first, g, rest) ← readSequence fuel top flags g [] ts
    match rest with
    | .plain '|' :: more => readRest fuel top (if top then g.global else flags) first g more
    | _ => return (first, g, rest)

/-- Reads the alternatives after the first. -/
def readRest : Nat → Bool → Flags → Node → Groups → List Token →
    Except PatternFault (Step Node)
  | 0, _, _, _, _, _ => .error .malformed
  | fuel + 1, top, flags, before, g, ts => do
    let (n, g, rest) ← readSequence fuel false flags g [] ts
    match rest with
    | .plain '|' :: more => do
      let (m, g, rest) ← readRest fuel top flags n g more
      return (.alt before m, g, rest)
    | _ => return (.alt before n, g, rest)

/-- Reads one item after the other; `seen` holds those before, last first. -/
def readSequence : Nat → Bool → Flags → Groups → List Node → List Token →
    Except PatternFault (Step Node)
  | 0, _, _, _, _, _ => .error .malformed
  | _ + 1, _, _, g, seen, [] => .ok (.ofList seen.reverse, g, [])
  | fuel + 1, top, flags, g, seen, t :: ts =>
    match t with
    | .escaped c => do
      let (n, g, rest) ← readEscape flags g c ts
      readSequence fuel top flags g (n :: seen) rest
    | .plain c =>
      if c = '|' || c = ')' then .ok (.ofList seen.reverse, g, t :: ts)
      else if flags.verbose && isFiller c then readSequence fuel top flags g seen ts
      else if flags.verbose && c = '#' then readSequence fuel top flags g seen (skipLine ts)
      else if c = '[' then do
        let (n, rest) ← readSet flags ts
        readSequence fuel top flags g (n :: seen) rest
      else if c = '.' then readSequence fuel top flags g (.any flags.dotAll :: seen) ts
      else if c = '^' then readSequence fuel top flags g (.start flags.multiline :: seen) ts
      else if c = '$' then readSequence fuel top flags g (.finish flags.multiline :: seen) ts
      else if c = '?' || c = '*' || c = '+' || c = '{' then do
        match ← readBounds c ts with
        | none => readSequence fuel top flags g (.literal c.toNat flags.caseRule :: seen) ts
        | some (b, rest) =>
          let (mode, after) := readMode rest
          let seen ← quantify seen mode b
          readSequence fuel top flags g seen after
      else if c = '(' then do
        let (opening, g, rest) ← readOpening flags (top && seen.isEmpty) g ts
        match opening with
        | .nothing => readSequence fuel top flags g seen rest
        | .global f => readSequence fuel top f g seen rest
        | .item n => readSequence fuel top flags g (n :: seen) rest
        | .content kind name inner =>
          let (n, g, after) ← readContent fuel kind name inner g rest
          readSequence fuel top flags g (n :: seen) after
        | .look behind negated =>
          let outer := g.behind
          let g := if behind && outer.isNone then { g with behind := some g.next } else g
          let (body, g, rest) ← readAlternatives fuel false flags g rest
          let g := if behind then { g with behind := outer } else g
          let after ← expectClose rest
          let back := if behind then some (body.width g.widthOf).1 else none
          readSequence fuel top flags g (.look back negated body :: seen) after
        | .condition i =>
          let (yes, g, rest) ← readSequence fuel false flags g [] rest
          match rest with
          | .plain '|' :: more =>
            let (no, g, rest) ← readSequence fuel false flags g [] more
            let after ← expectClose rest
            readSequence fuel top flags g (.conditional i yes no :: seen) after
          | _ =>
            let after ← expectClose rest
            readSequence fuel top flags g (.conditional i yes .empty :: seen) after
      else readSequence fuel top flags g (.literal c.toNat flags.caseRule :: seen) ts

def readContent : Nat → Option GroupKind → Option String → Flags → Groups → List Token →
    Except PatternFault (Step Node)
  | 0, _, _, _, _, _ => .error .malformed
  | fuel + 1, kind, name, flags, g, ts => do
    match kind with
    | some kind =>
      let (body, g, rest) ← readAlternatives fuel false flags g ts
      let after ← expectClose rest
      return (.group kind body, g, after)
    | none =>
      let i := g.next
      match g.opened? name with
      | none => .error .malformed
      | some g =>
        let (body, g, rest) ← readAlternatives fuel false flags g ts
        let after ← expectClose rest
        return (.group (.capture i) body, g.close i body, after)

end

def read (ignoreCase : Bool) (s : String) : Except PatternFault Node :=
  match tokens? s.toList with
  | none => .error .malformed
  | some ts => do
    let flags : Flags := { ignoreCase }
    let (n, g, rest) ← readAlternatives (4 * ts.length + 8) true flags { global := flags } ts
    if g.global.ascii && g.global.unicode then .error .flagClash
    else if !rest.isEmpty then .error .malformed
    else if g.asked.any (g.next ≤ ·) then .error .malformed
    else if !n.looksBehindFixed g.widthOf then .error .malformed
    else if g.global.template && n.repeats then .error .malformed
    else .ok n

end Watchgate.Pattern
