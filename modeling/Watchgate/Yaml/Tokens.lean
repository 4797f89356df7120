import Watchgate.Yaml.Token
import Watchgate.Yaml.Flowing
import Watchgate.Yaml.Block

/-!
# The tokens of a YAML text

Reading goes from token to token and keeps track of indentation: a line that is indented less than a
block closes it. That something is a key is known only when its colon comes, so places where a key
may have started are remembered, one for each depth of brackets, and the mark for the key is put in
there afterwards. Such a place is forgotten at the end of its line or after 1024 characters.
-/

namespace Watchgate.Yaml

/-- A place where a key may have started. -/
structure KeyPlace where
  /-- How many tokens came before. -/
  tokens : Nat
  /-- Whether nothing but a key may stand there. -/
  isRequired : Bool
  /-- How many characters came before. -/
  index : Nat
  line : Nat
  column : Nat

/-- How far a text is read. -/
structure Tokens where
  place : Cursor
  done : Array Token := #[]
  depth : Nat := 0
  /-- The indentation of the innermost block, -1 outside all blocks. -/
  indent : Int := -1
  /-- The indentations of the blocks around it. -/
  outer : List Int := []
  /-- Whether a key may start here. -/
  keyAllowed : Bool := true
  /-- Where keys may have started, by the depth of brackets. -/
  keys : List (Nat × KeyPlace) := []

namespace Tokens

def push (s : Tokens) (t : Token) : Tokens := { s with done := s.done.push t }

def pushAt (s : Tokens) (t : Token) (place : Cursor) : Tokens :=
  { s with done := s.done.push t, place }

/-- Whether brackets are open. -/
def inFlow (s : Tokens) : Bool := s.depth ≠ 0

/-! ## Indentation -/

def closeBlocks (column : Int) : List Int → Tokens → Tokens
  | [], s => s
  | i :: outer, s =>
    if s.indent ≤ column then s
    else closeBlocks column outer { s.push .blockEnd with indent := i, outer }

/-- Closes blocks, unless brackets are open. -/
def unwind (s : Tokens) (column : Int) : Tokens :=
  if s.inFlow then s else closeBlocks column s.outer s

/-- Opens a block where a column is indented more than the block around it. -/
def opens (s : Tokens) (column : Nat) : Bool := s.indent < column

/-- The innermost block is now one at this column. -/
def enter (s : Tokens) (column : Nat) : Tokens :=
  { s with outer := s.indent :: s.outer, indent := column }

/-- Opens a block for an entry at the current column, if there is none yet. -/
def openBlock (s : Tokens) (start : Token) : Except Failure Tokens :=
  if s.inFlow then .ok s
  else if !s.keyAllowed then .error .yaml
  else .ok (if s.opens s.place.column then (s.enter s.place.column).push start else s)

/-! ## Places of keys -/

/-- Forgets the place at the current depth; a place that needs a key must not be forgotten. -/
def forget (s : Tokens) : Except Failure Tokens :=
  match s.keys.lookup s.depth with
  | none => .ok s
  | some k =>
    if k.isRequired then .error .yaml
    else .ok { s with keys := s.keys.filter (·.1 ≠ s.depth) }

/-- Whether a place is too far behind. -/
def isStale (place : Cursor) (k : KeyPlace) : Bool :=
  k.line ≠ place.line || 1024 < place.index - k.index

/-- Forgets the places that are too far behind. -/
def forgetStale (s : Tokens) : Except Failure Tokens :=
  if s.keys.any fun k => isStale s.place k.2 && k.2.isRequired then .error .yaml
  else .ok { s with keys := s.keys.filter (!isStale s.place ·.2) }

/-- Remembers the current place, if a key may start here. -/
def remember (s : Tokens) : Except Failure Tokens :=
  if !s.keyAllowed then .ok s
  else do
    let s ← s.forget
    let k : KeyPlace := {
      tokens := s.done.size
      isRequired := !s.inFlow && s.indent = s.place.column
      index := s.place.index
      line := s.place.line
      column := s.place.column }
    return { s with keys := s.keys ++ [(s.depth, k)] }

def insert (s : Tokens) (at_ : Nat) (ts : List Token) : Tokens :=
  { s with done := s.done.take at_ ++ ts.toArray ++ s.done.drop at_ }

/-! ## One token -/

/-- Ends all blocks before a line that belongs to no document. -/
def leaveDocument (s : Tokens) : Except Failure Tokens := do
  return { ← (s.unwind (-1)).forget with keyAllowed := false }

/-- Reads a name or scalar, at which a key may start. -/
def readWord (s : Tokens) (read : Cursor → Except Failure (Token × Cursor)) :
    Except Failure Tokens := do
  let s ← s.remember
  let (t, place) ← read s.place
  return { s.pushAt t place with keyAllowed := false }

def readPlainWord (s : Tokens) : Except Failure Tokens := do
  let s ← s.remember
  let p := readPlain s.inFlow (s.indent + 1) s.place
  return { s.pushAt (.scalar (String.ofList p.text) true) p.place with keyAllowed := p.lineEnds }

def readBlockWord (s : Tokens) (folded : Bool) : Except Failure Tokens := do
  let s ← s.forget
  let (text, place) ← readBlock folded s.indent s.place.next
  return { s.pushAt (.scalar (String.ofList text) false) place with keyAllowed := true }

def readOpening (s : Tokens) (t : Token) : Except Failure Tokens := do
  let s ← s.remember
  return { s.pushAt t s.place.next with depth := s.depth + 1, keyAllowed := true }

def readClosing (s : Tokens) (t : Token) : Except Failure Tokens := do
  let s ← s.forget
  return { s.pushAt t s.place.next with depth := s.depth - 1, keyAllowed := false }

def readComma (s : Tokens) : Except Failure Tokens := do
  let s ← s.forget
  return { s.pushAt .comma s.place.next with keyAllowed := true }

def readItem (s : Tokens) : Except Failure Tokens := do
  let s ← (← s.openBlock .blockSequence).forget
  return { s.pushAt .item s.place.next with keyAllowed := true }

/-- Reads the question mark before a key. -/
def readKey (s : Tokens) : Except Failure Tokens := do
  let s ← (← s.openBlock .blockMapping).forget
  return { s.pushAt .key s.place.next with keyAllowed := !s.inFlow }

/-- Reads the colon before a value, and marks its key where one may have started. -/
def readValue (s : Tokens) : Except Failure Tokens :=
  match s.keys.lookup s.depth with
  | some k =>
    let s := { s with keys := s.keys.filter (·.1 ≠ s.depth) }
    let s :=
      if !s.inFlow && s.opens k.column then
        (s.enter k.column).insert k.tokens [.blockMapping, .key]
      else s.insert k.tokens [.key]
    .ok { s.pushAt .value s.place.next with keyAllowed := false }
  | none => do
    let s ← (← s.openBlock .blockMapping).forget
    return { s.pushAt .value s.place.next with keyAllowed := !s.inFlow }

/-- Whether a plain scalar may start here. -/
def startsPlain (s : Tokens) (c : Char) : Bool :=
  !(isSpace c || "-?:,[]\x7b\x7d#&*!|>'\"%@\x60".toList.contains c)
    || (!isFree (s.place.ahead 1) && (c = '-' || (!s.inFlow && (c = '?' || c = ':'))))

def readToken (s : Tokens) (c : Char) : Except Failure Tokens :=
  let free := isFree (s.place.ahead 1)
  if c = '%' && s.place.column = 0 then do
    let s ← s.leaveDocument
    let (t, place) ← readDirective s.place
    return s.pushAt t place
  else if s.place.column = 0 && s.place.hasMarker '-' then do
    let s ← s.leaveDocument
    return s.pushAt .documentStart (s.place.skip 3)
  else if s.place.column = 0 && s.place.hasMarker '.' then do
    let s ← s.leaveDocument
    return s.pushAt .documentEnd (s.place.skip 3)
  else if c = '[' then s.readOpening .openSequence
  else if c = '{' then s.readOpening .openMapping
  else if c = ']' then s.readClosing .closeSequence
  else if c = '}' then s.readClosing .closeMapping
  else if c = ',' then s.readComma
  else if c = '-' && free then s.readItem
  else if c = '?' && (s.inFlow || free) then s.readKey
  else if c = ':' && (s.inFlow || free) then s.readValue
  else if c = '*' then s.readWord fun p => do
    let (name, p) ← readName p
    return (.alias name, p)
  else if c = '&' then s.readWord fun p => do
    let (name, p) ← readName p
    return (.anchor name, p)
  else if c = '!' then s.readWord readTag
  else if (c = '|' || c = '>') && !s.inFlow then s.readBlockWord (c = '>')
  else if c = '\'' || c = '"' then s.readWord fun p => do
    let (text, p) ← readQuoted c p
    return (.scalar (String.ofList text) false, p)
  else if s.startsPlain c then s.readPlainWord
  else .error .yaml

/-- Skips blanks, remarks and line ends; behind a line end outside brackets a key may start. Each
round skips a line. -/
def skipSpace : Nat → Tokens → Tokens
  | 0, s => s
  | rounds + 1, s =>
    let place := s.place.skipBlanks.skipRemark
    match place.peek with
    | none => { s with place }
    | some c =>
      if isBreak c then
        skipSpace rounds { s with place := place.next, keyAllowed := s.keyAllowed || !s.inFlow }
      else { s with place }

/-- Reads on to the end of the text; each round reads a token. -/
def readFrom : Nat → Tokens → Except Failure (List Token)
  | 0, _ => .error .yaml
  | rounds + 1, s => do
    let s ← (skipSpace (s.place.rest.length + 1) s).forgetStale
    let s := s.unwind s.place.column
    match s.place.peek with
    | none =>
      let s ← s.leaveDocument
      return (s.push .textEnd).done.toList
    | some c => readFrom rounds (← s.readToken c)

end Tokens

/-- The tokens of a text; a byte order mark before it is no part of it. -/
def tokensOf (s : String) : Except Failure (List Token) :=
  let cs := s.toList
  if !cs.all isPrintable then .error .yaml
  else
    let place : Cursor := { rest := unifyBreaks cs }
    let place := if place.peek = some '\ufeff' then place.next else place
    Tokens.readFrom (cs.length + 1) { place }

end Watchgate.Yaml
