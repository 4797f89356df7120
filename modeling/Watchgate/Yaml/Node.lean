import Watchgate.Yaml.Tokens

/-!
# YAML documents as trees

A document is a tree of scalars, sequences and mappings, each with its tag if one is written. An
alias stands for the tree that its anchor names, which has to be complete by then. A text holds one
document at most.
-/

namespace Watchgate.Yaml

/-- The nodes of a document. -/
inductive Node where
  /-- A scalar; `isOpen` says that its kind follows from its text. -/
  | scalar (tag : Option String) (isOpen : Bool) (text : String)
  | sequence (tag : Option String) (items : List Node)
  /-- A mapping, keys and values in turn as written. -/
  | mapping (tag : Option String) (pairs : List (Node × Node))
deriving Inhabited

/-- What is not written: a scalar without text. -/
def Node.absent : Node := .scalar none true ""

/-- What the reader of a document holds. -/
structure Reading where
  tokens : List Token
  /-- The short forms of beginnings of tags. -/
  handles : List (String × String)
  /-- The nodes that have a name. -/
  anchors : List (String × Node) := []

/-- A computation that reads tokens. -/
abbrev Read (α : Type) := Reading → Except Failure (α × Reading)

def Reading.peek (r : Reading) : Token := r.tokens.headD .textEnd

def Reading.next (r : Reading) : Reading := { r with tokens := r.tokens.tail }

/-- Anchor and tag before a node. -/
structure Properties where
  anchor : Option String := none
  tag : Option (Option String × String) := none

/-- Reads anchor and tag, in either order. -/
def readProperties (r : Reading) : Properties × Reading :=
  match r.tokens with
  | .anchor a :: .tag h s :: rest => ({ anchor := a, tag := some (h, s) }, { r with tokens := rest })
  | .tag h s :: .anchor a :: rest => ({ anchor := a, tag := some (h, s) }, { r with tokens := rest })
  | .anchor a :: rest => ({ anchor := a }, { r with tokens := rest })
  | .tag h s :: rest => ({ tag := some (h, s) }, { r with tokens := rest })
  | _ => ({}, r)

/-- The tag in full. -/
def resolveTag (handles : List (String × String)) :
    Option (Option String × String) → Except Failure (Option String)
  | none => .ok none
  | some (none, suffix) => .ok (some suffix)
  | some (some handle, suffix) =>
    match handles.lookup handle with
    | some beginning => .ok (some (beginning ++ suffix))
    | none => .error .yaml

/-- The tag that a node keeps; a lone exclamation mark says nothing. -/
def keptTag (tag : Option String) : Option String := tag.filter (· ≠ "!")

/-- Gives a node its name. -/
def Reading.bind (r : Reading) (anchor : Option String) (n : Node) : Except Failure (Node × Reading) :=
  match anchor with
  | none => .ok (n, r)
  | some a =>
    if (r.anchors.lookup a).isSome then .error .yaml
    else .ok (n, { r with anchors := (a, n) :: r.anchors })

/-- Where a node may stand. -/
structure Place where
  block : Bool
  /-- Whether it may be a sequence that is indented as its key. -/
  flush : Bool

/-- A value below a key. -/
def Place.underKey : Place := ⟨true, true⟩

/-- An item, or a document. -/
def Place.inBlock : Place := ⟨true, false⟩

def Place.inBrackets : Place := ⟨false, false⟩

def unlessAt (stops : List Token) (node : Read Node) : Read Node := fun r =>
  if stops.contains r.peek then .ok (.absent, r) else node r

/-- What follows an indicator, if the indicator is there. -/
def afterIndicator (indicator : Token) (stops : List Token) (node : Read Node) : Read Node := fun r =>
  if r.peek = indicator then unlessAt stops node r.next else .ok (.absent, r)

/-- Steps over a comma, unless the entry is the first. -/
def stepOver (isFirst : Bool) (r : Reading) : Except Failure Reading :=
  if isFirst then .ok r else if r.peek = .comma then .ok r.next else .error .yaml

mutual

def readNode : Nat → Place → Read Node
  | 0, _, _ => .error .yaml
  | depth + 1, place, r =>
    match r.peek with
    | .alias name =>
      match r.anchors.lookup name with
      | some n => .ok (n, r.next)
      | none => .error .yaml
    | _ => do
      let (props, r) := readProperties r
      let tag ← resolveTag r.handles props.tag
      let (n, r) ← readContent depth place props.anchor.isSome tag r
      r.bind props.anchor n

/-- Reads a node from behind its anchor and tag on. -/
def readContent : Nat → Place → Bool → Option String → Read Node
  | 0, _, _, _, _ => .error .yaml
  | depth + 1, place, hasAnchor, tag, r =>
    let kept := keptTag tag
    match r.peek with
    | .scalar text isPlain =>
      .ok (.scalar kept ((isPlain && tag.isNone) || tag = some "!") text, r.next)
    | .openSequence => do
      let (items, r) ← readBracketItems depth true r.next
      return (.sequence kept items, r)
    | .openMapping => do
      let (pairs, r) ← readBracketPairs depth true r.next
      return (.mapping kept pairs, r)
    | t => do
      if t = .item && place.flush then
        let (items, r) ← readFlushItems depth r
        return (.sequence kept items, r)
      else if t = .blockSequence && place.block then
        let (items, r) ← readBlockItems depth r.next
        return (.sequence kept items, r)
      else if t = .blockMapping && place.block then
        let (pairs, r) ← readBlockPairs depth r.next
        return (.mapping kept pairs, r)
      else if hasAnchor || tag.isSome then return (.scalar kept kept.isNone "", r)
      else throw .yaml

def readBlockItems : Nat → Read (List Node)
  | 0, _ => .error .yaml
  | depth + 1, r =>
    match r.peek with
    | .item => do
      let (n, r) ← unlessAt [.item, .blockEnd] (readNode depth .inBlock) r.next
      let (ns, r) ← readBlockItems depth r
      return (n :: ns, r)
    | .blockEnd => .ok ([], r.next)
    | _ => .error .yaml

/-- Reads the items of a sequence that is indented as its key. -/
def readFlushItems : Nat → Read (List Node)
  | 0, _ => .error .yaml
  | depth + 1, r =>
    match r.peek with
    | .item => do
      let (n, r) ← unlessAt [.item, .key, .value, .blockEnd] (readNode depth .inBlock) r.next
      let (ns, r) ← readFlushItems depth r
      return (n :: ns, r)
    | _ => .ok ([], r)

def readBlockPairs : Nat → Read (List (Node × Node))
  | 0, _ => .error .yaml
  | depth + 1, r =>
    if r.peek = .blockEnd then .ok ([], r.next)
    else if r.peek = .key then do
      let stops := [.key, .value, .blockEnd]
      let (k, r) ← afterIndicator .key stops (readNode depth .underKey) r
      let (v, r) ← afterIndicator .value stops (readNode depth .underKey) r
      let (rest, r) ← readBlockPairs depth r
      return ((k, v) :: rest, r)
    else .error .yaml

/-- Reads the items between square brackets; a pair among them is a mapping of its own. -/
def readBracketItems : Nat → Bool → Read (List Node)
  | 0, _, _ => .error .yaml
  | depth + 1, isFirst, r =>
    if r.peek = .closeSequence then .ok ([], r.next)
    else do
      let r ← stepOver isFirst r
      if r.peek = .closeSequence then return ([], r.next)
      let (n, r) ←
        if r.peek = .key then do
          let (k, r) ← unlessAt [.value, .comma, .closeSequence] (readNode depth .inBrackets) r.next
          let (v, r) ← afterIndicator .value [.comma, .closeSequence] (readNode depth .inBrackets) r
          pure (Node.mapping none [(k, v)], r)
        else readNode depth .inBrackets r
      let (ns, r) ← readBracketItems depth false r
      return (n :: ns, r)

/-- Reads the pairs between braces; a node alone is a key without a value. -/
def readBracketPairs : Nat → Bool → Read (List (Node × Node))
  | 0, _, _ => .error .yaml
  | depth + 1, isFirst, r =>
    if r.peek = .closeMapping then .ok ([], r.next)
    else do
      let r ← stepOver isFirst r
      if r.peek = .closeMapping then return ([], r.next)
      let (pair, r) ←
        if r.peek = .key then do
          let (k, r) ← unlessAt [.value, .comma, .closeMapping] (readNode depth .inBrackets) r.next
          let (v, r) ← afterIndicator .value [.comma, .closeMapping] (readNode depth .inBrackets) r
          pure ((k, v), r)
        else do
          let (k, r) ← readNode depth .inBrackets r
          pure ((k, Node.absent), r)
      let (rest, r) ← readBracketPairs depth false r
      return (pair :: rest, r)

end

/-- The beginnings of tags that every document knows. -/
def knownHandles : List (String × String) := [("!", "!"), ("!!", "tag:yaml.org,2002:")]

/-- What the directives of a document say. -/
structure Preamble where
  hasVersion : Bool := false
  /-- The short forms. -/
  handles : List (String × String) := []

/-- Reads the directives; only versions 1 are known, and nothing is said twice. -/
def readPreamble (p : Preamble) : List Token → Except Failure (Preamble × List Token)
  | .directive (.version major _) :: rest =>
    if p.hasVersion || major ≠ 1 then .error .yaml
    else readPreamble { p with hasVersion := true } rest
  | .directive (.shorthand handle beginning) :: rest =>
    if (p.handles.lookup handle).isSome then .error .yaml
    else readPreamble { p with handles := p.handles ++ [(handle, beginning)] } rest
  | .directive .reserved :: rest => readPreamble p rest
  | ts => .ok (p, ts)

/-- Reads the document after a start mark or at the start of the text. -/
def readRoot (handles : List (String × String)) (isMarked : Bool) (ts : List Token) :
    Except Failure (Node × List Token) := do
  let r : Reading := { tokens := ts, handles }
  let isEmpty := match r.peek with
    | .directive _ => true
    | .documentStart => true
    | .documentEnd => true
    | .textEnd => true
    | _ => false
  if isMarked && isEmpty then return (.absent, ts)
  let (n, r) ← readNode (3 * ts.length + 3) .inBlock r
  return (n, r.tokens)

/-- Checks that nothing follows a document. -/
def checkEnd (ts : List Token) : Except Failure Unit :=
  match ts.dropWhile (· = .documentEnd) with
  | [] => .ok ()
  | .textEnd :: _ => .ok ()
  | _ => .error .yaml

/-- Whether a document starts with a mark or a directive. -/
def Token.opensDocument : Token → Bool
  | .directive _ => true
  | .documentStart => true
  | _ => false

/-- The document that tokens write; none where there is nothing. -/
def Node.ofTokens? (ts : List Token) : Except Failure (Option Node) := do
  match ts with
  | [] => return none
  | .textEnd :: _ => return none
  | t :: rest =>
    let (n, rest) ←
      if t.opensDocument then do
        let (p, rest) ← readPreamble {} (t :: rest)
        match rest with
        | .documentStart :: rest => readRoot (p.handles ++ knownHandles) true rest
        | _ => throw .yaml
      else readRoot knownHandles false (t :: rest)
    checkEnd rest
    return some n

end Watchgate.Yaml
