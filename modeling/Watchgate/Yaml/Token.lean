import Watchgate.Yaml.Cursor
import Watchgate.Json.Reader

/-!
# The words of YAML

A YAML text is a list of tokens: brackets and indicators, names and scalars, and marks for where a
block starts and ends, which are not written but follow from the indentation. This module holds the
tokens and reads those that consist of names: directives, anchors, aliases and tags.
-/

namespace Watchgate.Yaml

/-- What a line that starts with a percent sign says. -/
inductive Directive where
  | version (major minor : Nat)
  /-- A short form for the beginnings of tags. -/
  | shorthand (handle beginning : String)
  /-- Something reserved. -/
  | reserved
deriving DecidableEq, Repr

/-- The words. -/
inductive Token where
  | directive (d : Directive)
  | documentStart
  | documentEnd
  | textEnd
  | blockSequence
  | blockMapping
  /-- The end of either. -/
  | blockEnd
  | openSequence
  | closeSequence
  | openMapping
  | closeMapping
  | item
  | comma
  | key
  | value
  | alias (name : String)
  | anchor (name : String)
  /-- A tag for what follows; without a handle it is written in full. -/
  | tag (handle : Option String) (suffix : String)
  | scalar (text : String) (isPlain : Bool)
deriving DecidableEq, Repr

/-- Characters that may stand in a tag besides letters and digits. -/
def tagChars : List Char := "-;/?:@&=+$,_.!~*'()[]".toList

/-- Reads bytes that are written with percent signs. -/
def escapedBytes : Nat → List UInt8 → Cursor → Except Failure (List UInt8 × Cursor)
  | 0, bytes, c => .ok (bytes, c)
  | rounds + 1, bytes, c =>
    if c.peek ≠ some '%' then .ok (bytes, c)
    else match (c.ahead 1).bind Json.hexValue?, (c.ahead 2).bind Json.hexValue? with
      | some a, some b => escapedBytes rounds (bytes ++ [UInt8.ofNat (16 * a + b)]) (c.skip 3)
      | _, _ => .error .yaml

/-- Reads the characters of a tag; each round reads a character. -/
def tagTextFrom : Nat → List Char → Cursor → Except Failure (List Char × Cursor)
  | 0, text, c => .ok (text, c)
  | rounds + 1, text, c =>
    match c.peek with
    | none => .ok (text, c)
    | some ch =>
      if ch = '%' then do
        let (bytes, c) ← escapedBytes (c.rest.length + 1) [] c
        match String.fromUTF8? ⟨bytes.toArray⟩ with
        | some s => tagTextFrom rounds (text ++ s.toList) c
        | none => throw .yaml
      else if ch.isAlphanum || tagChars.contains ch then tagTextFrom rounds (text ++ [ch]) c.next
      else .ok (text, c)

/-- Reads the characters of a tag; there is at least one. -/
def readTagText (c : Cursor) : Except Failure (String × Cursor) := do
  let (text, c) ← tagTextFrom (c.rest.length + 1) [] c
  if text.isEmpty then throw .yaml
  return (String.ofList text, c)

/-- Reads a handle: an exclamation mark, alone or with a name and another one behind it. -/
def readHandle (c : Cursor) : Except Failure (String × Cursor) :=
  if c.peek ≠ some '!' then .error .yaml
  else if c.ahead 1 = some ' ' then .ok ("!", c.next)
  else
    let (name, c) := c.next.span isNameChar
    if c.peek = some '!' then .ok (String.ofList ('!' :: name ++ ['!']), c.next)
    else .error .yaml

def readTag (c : Cursor) : Except Failure (Token × Cursor) := do
  let (handle, suffix, c) ←
    if c.ahead 1 = some '<' then do
      let (text, c) ← readTagText (c.skip 2)
      if c.peek ≠ some '>' then throw .yaml
      pure (none, text, c.next)
    else if isFree (c.ahead 1) then pure (none, "!", c.next)
    else do
      let word := c.next.rest.takeWhile fun ch => ch ≠ ' ' && !isBreak ch
      let (handle, c) ← if word.contains '!' then readHandle c else pure ("!", c.next)
      let (text, c) ← readTagText c
      pure (some handle, text, c)
  if !isBlankOrLineEnd c.peek then throw .yaml
  return (.tag handle suffix, c)

/-- Whether a name may end before a character. -/
def endsName : Option Char → Bool
  | none => true
  | some c => isSpace c || ['?', ':', ',', ']', '}', '%', '@', '\x60'].contains c

/-- Reads the name of an anchor or an alias behind its indicator. -/
def readName (c : Cursor) : Except Failure (String × Cursor) :=
  let (name, c) := c.next.span isNameChar
  if name.isEmpty || !endsName c.peek then .error .yaml else .ok (String.ofList name, c)

def readVersionPart (c : Cursor) : Except Failure (Nat × Cursor) :=
  let (digits, c) := c.span Char.isDigit
  if digits.isEmpty then .error .yaml else .ok (Nat.ofDigitChars 10 digits 0, c)

def readDirectiveValue (name : String) (c : Cursor) : Except Failure (Directive × Cursor) :=
  if name = "YAML" then do
    let (major, c) ← readVersionPart c.skipBlanks
    if c.peek ≠ some '.' then throw .yaml
    let (minor, c) ← readVersionPart c.next
    if !isBlankOrLineEnd c.peek then throw .yaml
    return (.version major minor, c)
  else if name = "TAG" then do
    let (handle, c) ← readHandle c.skipBlanks
    if c.peek ≠ some ' ' then throw .yaml
    let (beginning, c) ← readTagText c.skipBlanks
    if !isBlankOrLineEnd c.peek then throw .yaml
    return (.shorthand handle beginning, c)
  else .ok (.reserved, c.skipWhile (!isBreak ·))

def readDirective (c : Cursor) : Except Failure (Token × Cursor) := do
  let (name, c) := c.next.span isNameChar
  if name.isEmpty || !isBlankOrLineEnd c.peek then throw .yaml
  let (d, c) ← readDirectiveValue (String.ofList name) c
  return (.directive d, ← c.finishLine)

end Watchgate.Yaml
