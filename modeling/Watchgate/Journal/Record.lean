import Watchgate.Journal.Template
import Watchgate.Journal
import Watchgate.Text.Word
import Watchgate.Text.Basic

/-!
# Records and how they are shown

A record is an entry before it is written: a template with its values, and attributes such as the ids
of the request that it belongs to. In a file a record is a JSON object. On a console it is a line, and
colours set off grave lines, or the label of a line from what follows it.
-/

namespace Watchgate

/-- An entry that is not written yet. -/
structure Record where
  level : String
  /-- What it says, with places to fill in. -/
  template : String
  values : List Value := []
  attributes : Entries := []

namespace Record

/-- The attribute under which the id of the request stands. -/
def requestId : String := "request_id"

/-- The attribute under which the id of the message stands. -/
def correlationId : String := "correlation_id"

/-- The attribute of records that go to a console. -/
def console : String := "is_console"

/-- Gives an attribute its standard value. -/
def withStandard (r : Record) (name : String) (v : Value) : Record :=
  if (Entries.get? r.attributes name).isSome then r
  else { r with attributes := r.attributes ++ [(name, v)] }

/-- Without ids the ids are empty. -/
def withIds (r : Record) : Record :=
  (r.withStandard requestId (.text "")).withStandard correlationId (.text "")

/-- Marks a record that goes to a console. -/
def forConsole (r : Record) : Record :=
  { r with attributes := Entries.put r.attributes console (.bool true) }

/-- What fills the places: a single mapping that is not empty gives values by name. -/
def filling (r : Record) : Filling :=
  match r.values with
  | [.map (e :: entries)] => .byName (e :: entries)
  | values => .inTurn values

/-- What the record says. Without values nothing is filled in. -/
def text (r : Record) : Except Failure String :=
  if r.values.isEmpty then .ok r.template else Template.fill r.template r.filling

def attributeOr (r : Record) (name : String) : Value :=
  (Entries.get? r.attributes name).getD (.text "")

def encode (r : Record) : Except Failure Value := do
  return .map [
    ("lvl", .text r.level),
    ("msg", .text (← r.text)),
    ("rid", r.attributeOr requestId),
    ("cid", r.attributeOr correlationId)]

/-! ## On a console -/

/-- The ranks of levels, as layouts show them. -/
def ranks : List (String × Nat) :=
  [("NOTSET", 0), ("DEBUG", 10), ("INFO", 20), ("WARNING", 30), ("ERROR", 40), ("CRITICAL", 50)]

/-- What a layout may show. -/
def shown (r : Record) (text : String) : Entries :=
  [("name", .text "root"), ("levelname", .text r.level),
    ("levelno", .int ((ranks.lookup r.level).getD 0)), ("msg", .text r.template),
    ("args", .list r.values), ("message", .text text)] ++ r.attributes

/-- Whether a place of a layout starts here: a name, flags, a width, a precision and a letter. -/
def isField (cs : List Char) : Bool :=
  match cs with
  | '%' :: '(' :: rest =>
    let name := rest.takeWhile Text.isWordChar
    match rest.dropWhile Text.isWordChar with
    | ')' :: rest =>
      let count (cs : List Char) : List Char :=
        match cs with
        | '*' :: cs => cs
        | cs => cs.dropWhile Text.isDecimal
      let rest := count (rest.dropWhile ("#0+ -".toList.contains ·))
      let rest := match rest with
        | '.' :: '*' :: more => more
        | '.' :: d :: more => if Text.isDecimal d then count more else rest
        | _ => rest
      !name.isEmpty && (rest.head?.map ("diouxefgcrsa%".toList.contains ·)).getD false
    | _ => false
  | _ => false

/-- Whether a layout shows anything. -/
def isLayout : List Char → Bool
  | [] => false
  | c :: cs => isField (c :: cs) || isLayout cs

/-- The record laid out. An empty layout shows what the record says. -/
def layOut (r : Record) (layout : String) : Except Failure String := do
  let layout := if layout.isEmpty then "%(message)s" else layout
  if !isLayout layout.toList then throw (.value .badFormat)
  match Template.fill layout (.byName (r.shown (← r.text))) with
  | .ok s => return s
  | .error (.missingKey _) => throw (.value .badFormat)
  | .error e => throw e

def startColour (code : String) : String := "\x1b[" ++ code ++ "m"

def yellow : String := startColour "93"

def red : String := startColour "91"

def cyan : String := startColour "96"

def blue : String := startColour "94"

def inColour (colour s : String) : String := colour ++ s ++ startColour "0"

/-- The colours of grave levels. -/
def levelColours : List (String × String) :=
  [("WARNING", yellow), ("ERROR", red), ("CRITICAL", red)]

/-- The rest of a line, if nothing follows it but a line end. -/
def lineRest? (cs : List Char) : Option (List Char) :=
  match cs.dropWhile (· ≠ '\n') with
  | [] => some cs
  | ['\n'] => some (cs.takeWhile (· ≠ '\n'))
  | _ => none

/-- The label before the first colon with a blank behind it, and the rest of the line. -/
def labelled? : List Char → Option (List Char × List Char)
  | [] => none
  | c :: cs =>
    let here : Option (List Char × List Char) := match c, cs with
      | ':', b :: rest => if Text.isBlank b then (lineRest? rest).map ([], ·) else none
      | _, _ => none
    match here with
    | some found => some found
    | none =>
      if c = '\n' then none
      else (labelled? cs).map fun (label, rest) => (c :: label, rest)

/-- The line on a console. -/
def colour (level line : String) : String :=
  match levelColours.lookup level with
  | some colour => inColour colour line
  | none =>
    match labelled? line.toList with
    | some (label, rest) =>
      inColour cyan (String.ofList label) ++ ": " ++ inColour blue (String.ofList rest)
    | none => line

/-- The record as a line; only on a console it is in colour. -/
def line (r : Record) (layout : String) : Except Failure String := do
  let s ← r.layOut layout
  return if ((Entries.get? r.attributes console).getD .null).truthy then colour r.level s else s

end Record

end Watchgate
