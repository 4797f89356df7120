import Watchgate.Failure
import Watchgate.Value.Order

/-!
# Reading values

How free-form data is taken as what a field asks for. An integer may be given as a number, a truth
value or a text; a double loses its fraction. The items of a list are its items, of a text its
characters and of a mapping its keys.
-/

namespace Watchgate

open Number (Binary64)

namespace Value

def integerOfText (s : String) : Except Failure Int :=
  match Number.readInteger s with
  | .ok n => .ok n
  | .error .malformed => .error (.value (.notInteger s))
  | .error (.tooLong n) => .error (.value (.tooManyDigits n))

def toInteger : Value → Except Failure Int
  | .int n => .ok n
  | .bool b => .ok (if b then 1 else 0)
  | .real x =>
    match x with
    | .finite .. => .ok (x.truncate?.getD 0)
    | .infinite _ => .error .outOfRange
    | .notANumber => .error (.value .notANumber)
  | .text s => integerOfText s
  | v => .error (.kind (.notInteger v.kind))

/-- What one goes through when going through the value. -/
def toItems : Value → Except Failure (List Value)
  | .list items => .ok items
  | .text s => .ok (s.toList.map fun c => .text (String.singleton c))
  | .map entries => .ok (entries.map fun e => .text e.1)
  | v => .error (.kind (.notIterable v.kind))

/-- The items of a value that counts as false when there are none. -/
def toItemsOrNone (v : Value) : Except Failure (List Value) :=
  if v.truthy then v.toItems else .ok []

/-- A single value as a list of one, nothing as an empty list. -/
def toListOfOne : Value → List Value
  | .null => []
  | .list items => items
  | v => [v]

/-- The entries of a mapping, by whose keys the caller is going to read. -/
def toEntries : Value → Except Failure Entries
  | .map entries => .ok entries
  | v => .error (.noAttribute ("'" ++ v.kind ++ "' object") "get")

/-- The value of a mandatory key. -/
def require (entries : Entries) (key : String) : Except Failure Value :=
  match Entries.get? entries key with
  | some v => .ok v
  | none => .error (.missingKey (.text key))

/-- What stands under a mandatory key of a value that ought to be a mapping. -/
def subscript (v : Value) (key : String) : Except Failure Value :=
  match v with
  | .map entries => require entries key
  | .list _ => .error (.kind (.listIndex "str"))
  | .text _ => .error (.kind (.textIndex "str"))
  | v => .error (.kind (.notSubscriptable v.kind))

/-- The text under which a scalar serves as a key. -/
def keyText : Value → String
  | .null => "null"
  | .bool b => if b then "true" else "false"
  | v => v.display

/-- One entry of a mapping given as a list of pairs. -/
def toPair (index : Nat) (v : Value) : Except Failure (String × Value) := do
  let parts ← match v.toItems with
    | .ok parts => .ok parts
    | .error _ => .error (.kind (.notPair index))
  match parts with
  | [k, x] =>
    if k.hashable then .ok (k.keyText, x) else .error (.kind (.unhashable k.kind))
  | _ => .error (.value (.pairLength index parts.length))

/-- The entries of a list of pairs, the first of which has position `index`. -/
def toPairs (index : Nat) : List Value → Except Failure (List (String × Value))
  | [] => .ok []
  | v :: vs => do
    let p ← toPair index v
    let ps ← toPairs (index + 1) vs
    return p :: ps

/-- The value as a mapping: a mapping itself, or a list of pairs. -/
def toMapping : Value → Except Failure Entries
  | .map entries => .ok entries
  | v => do
    let items ← v.toItems
    let pairs ← toPairs 0 items
    return Entries.ofPairs pairs

def isOneOf (v : Value) (names : List String) : Bool :=
  match v with
  | .text s => names.contains s
  | _ => false

theorem text_of_isOneOf {v : Value} {names : List String} (h : v.isOneOf names = true) :
    ∃ t ∈ names, v = .text t := by
  cases v with
  | text t => exact ⟨t, by simpa [isOneOf] using h, rfl⟩
  | _ => cases h

/-- Whether the value can be read as a double. -/
def checkReal : Value → Except Failure Unit
  | .int n => if n.natAbs.log2 < 1024 then .ok () else .error .outOfRange
  | .bool _ => .ok ()
  | .real _ => .ok ()
  | .text s => if readsAsReal s then .ok () else .error (.value (.notReal s))
  | v => .error (.kind (.notReal v.kind))
where
  /-- Digits with single underscores between them; the rest after the longest such run. -/
  digits (afterDigit : Bool) : List Char → Option (List Char)
    | [] => if afterDigit then some [] else none
    | c :: cs =>
      if (Text.decimalValue? c).isSome then digits true cs
      else if c = '_' && afterDigit && (cs.head?.any fun d => (Text.decimalValue? d).isSome) then
        digits false cs
      else if afterDigit then some (c :: cs) else none
  exponent : List Char → Bool
    | [] => true
    | e :: cs =>
      (e = 'e' || e = 'E') &&
        (match cs with
          | '+' :: ds => digits false ds = some []
          | '-' :: ds => digits false ds = some []
          | ds => digits false ds = some [])
  unsigned (cs : List Char) : Bool :=
    let name := String.ofList (cs.map Char.toLower)
    if name = "inf" || name = "infinity" || name = "nan" then true
    else match cs with
      | '.' :: rest =>
        (match digits false rest with
          | some rest => exponent rest
          | none => false)
      | _ =>
        match digits false cs with
        | some ('.' :: rest) =>
          exponent rest ||
            (match digits false rest with
              | some rest => exponent rest
              | none => false)
        | some rest => exponent rest
        | none => false
  /-- A number text with blanks around it and a sign. -/
  readsAsReal (s : String) : Bool :=
    match Text.trimChars s.toList with
    | '-' :: cs => unsigned cs
    | '+' :: cs => unsigned cs
    | cs => unsigned cs

end Value

end Watchgate
