import Watchgate.Value.Basic
import Watchgate.Number.Shortest
import Watchgate.Number.IntegerText
import Watchgate.Text.Printable

/-!
# Values as text

Messages show a text as it is and every other value in source form: `None`, `True`, integers in
full, doubles in their shortest form, lists in brackets and mappings in braces, with the texts
inside them quoted. A quoted text stands between single quotes unless it holds a single quote and
no double quote; backslashes, the quote itself and characters without a form of their own are
escaped.
-/

namespace Watchgate

open Number Text

/-- The `width` lowest hexadecimal digits of a number. -/
def hexDigits (width n : Nat) : List Char :=
  (List.range width).reverse.map fun i => Nat.digitChar (n / Nat.pow 16 i % 16)

/-- One character inside a text quoted by `quote`. -/
def quotedChar (quote c : Char) : List Char :=
  if c = quote || c = '\\' then ['\\', c]
  else if c = '\t' then ['\\', 't']
  else if c = '\n' then ['\\', 'n']
  else if c = '\r' then ['\\', 'r']
  else if isPrintable c then [c]
  else if c.toNat < 0x100 then ['\\', 'x'] ++ hexDigits 2 c.toNat
  else if c.toNat < 0x10000 then ['\\', 'u'] ++ hexDigits 4 c.toNat
  else ['\\', 'U'] ++ hexDigits 8 c.toNat

def quoted (s : String) : String :=
  let cs := s.toList
  let quote := if cs.contains '\'' && !cs.contains '"' then '"' else '\''
  String.ofList (quote :: cs.flatMap (quotedChar quote) ++ [quote])

namespace Value

mutual

def source : Value → String
  | .null => "None"
  | .bool b => if b then "True" else "False"
  | .int n => integerText n
  | .real x => x.text
  | .text s => quoted s
  | .list items => "[" ++ ", ".intercalate (sourceItems items) ++ "]"
  | .map entries => "\x7b" ++ ", ".intercalate (sourceEntries entries) ++ "\x7d"

def sourceItems : List Value → List String
  | [] => []
  | v :: vs => source v :: sourceItems vs

def sourceEntries : Entries → List String
  | [] => []
  | (k, v) :: rest => (quoted k ++ ": " ++ source v) :: sourceEntries rest

end

/-- The value as messages show it: a text as it is, all else in source form. -/
def display : Value → String
  | .text s => s
  | v => source v

@[simp] theorem display_text (s : String) : display (.text s) = s := rfl

end Value

end Watchgate
