import Watchgate.Value.Display

/-!
# Writing JSON

A value as a JSON text on one line, in ASCII. A blank follows each comma and each colon; quotes,
backslashes and all characters that are not printed in ASCII are escaped.
-/

namespace Watchgate.Json

open Number

/-- A character beyond the common escapes by its number: as one unit of 16 bits, or as two. -/
def numberedChar (n : Nat) : List Char :=
  if n < 0x10000 then ['\\', 'u'] ++ hexDigits 4 n
  else ['\\', 'u'] ++ hexDigits 4 (0xD800 + (n - 0x10000) / 0x400)
    ++ ['\\', 'u'] ++ hexDigits 4 (0xDC00 + (n - 0x10000) % 0x400)

/-- One character inside a JSON text. -/
def textChar (c : Char) : List Char :=
  if c = '"' then ['\\', '"']
  else if c = '\\' then ['\\', '\\']
  else if c = '\n' then ['\\', 'n']
  else if c = '\r' then ['\\', 'r']
  else if c = '\t' then ['\\', 't']
  else if c.toNat = 8 then ['\\', 'b']
  else if c.toNat = 12 then ['\\', 'f']
  else if 32 ≤ c.toNat && c.toNat < 127 then [c]
  else numberedChar c.toNat

def writeText (s : String) : String :=
  "\"" ++ String.ofList (s.toList.flatMap textChar) ++ "\""

mutual

def write : Value → String
  | .null => "null"
  | .bool b => if b then "true" else "false"
  | .int n => integerText n
  | .real .notANumber => "NaN"
  | .real (.infinite negative) => if negative then "-Infinity" else "Infinity"
  | .real x => x.text
  | .text s => writeText s
  | .list items => "[" ++ ", ".intercalate (writeItems items) ++ "]"
  | .map entries => "\x7b" ++ ", ".intercalate (writeEntries entries) ++ "\x7d"

def writeItems : List Value → List String
  | [] => []
  | v :: vs => write v :: writeItems vs

def writeEntries : Entries → List String
  | [] => []
  | (k, v) :: rest => (writeText k ++ ": " ++ write v) :: writeEntries rest

end

end Watchgate.Json
