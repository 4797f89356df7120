import Watchgate.Json.Reader
import Watchgate.Text.Basic

/-!
# Messages over HTTP

What comes in: method, path, query, headers and a body; and what goes out: a value, a plain text, or
nothing but a status. Paths and queries are written with percent signs for what cannot stand in them.
-/

namespace Watchgate.Web

/-- What comes in. -/
structure Message where
  method : String
  path : String
  /-- Names and values of the query, in order. -/
  query : List (String × String) := []
  headers : List (String × String) := []
  body : String := ""

/-- What goes out. -/
inductive Answer where
  | json (status : Nat) (value : Value)
  | text (status : Nat) (text : String)
  /-- A status alone. -/
  | bare (status : Nat)
deriving Inhabited

def Answer.status : Answer → Nat
  | .json status _ => status
  | .text status _ => status
  | .bare status => status

/-- The bytes of a text in which percent signs stand before two hexadecimal digits. -/
def unescapedBytes : List Char → List UInt8
  | [] => []
  | '%' :: a :: b :: rest =>
    match Json.hexValue? a, Json.hexValue? b with
    | some x, some y => UInt8.ofNat (16 * x + y) :: unescapedBytes rest
    | _, _ => '%'.toNat.toUInt8 :: unescapedBytes (a :: b :: rest)
  | c :: rest => (String.singleton c).toUTF8.toList ++ unescapedBytes rest
termination_by cs => cs.length

/-- A text without percent signs for other characters; a text that writes no characters stays. -/
def unescape (cs : List Char) : String :=
  (String.fromUTF8? ⟨(unescapedBytes cs).toArray⟩).getD (String.ofList cs)

/-- The pieces between separators. -/
def splitAt (separator : Char) : List Char → List (List Char)
  | [] => [[]]
  | c :: cs =>
    if c = separator then [] :: splitAt separator cs
    else match splitAt separator cs with
      | [] => [[c]]
      | piece :: pieces => (c :: piece) :: pieces

/-- A piece of a query: blanks are written as plus signs. -/
def queryText (cs : List Char) : String :=
  unescape (cs.map fun c => if c = '+' then ' ' else c)

def queryField (cs : List Char) : String × String :=
  (queryText (cs.takeWhile (· ≠ '=')), queryText ((cs.dropWhile (· ≠ '=')).drop 1))

def readQuery (cs : List Char) : List (String × String) :=
  ((splitAt '&' cs).filter (!·.isEmpty)).map queryField

/-- A message to a target: a path, and a query after a question mark. -/
def Message.ofTarget (method target : String) (headers : List (String × String)) (body : String) :
    Message :=
  let cs := target.toList
  { method, headers, body
    path := unescape (cs.takeWhile (· ≠ '?'))
    query := readQuery ((cs.dropWhile (· ≠ '?')).drop 1) }

namespace Message

/-- A text in small ASCII letters, as header names are compared. -/
def small (s : String) : String := String.ofList (s.toList.map Char.toLower)

/-- The value of a header; the case of its name does not matter. -/
def header? (m : Message) (name : String) : Option String :=
  (m.headers.find? fun h => small h.1 = small name).map Prod.snd

/-- The value of a field of the query, the first if there are several. -/
def field? (m : Message) (name : String) : Option String :=
  m.query.lookup name

/-- The type of the body, without its parameters. -/
def bodyType (m : Message) : String :=
  let type := (m.header? "Content-Type").getD ""
  small (Text.trim (String.ofList (type.toList.takeWhile (· ≠ ';'))))

/-- Whether the body says that it is JSON. -/
def isJson (m : Message) : Bool :=
  m.bodyType = "application/json"
    || (m.bodyType.startsWith "application/" && m.bodyType.endsWith "+json")

/-- The body as JSON; null where it is none. -/
def value (m : Message) : Value :=
  (Json.read m.body).toOption.getD .null

end Message

end Watchgate.Web
