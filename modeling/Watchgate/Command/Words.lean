import Watchgate.Number.IntegerText

/-!
# Words of a command line

Options start with hyphens. A long option may be cut short as long as only one fits, and has its value
behind an equals sign or in the next word; a short option may have it in the same word. Two hyphens
alone say that no options follow. Which words are options is settled before any of them has an effect,
so a word that two long options fit is a misuse wherever it stands.
-/

namespace Watchgate.Command

/-- How reading a command line can end early. -/
inductive Stop where
  | help
  | misuse
deriving DecidableEq, Repr

/-- The status with which the process ends then. -/
def Stop.status : Stop → Int
  | .help => 0
  | .misuse => 2

structure Option_ where
  /-- The ways to write it, hyphens included. -/
  names : List String
  hasValue : Bool := true
  /-- Whether a value is fit for it. -/
  accepts : String → Bool := fun _ => true

def helpOption : Option_ := { names := ["-h", "--help"], hasValue := false }

inductive Word where
  | plain (text : String)
  | divider
  /-- An option, as it is spelled, with the value in the same word. -/
  | option (option : Option_) (name : String) (value : Option String)
  /-- Something with hyphens that fits no option. -/
  | unknown

/-- The text before and behind the first equals sign. -/
def cutAtEquals (s : String) : String × Option String :=
  let cs := s.toList
  if cs.contains '=' then
    (String.ofList (cs.takeWhile (· ≠ '=')), some (String.ofList ((cs.dropWhile (· ≠ '=')).drop 1)))
  else (s, none)

def named? (options : List Option_) (name : String) : Option Option_ :=
  options.find? (·.names.contains name)

def allNames (options : List Option_) : List (String × Option_) :=
  options.flatMap fun o => o.names.map (·, o)

/-- The options that a word may be short for, or may start with. -/
def candidates (options : List Option_) (s : String) : List Word :=
  if s.startsWith "--" then
    let (start, value) := cutAtEquals s
    (allNames options).filterMap fun (name, o) =>
      if name.startsWith start then some (.option o name value) else none
  else
    let start := String.ofList (s.toList.take 2)
    (allNames options).filterMap fun (name, o) =>
      if name = start then some (.option o name (some (String.ofList (s.toList.drop 2))))
      else if name.startsWith s then some (.option o name none)
      else none

def isNegativeNumber (s : String) : Bool :=
  match s.toList with
  | '-' :: cs =>
    let whole := cs.takeWhile Text.isDecimal
    match cs.dropWhile Text.isDecimal with
    | [] => !whole.isEmpty
    | '.' :: fraction => !fraction.isEmpty && fraction.all Text.isDecimal
    | _ => false
  | _ => false

/-- What a word is, if it is not a divider. -/
def classify (options : List Option_) (s : String) : Except Stop Word :=
  let (start, value) := cutAtEquals s
  if !s.startsWith "-" || s = "-" then .ok (.plain s)
  else match named? options s, named? options start with
    | some o, _ => .ok (.option o s none)
    | none, some o => .ok (.option o start value)
    | none, none =>
      match candidates options s with
      | [w] => .ok w
      | _ :: _ :: _ => .error .misuse
      | [] => .ok (if isNegativeNumber s || s.toList.contains ' ' then .plain s else .unknown)

/-- What words are; behind the divider all are plain. -/
def classifyAll (options : List Option_) : List String → Except Stop (List Word)
  | [] => .ok []
  | s :: rest => do
    if s = "--" then return .divider :: rest.map .plain
    return (← classify options s) :: (← classifyAll options rest)

/-- What is known about a command line. -/
structure Settings where
  /-- The options that were given, by their last name, with their values, oldest first. -/
  given : List (String × String) := []
  /-- Whether there was a word that nothing can be done with. -/
  hasExtra : Bool := false

/-- The last name of an option, under which its value is kept. -/
def Option_.key (o : Option_) : String := o.names.getLastD ""

def Settings.give (s : Settings) (o : Option_) (value : String) : Except Stop Settings :=
  if o.accepts value then .ok { s with given := s.given ++ [(o.key, value)] } else .error .misuse

/-- The value that was given last. -/
def Settings.value? (s : Settings) (key : String) : Option String :=
  (s.given.reverse.find? (·.1 = key)).map Prod.snd

/-- An option without a value of its own: short ones may stand in one word, one behind the other. The
last of them may have a value, which is what is left of the word, or else the next one. `asked` says
that help was asked for on the way; it is given once the word is found to make sense. -/
def takeOption (options : List Option_) (s : Settings) (asked : Bool) (o : Option_)
    (name : String) (value : Option (List Char)) (rest : List Word) :
    Except Stop (Settings × List Word) :=
  match value with
  | none =>
    if !o.hasValue then .error .help
    else match rest with
      | .plain v :: rest => if asked then .error .help else do return (← s.give o v, rest)
      | _ => .error .misuse
  | some cs =>
    if o.hasValue then
      if asked then .error .help else do return (← s.give o (String.ofList cs), rest)
    else match cs with
      | [] => .error .misuse
      | c :: cs =>
        let next := String.ofList ['-', c]
        match named? options next with
        | none => .error .misuse
        | some o' =>
          if name.startsWith "--" then .error .misuse
          else match cs with
            | [] => takeOption options s true o' next none rest
            | d :: ds => takeOption options s true o' next (some (d :: ds)) rest
termination_by (value.map List.length).elim 0 (· + 1)
decreasing_by all_goals simp

/-- Goes through the words up to the first plain one, if that is a command; otherwise to the end. -/
def takeWords (options : List Option_) (stopsAtPlain : Bool) :
    Nat → Settings → List Word → Except Stop (Settings × List Word)
  | 0, s, ws => .ok (s, ws)
  | _ + 1, s, [] => .ok (s, [])
  | rounds + 1, s, w :: ws =>
    match w with
    | .plain _ =>
      if stopsAtPlain then .ok (s, w :: ws)
      else takeWords options stopsAtPlain rounds { s with hasExtra := true } ws
    | .divider =>
      if stopsAtPlain then .error .misuse
      else takeWords options stopsAtPlain rounds { s with hasExtra := true } ws
    | .unknown => takeWords options stopsAtPlain rounds { s with hasExtra := true } ws
    | .option o name value => do
      let (s, ws) ← takeOption options s false o name (value.map String.toList) ws
      takeWords options stopsAtPlain rounds s ws

end Watchgate.Command
