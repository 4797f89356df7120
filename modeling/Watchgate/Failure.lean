import Watchgate.Value.Display

/-!
# What can go wrong

Every operation that can fail says why by one of the causes below. `Failure.message` words a cause
where a log line or an answer shows it.
-/

namespace Watchgate

/-- A value of the wrong kind, named where the message names it. -/
inductive KindFault where
  /-- Something that has no items was gone through. -/
  | notIterable (kind : String)
  /-- Something that holds nothing was searched. -/
  | notContainer (kind : String)
  /-- Something that is neither number nor text was read as an integer. -/
  | notInteger (kind : String)
  /-- Something that is neither number nor text was read as a double. -/
  | notReal (kind : String)
  /-- A list was asked for a name. -/
  | listIndex (kind : String)
  /-- A text was asked for a name. -/
  | textIndex (kind : String)
  /-- Something without parts was asked for one. -/
  | notSubscriptable (kind : String)
  /-- A list or mapping was used as a member of a set. -/
  | unhashable (kind : String)
  /-- Two values without a common order were compared. -/
  | unordered (sign left right : String)
  /-- An entry of a list of pairs is not a pair of anything. -/
  | notPair (index : Nat)
  /-- Two texts with characters beyond ASCII were compared in constant time. -/
  | notAscii
  /-- A template asks for more values than there are. -/
  | tooFewArguments
  /-- A template asks for fewer values than there are. -/
  | leftoverArguments
  /-- A template names a value, and the values have no names. -/
  | notNamed
  /-- A value cannot be written in the way that a template asks for. -/
  | notWritable (letter : Char) (kind : String)
deriving DecidableEq, Repr

/-- A value of the right kind that cannot be used. -/
inductive ValueFault where
  | notInteger (text : String)
  /-- An integer text has more digits than are read. -/
  | tooManyDigits (digits : Nat)
  | notReal (text : String)
  /-- A double that is no number was read as an integer. -/
  | notANumber
  /-- An entry of a list of pairs has another length than two. -/
  | pairLength (index length : Nat)
  /-- A year lies outside the calendar. -/
  | year (year : Int)
  /-- Evaluation in parallel was asked for without workers. -/
  | noWorkers
  | unknownLevel (level : String)
  | badFormat
  | flagClash
  | negativeCount
  | codePoint
  /-- The calendar has no such day, or the day no such time. -/
  | noSuchDay
deriving DecidableEq, Repr

/-- Where and why a JSON text stops being one. -/
structure JsonFault where
  reason : String
  /-- Line, counted from one. -/
  line : Nat
  /-- Column, counted from one. -/
  column : Nat
  /-- Characters before the place. -/
  offset : Nat
deriving DecidableEq, Repr

/-- Why a text is no condition tree. -/
inductive ConditionFault where
  | notMapping (kind : String)
  | childrenNotList
  | groupOperator (shown : String)
  /-- A leaf has no field name. -/
  | emptyField
  /-- A node is neither group nor leaf. -/
  | shapeless
deriving DecidableEq, Repr

/-- Why a quota is refused. -/
inductive QuotaFault where
  /-- The content type is neither movie nor show. -/
  | contentType (shown : String)
  | period (shown : String)
  /-- The limit is no integer from 0 to the highest one. -/
  | limit
  /-- A stored quota has a period without a window. -/
  | unknownPeriod (shown : String)
deriving DecidableEq, Repr

/-- Why the store refused an operation. -/
inductive StorageFault where
  | unknownUser (id : Int)
  | unknownTarget (rule targetType : String) (id : Int)
  | unknownRule (shown : String)
  /-- The user has a live request for this content. -/
  | duplicate (id user : Int) (key status : String)
  /-- The database itself refused. -/
  | database
  /-- The store was out of order. -/
  | outage (reason : String)
deriving DecidableEq, Repr

/-- How an exchange with a media server failed. -/
inductive ExchangeFault where
  /-- The server answered with an error status and this reason phrase. -/
  | status (code : Int) (phrase url : String)
  /-- The exchange broke off; `kind` names the way. -/
  | broken (kind reason : String)
  | body (fault : JsonFault)
deriving DecidableEq, Repr

/-- The causes of failure. -/
inductive Failure where
  | condition (fault : ConditionFault)
  | quota (fault : QuotaFault)
  | requestNotFound (id : Int)
  | profileNotFound (profile service : String)
  | storage (fault : StorageFault)
  | kind (fault : KindFault)
  | value (fault : ValueFault)
  | json (fault : JsonFault)
  | yaml
  | missingKey (key : Value)
  /-- A text is too short to have the character that is asked for. -/
  | missingPlace
  /-- An attribute was asked of something that has none such. -/
  | noAttribute (owner name : String)
  /-- A date outside the calendar, or an integer too large to be stored. -/
  | outOfRange
  | exchange (fault : ExchangeFault)
  | unforeseen (reason : String)
  /-- The process ends with this status. -/
  | exit (code : Int)
deriving DecidableEq, Repr

def KindFault.message : KindFault → String
  | .notIterable k => "'" ++ k ++ "' object is not iterable"
  | .notContainer k => "argument of type '" ++ k ++ "' is not iterable"
  | .notInteger k =>
    "int() argument must be a string, a bytes-like object or a real number, not '" ++ k ++ "'"
  | .notReal k => "float() argument must be a string or a real number, not '" ++ k ++ "'"
  | .listIndex k => "list indices must be integers or slices, not " ++ k
  | .textIndex k => "string indices must be integers, not '" ++ k ++ "'"
  | .notSubscriptable k => "'" ++ k ++ "' object is not subscriptable"
  | .unhashable k => "unhashable type: '" ++ k ++ "'"
  | .unordered sign l r =>
    "'" ++ sign ++ "' not supported between instances of '" ++ l ++ "' and '" ++ r ++ "'"
  | .notPair i =>
    "cannot convert dictionary update sequence element #" ++ toString i ++ " to a sequence"
  | .notAscii => "comparing strings with non-ASCII characters is not supported"
  | .tooFewArguments => "not enough arguments for format string"
  | .leftoverArguments => "not all arguments converted during string formatting"
  | .notNamed => "format requires a mapping"
  | .notWritable letter k => "%" ++ letter.toString ++ " format: a number is required, not " ++ k

def ValueFault.message : ValueFault → String
  | .notInteger s => "invalid literal for int() with base 10: " ++ quoted s
  | .tooManyDigits n =>
    "Exceeds the limit (4300 digits) for integer string conversion: value has " ++ toString n
      ++ " digits; use sys.set_int_max_str_digits() to increase the limit"
  | .notReal s => "could not convert string to float: " ++ quoted s
  | .notANumber => "cannot convert float NaN to integer"
  | .pairLength i n =>
    "dictionary update sequence element #" ++ toString i ++ " has length " ++ toString n
      ++ "; 2 is required"
  | .year y => "year " ++ Number.integerText y ++ " is out of range"
  | .noWorkers => "max_workers must be greater than 0"
  | .unknownLevel level => "Unknown level: " ++ quoted level
  | .badFormat => "incomplete format"
  | .flagClash => "ASCII and UNICODE flags are incompatible"
  | .negativeCount => "negative argument not allowed"
  | .codePoint => "chr() arg not in range(0x110000)"
  | .noSuchDay => "day is out of range for month"

/-- The wording of a malformed JSON text. -/
def JsonFault.message (f : JsonFault) : String :=
  f.reason ++ ": line " ++ toString f.line ++ " column " ++ toString f.column ++ " (char "
    ++ toString f.offset ++ ")"

/-- The wording of a malformed condition tree. -/
def ConditionFault.message : ConditionFault → String
  | .notMapping k => "Condition node must be a mapping, got " ++ k
  | .childrenNotList => "Condition group 'conditions' must be a list"
  | .groupOperator s => "Condition group operator must be AND or OR, got '" ++ s ++ "'"
  | .emptyField => "Condition field must be a non-empty string"
  | .shapeless => "Condition node needs either 'conditions' or 'field'/'operator'/'value'"

def QuotaFault.message : QuotaFault → String
  | .contentType s => "Quota content_type must be one of movie, show, got '" ++ s ++ "'"
  | .period s => "Quota type must be one of daily, weekly_rolling, monthly, got '" ++ s ++ "'"
  | .limit => "Quota limit must be an integer between 0 and 1000"
  | .unknownPeriod s => "Unknown quota type '" ++ s ++ "'"

/-- The wording of a refusal by the store. -/
def StorageFault.message : StorageFault → String
  | .unknownUser id => "User " ++ Number.integerText id ++ " does not exist"
  | .unknownTarget rule targetType id =>
    "Rule '" ++ rule ++ "' targets unknown " ++ targetType ++ " instance " ++ Number.integerText id
  | .unknownRule shown => "Router rule " ++ shown ++ " does not exist"
  | .duplicate id user key status =>
    "Approval request " ++ Number.integerText id ++ " already exists for user "
      ++ Number.integerText user ++ " and '" ++ key ++ "' (" ++ status ++ ")"
  | .database => ""
  | .outage reason => reason

def ExchangeFault.message : ExchangeFault → String
  | .status code phrase url =>
    Number.integerText code ++ (if code < 500 then " Client" else " Server") ++ " Error: " ++ phrase
      ++ " for url: " ++ url
  | .broken _ reason => reason
  | .body fault => fault.message

def Failure.message : Failure → String
  | .condition f => f.message
  | .quota f => f.message
  | .requestNotFound id => "Approval request " ++ Number.integerText id ++ " not found"
  | .profileNotFound p service => "Quality profile '" ++ p ++ "' not found on " ++ service
  | .storage f => f.message
  | .kind f => f.message
  | .value f => f.message
  | .json f => f.message
  | .yaml => "not a YAML document"
  | .missingPlace => "string index out of range"
  | .missingKey key => key.source
  | .noAttribute owner a => owner ++ " has no attribute '" ++ a ++ "'"
  | .outOfRange => "date value out of range"
  | .exchange f => f.message
  | .unforeseen reason => reason
  | .exit code => Number.integerText code

end Watchgate
