import Watchgate.Journal
import Watchgate.Failure
import Watchgate.Text.CaseMap

/-!
# Thresholds of the journal

From which level on entries are kept. A threshold has a name and a rank; some names mean the same.
-/

namespace Watchgate

def Level.rank : Level → Nat
  | .info => 20
  | .warning => 30
  | .error => 40
  | .critical => 50

/-- A rank below which entries are dropped. -/
structure Threshold where
  name : String
  rank : Nat
deriving DecidableEq, Repr

namespace Threshold

/-- The threshold unless one is set. -/
def standard : Threshold := ⟨"INFO", 20⟩

def named : List (String × Threshold) :=
  [("CRITICAL", ⟨"CRITICAL", 50⟩), ("FATAL", ⟨"CRITICAL", 50⟩), ("ERROR", ⟨"ERROR", 40⟩),
    ("WARN", ⟨"WARNING", 30⟩), ("WARNING", ⟨"WARNING", 30⟩), ("INFO", ⟨"INFO", 20⟩),
    ("DEBUG", ⟨"DEBUG", 10⟩), ("NOTSET", ⟨"NOTSET", 0⟩)]

/-- The threshold that a word sets; the case does not matter, and an empty one sets none. -/
def ofWord (standard : Threshold) (word : String) : Except Failure Threshold :=
  if word.isEmpty then .ok standard
  else match named.lookup (Text.upperAscii word) with
    | some t => .ok t
    | none => .error (.value (.unknownLevel word))

def keeps (t : Threshold) (e : Entry) : Bool := t.rank ≤ e.level.rank

def filter (t : Threshold) (entries : List Entry) : List Entry := entries.filter t.keeps

end Threshold

end Watchgate
