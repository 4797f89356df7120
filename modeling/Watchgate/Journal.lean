/-!
# The journal

What the service writes down while it works. A computation of type `Noted α` has a value and the
entries it wrote, in order; the value never depends on the entries, so a statement about results
can leave them out.
-/

namespace Watchgate

/-- How grave an entry is. Entries meant for developers only are not kept. -/
inductive Level where
  | info
  | warning
  | error
  | critical
deriving DecidableEq, Repr

def Level.name : Level → String
  | .info => "INFO"
  | .warning => "WARNING"
  | .error => "ERROR"
  | .critical => "CRITICAL"

/-- One line of the journal. -/
structure Entry where
  level : Level
  text : String
deriving DecidableEq, Repr

/-- The line with its level in front. -/
def Entry.line (e : Entry) : String :=
  e.level.name ++ " " ++ e.text

/-- A value together with the entries written on the way to it. -/
structure Noted (α : Type) where
  value : α
  /-- The entries, oldest first. -/
  notes : List Entry

namespace Noted

variable {α β : Type}

def ofValue (a : α) : Noted α := ⟨a, []⟩

/-- Goes on with the value; entries add up. -/
def andThen (x : Noted α) (f : α → Noted β) : Noted β :=
  let y := f x.value
  ⟨y.value, x.notes ++ y.notes⟩

instance : Monad Noted where
  pure := ofValue
  bind := andThen

def note (level : Level) (text : String) : Noted Unit := ⟨(), [⟨level, text⟩]⟩

def warning (text : String) (a : α) : Noted α := ⟨a, [⟨.warning, text⟩]⟩

def error (text : String) (a : α) : Noted α := ⟨a, [⟨.error, text⟩]⟩

@[simp] theorem value_pure (a : α) : (pure a : Noted α).value = a := rfl

@[simp] theorem value_bind (x : Noted α) (f : α → Noted β) :
    (x >>= f).value = (f x.value).value := rfl

@[simp] theorem value_map (f : α → β) (x : Noted α) : (f <$> x).value = f x.value := rfl

@[simp] theorem value_warning (text : String) (a : α) : (warning text a).value = a := rfl

@[simp] theorem value_error (text : String) (a : α) : (error text a).value = a := rfl

end Noted

end Watchgate
