import ParcelStatus.Text.Quoted

/-!
# Log entries and journals

What the program tells its operators. An entry has a level, the name of the logger it was given
to, and a message. A computation that writes entries and may fail is a `Journal`: entries written
before a failure are kept.

* `Entry.line` — the form `LEVEL | logger | message`;
* `Journal` — entries in order with a result or a failure; the monad runs computations one behind
  the other and joins their entries.
-/

namespace ParcelStatus.Log

open Text

/-! ## Levels -/

/-- Details for developers. -/
def debug : Int := 10
/-- The course of work. -/
def info : Int := 20
/-- Something odd. -/
def warning : Int := 30
/-- Something failed. -/
def error : Int := 40
/-- Nothing can go on. -/
def critical : Int := 50

/-- The name of a level; a level between the named ones is shown by its number. -/
def levelName (level : Int) : Text :=
  if level = critical then "CRITICAL".toList
  else if level = error then "ERROR".toList
  else if level = warning then "WARNING".toList
  else if level = info then "INFO".toList
  else if level = debug then "DEBUG".toList
  else if level = 0 then "NOTSET".toList
  else "Level ".toList ++ ofInt level

/-! ## Entries -/

/-- A log entry. -/
structure Entry where
  /-- How grave it is. -/
  level : Int
  /-- The logger it was given to. -/
  logger : Text
  message : Text
deriving DecidableEq, Repr

/-- The form `LEVEL | logger | message`. -/
def Entry.line (e : Entry) : Text :=
  levelName e.level ++ " | ".toList ++ e.logger ++ " | ".toList ++ e.message

/-! ## Journals -/

/-- Entries in the order they were written, and a result or the failure that ended the work. -/
structure Journal (ε α : Type) where
  entries : List Entry
  /-- The result or the failure. -/
  outcome : Except ε α

namespace Journal

variable {ε ε' α β : Type}

/-- The work `f` behind the work `x`. -/
protected def bind (x : Journal ε α) (f : α → Journal ε β) : Journal ε β :=
  match x.outcome with
  | .ok a => ⟨x.entries ++ (f a).entries, (f a).outcome⟩
  | .error e => ⟨x.entries, .error e⟩

instance : Monad (Journal ε) where
  pure a := ⟨[], .ok a⟩
  bind := Journal.bind

/-- One entry. -/
def write (level : Int) (logger message : Text) : Journal ε Unit :=
  ⟨[⟨level, logger, message⟩], .ok ()⟩

/-- A result or a failure without entries. -/
def ofExcept (x : Except ε α) : Journal ε α := ⟨[], x⟩

/-- A failure. -/
def fail (e : ε) : Journal ε α := ⟨[], .error e⟩

/-- The failure in the words of another type. -/
def mapError (f : ε → ε') (x : Journal ε α) : Journal ε' α := ⟨x.entries, x.outcome.mapError f⟩

@[simp] theorem entries_pure (a : α) : (pure a : Journal ε α).entries = [] := rfl

@[simp] theorem outcome_pure (a : α) : (pure a : Journal ε α).outcome = .ok a := rfl

/-- The outcome of joined work is the joined outcome, whatever was written. -/
@[simp] theorem outcome_bind (x : Journal ε α) (f : α → Journal ε β) :
    (x >>= f).outcome = x.outcome >>= fun a => (f a).outcome := by
  show (Journal.bind x f).outcome = _
  unfold Journal.bind
  cases x.outcome <;> rfl

end Journal

end ParcelStatus.Log
