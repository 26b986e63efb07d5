import ParcelStatus.Json.Basic
import ParcelStatus.Log.Journal
import ParcelStatus.Text.Case

/-!
# Levels of logging

* `namedLevel` — the level of a name;
* `Level.ofJson` — the level that a value asks for: a number is itself, a text names a level, and null
  asks for the level that the environment names.
-/

namespace ParcelStatus.Log

open Text

def levelNames : List (Text × Int) :=
  [("CRITICAL".toList, critical), ("ERROR".toList, error), ("WARNING".toList, warning),
   ("WARN".toList, warning), ("INFO".toList, info), ("DEBUG".toList, debug),
   ("NOTSET".toList, 0)]

/-- The level of a name, in whatever case; an unknown name is the level of the course of work. -/
def namedLevel (name : Text) : Int := (levelNames.lookup (normalizeCode name)).getD info

/-- A level that is asked for. -/
inductive Level where
  | number (n : Int)
  /-- A truth value, which counts as one or zero. -/
  | truth (b : Bool)
deriving DecidableEq, Repr

namespace Level

/-- The level as a number. -/
def toInt : Level → Int
  | .number n => n
  | .truth b => if b then 1 else 0

/-- The level as a value. -/
def toJson : Level → Json
  | .number n => .int n
  | .truth b => .bool b

/-- The level that a value asks for. `fallback` is the name in the environment, if there is one. -/
def ofJson (fallback : Option Text) (v : Json) : Level :=
  match v with
  | .int n => .number n
  | .bool b => .truth b
  | .str name => .number (namedLevel name)
  | .null => match fallback with
    | some (c :: r) => .number (namedLevel (c :: r))
    | _ => .number info
  | _ => .number info

@[simp] theorem toInt_number (n : Int) : (Level.number n).toInt = n := rfl

end Level

end ParcelStatus.Log
