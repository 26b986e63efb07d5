import ParcelStatus.Disk.Path
import ParcelStatus.Json.Display
import ParcelStatus.Number.Numeral
import ParcelStatus.Table
import ParcelStatus.Text.Case
import ParcelStatus.Text.Utf8

/-!
# The process environment

Variables with their values, and the ways to ask for one.

* `Environment.get?`, `set`, `unset` — single variables; a variable that is set to the empty text is
  set;
* `Environment.put` — sets a variable, if the environment can hold it;
* `readBool` — a text as a truth value;
* `Environment.ask` — a variable with a default, a demand that it is set, and a reading;
* `Environment.require` — a variable that must be set and not empty.
-/

namespace ParcelStatus.Settings

open Text

/-- Variables with their values. -/
abbrev Environment := List (Text × Text)

namespace Environment

/-- The value of a variable. -/
def get? (env : Environment) (name : Text) : Option Text := env.lookup name

/-- The environment with a value for a variable. -/
def set (env : Environment) (name value : Text) : Environment := Table.assign name value env

/-- The environment without a variable. -/
def unset (env : Environment) (name : Text) : Environment := env.filter fun (n, _) => n ≠ name

@[simp] theorem get?_nil (name : Text) : get? [] name = none := rfl

theorem get?_set_self (env : Environment) (name value : Text) :
    (env.set name value).get? name = some value := Table.lookup_assign_self name value env

theorem get?_set_of_ne (env : Environment) {name other : Text} (value : Text) (h : other ≠ name) :
    (env.set name value).get? other = env.get? other := Table.lookup_assign_of_ne value env h

end Environment

/-! ## Faults -/

/-- Why the settings cannot be had. -/
inductive Fault where
  /-- A text is no truth value. -/
  | notBool (t : Text)
  /-- A variable must be set and not empty. -/
  | missing (name : Text)
  /-- Several variables must be set and not empty. -/
  | missingAll (names : List Text)
  /-- A variable must be set. -/
  | unset (name : Text)
  /-- A text is no whole number. -/
  | int (fault : Numeral.Fault)
  /-- A text is no number. -/
  | float (t : Text)
  /-- A value of another kind stands where a text is needed. -/
  | kind (fault : Json.KindFault)
  /-- A file of settings is no text. -/
  | octets (fault : Text.Fault)
  /-- The path of a file of settings is too long to be looked up. -/
  | tooLong (path : Path)
  /-- A name or a value of a variable holds the null character. -/
  | nullCharacter
  /-- A name of a variable holds an equals sign. -/
  | equalsInName
  /-- A name of a variable is empty. -/
  | emptyName
deriving DecidableEq, Repr

/-- The wording of a fault. -/
def Fault.message : Fault → Text
  | .notBool t => "Not a boolean: ".toList ++ quoted t
  | .missing name => "Missing required environment variable: ".toList ++ name
  | .missingAll names =>
    "Missing required environment variable(s): ".toList ++ join [',', ' '] names
  | .unset name => quoted name
  | .int f => f.message
  | .float t => "could not convert string to float: ".toList ++ quoted t
  | .kind f => f.message
  | .octets f => f.message
  | .tooLong p => "[Errno 36] File name too long: ".toList ++ quoted p.text
  | .nullCharacter => "embedded null byte".toList
  | .equalsInName => "illegal environment variable name".toList
  | .emptyName => "[Errno 22] Invalid argument".toList

/-- The environment with a value for a variable, if the environment can hold it. -/
def Environment.put (env : Environment) (name value : Text) : Except Fault Environment :=
  if name.contains '\x00' || value.contains '\x00' then .error .nullCharacter
  else if name.contains '=' then .error .equalsInName
  else if name = [] then .error .emptyName
  else .ok (env.set name value)

/-! ## Reading values -/

def trueWords : List Text :=
  ["1".toList, "true".toList, "yes".toList, "y".toList, "on".toList]

def falseWords : List Text :=
  ["0".toList, "false".toList, "no".toList, "n".toList, "off".toList, "".toList]

/-- A text as a truth value; blanks around it and the case of its letters do not matter. -/
def readBool (t : Text) : Except Fault Bool :=
  let word := fold (trim t)
  if trueWords.contains word then .ok true
  else if falseWords.contains word then .ok false
  else .error (.notBool t)

/-- How the value of a variable is read. -/
inductive Reading where
  /-- As it stands. -/
  | text
  /-- As a whole number. -/
  | int
  /-- As a number. -/
  | float
  /-- As a truth value. -/
  | bool
  /-- In upper case. -/
  | upper
deriving DecidableEq, Repr

/-- The value that a reading gives. -/
def Reading.read (r : Reading) (t : Text) : Except Fault Json :=
  match r with
  | .text => .ok (.str t)
  | .int => ((Numeral.int t).map Json.int).mapError .int
  | .float => match Numeral.float? t with
    | some x => .ok (.float x)
    | none => .error (.float t)
  | .bool => (readBool t).map Json.bool
  | .upper => .ok (.str (Text.upper t))

/-- The value of a variable by a reading, or the default of one that is not set. -/
def Environment.ask (env : Environment) (name : Text) (default : Json := .null)
    (required : Bool := false) (reading : Reading := .text) : Except Fault Json :=
  match env.get? name with
  | some t => reading.read t
  | none => if required then .error (.unset name) else .ok default

/-- The value of a variable that must be set and not empty. -/
def Environment.require (env : Environment) (name : Text) : Except Fault Text :=
  match env.get? name with
  | some (c :: r) => .ok (c :: r)
  | _ => .error (.missing name)

/-- The variable is set and not empty. -/
def Environment.hasValue (env : Environment) (name : Text) : Bool :=
  match env.get? name with
  | some (_ :: _) => true
  | _ => false

end ParcelStatus.Settings
