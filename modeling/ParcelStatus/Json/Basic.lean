import ParcelStatus.Number.Binary64
import ParcelStatus.Text.Basic

/-!
# JSON values

The values that vendors send. An object keeps its members in the order of their first mention,
and whole numbers are told apart from binary ones.

* `Json.get` — the value of a member, null when there is none;
* `Json.isTruthy`, `Json.orElse` — blank values (null, false, zero, and empty texts, lists and
  objects) give way to a fallback;
* `Json.textFor` — a value used as a text: blank values are the empty text, and any other value
  that is no text is refused with a `KindFault`; `Json.textOnly` refuses those blank values too.
-/

namespace ParcelStatus

/-- A JSON value. -/
inductive Json where
  /-- Null, also the value of what is absent. -/
  | null
  /-- A truth value. -/
  | bool (b : Bool)
  /-- A number written without point and exponent. -/
  | int (n : Int)
  /-- Any other number. -/
  | float (x : Binary64)
  | str (t : Text)
  | arr (items : List Json)
  /-- An object. -/
  | obj (members : List (Text × Json))
deriving Repr

instance : Inhabited Json := ⟨.null⟩

namespace Json

/-- The name that messages use for the kind of a value. -/
def kindName : Json → Text
  | null => "NoneType".toList
  | bool _ => "bool".toList
  | int _ => "int".toList
  | float _ => "float".toList
  | str _ => "str".toList
  | arr _ => "list".toList
  | obj _ => "dict".toList

/-- The value is not blank. -/
def isTruthy : Json → Bool
  | null => false
  | bool b => b
  | int n => n != 0
  | float x => !x.isZero
  | str t => !t.isEmpty
  | arr items => !items.isEmpty
  | obj members => !members.isEmpty

/-- The value, or the other one if the value is blank. -/
def orElse (v other : Json) : Json := if v.isTruthy then v else other

/-- The value of the first member of a name. -/
def lookup (key : Text) : List (Text × Json) → Option Json
  | [] => none
  | (k, v) :: ms => if k = key then some v else lookup key ms

/-- The value of a member of an object, null when there is none. -/
def get (members : List (Text × Json)) (key : String) : Json :=
  (lookup key.toList members).getD null

/-- Gives a member a value. A name that is there already keeps its place. -/
def insertMember (key : Text) (value : Json) : List (Text × Json) → List (Text × Json)
  | [] => [(key, value)]
  | (k, v) :: ms => if k = key then (k, value) :: ms else (k, v) :: insertMember key value ms

/-- The objects of a list, without everything else in it. -/
def objects : Json → List (List (Text × Json))
  | arr items => items.filterMap fun
    | obj members => some members
    | _ => none
  | _ => []

/-- The items of a list, none for any other value. -/
def items : Json → List Json
  | arr xs => xs
  | _ => []

/-- The text of a text value. -/
def text? : Json → Option Text
  | str t => some t
  | _ => none

/-! ## Values of the wrong kind -/

/-- What is to be done with a value that only some kinds allow. -/
inductive Use where
  /-- Trimming a text. -/
  | trimming
  /-- Folding the case of a text. -/
  | folding
  /-- Splitting a text into lines. -/
  | lines
  /-- Looking up a member of an object. -/
  | member
deriving DecidableEq, Repr

/-- A value of a kind that does not allow the use it is put to. -/
structure KindFault where
  /-- The name of the kind. -/
  kind : Text
  use : Use
deriving DecidableEq, Repr

/-- The name that messages give to a use. -/
def Use.name : Use → Text
  | .trimming => "strip".toList
  | .folding => "casefold".toList
  | .lines => "splitlines".toList
  | .member => "get".toList

/-- The wording of a kind fault. -/
def KindFault.message (f : KindFault) : Text :=
  '\'' :: f.kind ++ "' object has no attribute '".toList ++ f.use.name ++ ['\'']

/-- The value as a text, for a use that only texts allow. Blank values are the empty text. -/
def textFor (use : Use) (v : Json) : Except KindFault Text :=
  match v with
  | str t => .ok t
  | v => if v.isTruthy then .error ⟨v.kindName, use⟩ else .ok []

/-- A value that must be a text for a use, blank or not. -/
def textOnly (use : Use) (v : Json) : Except KindFault Text :=
  match v with
  | str t => .ok t
  | v => .error ⟨v.kindName, use⟩

/-- The members of an object. -/
def membersOf (v : Json) : Except KindFault (List (Text × Json)) :=
  match v with
  | obj members => .ok members
  | v => .error ⟨v.kindName, .member⟩

@[simp] theorem textFor_str (use : Use) (t : Text) : textFor use (.str t) = .ok t := rfl

@[simp] theorem textFor_null (use : Use) : textFor use .null = .ok [] := rfl

end Json

end ParcelStatus
