import ParcelStatus.Text.Case
import ParcelStatus.Tracking.Status
import ParcelStatus.Upload.Sheet

/-!
# Layouts of uploads

Uploads come in a few layouts, told apart by words in their header row. A rule names phrases that
must all stand in the joined header; the first rule that is satisfied decides, and an upload whose
header satisfies none is refused.

* `Layout` — the layouts, with their tags and the place where data begins;
* `headerRules`, `Layout.ofHeader?` — the rules in order, and the layout of a header;
* `Layout.ofHeader` — the same, refusing a header that no rule knows.
-/

namespace ParcelStatus.Upload

open Text

/-- The layout of an upload. -/
inductive Layout where
  | yaquiLocal
  | basic
  | long
  | opar
  | caborca
  | yaqui2
deriving DecidableEq, Repr

namespace Layout

def all : List Layout := [yaquiLocal, basic, long, opar, caborca, yaqui2]

def tag : Layout → Text
  | yaquiLocal => "YAQUI_LOCAL".toList
  | basic => "BASIC".toList
  | long => "LONG".toList
  | opar => "OPAR".toList
  | caborca => "CABORCA".toList
  | yaqui2 => "YAQUI_2".toList

def ofTag? (t : Text) : Option Layout := all.find? (·.tag = t)

/-- The layout that a value names. -/
def ofJson (v : Json) : Except UnknownName Layout :=
  match v.text?.bind ofTag? with
  | some l => .ok l
  | none => .error (.layout v)

/-- How many rows below the header data begins. -/
def dataStart : Layout → Nat
  | opar => 6
  | _ => 1

end Layout

/-- Phrases that must all stand in a header, and the layout that they tell. -/
structure HeaderRule where
  /-- The phrases, in lower case. -/
  phrases : List Text
  layout : Layout

/-- The rules in order of precedence. -/
def headerRules : List HeaderRule :=
  [⟨["recip co.".toList, "cod".toList], .yaquiLocal⟩,
   ⟨["recip name".toList, "commit time".toList], .basic⟩,
   ⟨["shpr co".toList, "latest dept location".toList], .long⟩,
   ⟨["cons number".toList, "tracking number".toList], .opar⟩,
   ⟨["opar report".toList], .opar⟩,
   ⟨["recip addr".toList, "last comm scan".toList], .caborca⟩,
   ⟨["caborca-penasco-st ana-benjamin h.".toList], .caborca⟩,
   ⟨["del yaqui".toList], .yaquiLocal⟩]

/-- The text in which phrases are looked for: the cells of a header in lower case with a space
between every two. -/
def headerText (header : List Text) : Text := lower (join [' '] header)

/-- All phrases of the rule stand in the header. -/
def HeaderRule.holds (rule : HeaderRule) (header : List Text) : Bool :=
  rule.phrases.all fun phrase => occursIn phrase (headerText header)

def Layout.ofHeader? (header : List Text) : Option Layout :=
  (headerRules.find? (·.holds header)).map (·.layout)

/-- A header that no rule knows. -/
structure UnsupportedHeader where
  /-- The texts of its cells. -/
  header : List Text
deriving DecidableEq, Repr

/-- The wording of the refusal. -/
def UnsupportedHeader.message (u : UnsupportedHeader) : Text :=
  "Unsupported file format; unrecognized header: ".toList ++ quotedList u.header

/-- The layout of a header that must have one. -/
def Layout.ofHeader (header : List Text) : Except UnsupportedHeader Layout :=
  match Layout.ofHeader? header with
  | some l => .ok l
  | none => .error ⟨header⟩

/-- A value that is no row of cells. -/
structure NoRowFault where
  /-- The name of its kind. -/
  kind : Text
deriving DecidableEq, Repr

/-- The wording of the fault. -/
def NoRowFault.message (f : NoRowFault) : Text :=
  ['\''] ++ f.kind ++ "' object is not iterable".toList

/-- The texts of a header given as a value: the cells of a list, the characters of a text, or the
names of an object. -/
def headerOfJson (v : Json) : Except NoRowFault (List Text) :=
  match v with
  | .arr cells => .ok (cells.map fun cell => (Cell.ofJson cell).text)
  | .str t => .ok (t.map fun c => [c])
  | .obj members => .ok (members.map (·.1))
  | v => .error ⟨v.kindName⟩

end ParcelStatus.Upload
