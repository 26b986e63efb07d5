import ParcelStatus.Text.Utf8
import ParcelStatus.Upload.Sheet

/-!
# Comma-separated files

Reading rows of cells from octets. Cells stand between commas; a cell in double quotes may hold
commas and line ends, and a quote in it is written twice. Line feeds, returns, and a return with a
line feed end rows. Lines without anything but spaces and tabs are passed over but counted. The
first row fixes the number of cells; shorter rows are filled up and longer ones refused.

* `Csv.readOctets` — the rows of a file as octets;
* `Csv.read` — the rows of a file as texts;
* `Csv.Fault.message` — the wording of what is wrong with a file.
-/

namespace ParcelStatus.Upload.Csv

open Text

/-- What is wrong with a file. -/
inductive Fault where
  /-- A row is longer than the first one. -/
  | tooLong (expected line seen : Nat)
  /-- The file ends within quotes that were opened in the row behind so many lines. -/
  | openQuote (line : Nat)
  /-- The file has no rows. -/
  | empty
  /-- A cell is no text. -/
  | octets (fault : Text.Fault)
deriving DecidableEq, Repr

/-- The wording of a fault. -/
def Fault.message : Fault → Text
  | .tooLong expected line seen =>
    "Error tokenizing data. C error: Expected ".toList ++ ofNat expected ++ " fields in line ".toList
      ++ ofNat line ++ ", saw ".toList ++ ofNat seen ++ ['\n']
  | .openQuote line =>
    "Error tokenizing data. C error: EOF inside string starting at row ".toList ++ ofNat line
  | .empty => "No columns to parse from file".toList
  | .octets f => f.message

/-- Where in a row the reader stands. -/
inductive Place where
  | lineStart
  /-- Behind spaces and tabs at the start of a line, which are passed over so far. -/
  | indent
  /-- Behind the return of a line that was passed over. -/
  | passedReturn
  | cellStart
  /-- In a cell without quotes. -/
  | cell
  | quotes
  /-- Behind a quote that may end the quotes or be the first of two. -/
  | quote
  /-- Behind the return that ended a row. -/
  | rowReturn
deriving DecidableEq, Repr

/-- What has been read. Cells and rows stand in reverse. -/
structure State where
  /-- The place in the row. -/
  place : Place := .lineStart
  /-- The octets of the cell. -/
  cell : List UInt8 := []
  /-- The cells of the row. -/
  row : List (List UInt8) := []
  rows : List (List (List UInt8)) := []
  /-- The lines that are done with. -/
  lines : Nat := 0
  /-- What has been passed over since the last row or line feed, in reverse. -/
  passed : List UInt8 := []

def comma : UInt8 := 0x2c
/-- The double quote. -/
def quoteMark : UInt8 := 0x22
def lineFeed : UInt8 := 0x0a
def returnMark : UInt8 := 0x0d

/-- A space or a tab. -/
def isIndent (o : UInt8) : Bool := o = 0x20 || o = 0x09

/-- One more octet of the cell. -/
def State.push (s : State) (o : UInt8) : State := { s with cell := o :: s.cell, place := .cell }

/-- One more octet that is passed over. -/
def State.pass (s : State) (o : UInt8) (next : Place) : State :=
  { s with passed := o :: s.passed, place := next }

def State.endCell (s : State) (next : Place) : State :=
  { s with cell := [], row := s.cell.reverse :: s.row, place := next }

/-- The end of a row, which is filled up to the length of the first one. -/
def State.endRow (s : State) (next : Place) : Except Fault State :=
  let row := s.row.reverse
  let width := (s.rows.getLast?.map List.length).getD row.length
  if width < row.length then .error (.tooLong width (s.lines + 1) row.length)
  else
    let row := row ++ List.replicate (width - row.length) []
    .ok { s with
      row := [], rows := row :: s.rows, lines := s.lines + 1, place := next, passed := [] }

/-- A line that is passed over and ends in a line feed. -/
def State.endPassedLine (s : State) : State :=
  { s with lines := s.lines + 1, place := .lineStart, passed := [] }

/-- A line that is passed over and ends in a return. -/
def State.endPassedReturn (s : State) : State :=
  { s.pass returnMark .passedReturn with lines := s.lines + 1 }

/-- One octet at the start of a cell. -/
def State.readCellStart (s : State) (o : UInt8) : Except Fault State :=
  if o = lineFeed then (s.endCell .lineStart).endRow .lineStart
  else if o = returnMark then .ok (s.endCell .rowReturn)
  else if o = quoteMark then .ok { s with place := .quotes }
  else if o = comma then .ok (s.endCell .cellStart)
  else .ok (s.push o)

/-- One octet in a cell without quotes. -/
def State.readCell (s : State) (o : UInt8) : Except Fault State :=
  if o = lineFeed then (s.endCell .lineStart).endRow .lineStart
  else if o = returnMark then .ok (s.endCell .rowReturn)
  else if o = comma then .ok (s.endCell .cellStart)
  else .ok (s.push o)

/-- One octet at the start of a line, or behind spaces and tabs there when only those and line ends are
passed over. -/
def State.readLineStart (s : State) (o : UInt8) : Except Fault State :=
  if o = lineFeed then .ok s.endPassedLine
  else if o = returnMark then .ok s.endPassedReturn
  else if isIndent o then .ok (s.pass o .indent)
  else s.readCellStart o

/-- One octet. A comma behind the return of a line that was passed over belongs to that return. -/
def State.read (s : State) (o : UInt8) : Except Fault State :=
  match s.place with
  | .lineStart | .indent => s.readLineStart o
  | .passedReturn =>
    if o = lineFeed then .ok { s with place := .lineStart, passed := [] }
    else if o = comma then .ok (s.pass o .lineStart)
    else s.readLineStart o
  | .cellStart => s.readCellStart o
  | .cell => s.readCell o
  | .quotes =>
    if o = quoteMark then .ok { s with place := .quote }
    else .ok { s with cell := o :: s.cell }
  | .quote =>
    if o = quoteMark then .ok { s with cell := o :: s.cell, place := .quotes }
    else s.readCell o
  | .rowReturn => do
    let s ← s.endRow .lineStart
    if o = lineFeed then return s
    else if o = comma then return s.endCell .cellStart
    else s.readLineStart o

/-- The octet shows that the spaces and tabs in front of it belong to a row. -/
def State.endsIndent (s : State) (o : UInt8) : Bool :=
  s.place = .indent && !(isIndent o || o = lineFeed || o = returnMark)

/-- All octets, in at most so many steps. Where spaces and tabs turn out to belong to a row, all that
was passed over is read again from the start of a cell. -/
def State.readAll : Nat → State → List UInt8 → Except Fault State
  | 0, s, _ => .ok s
  | _ + 1, s, [] => .ok s
  | fuel + 1, s, o :: r =>
    if s.endsIndent o then
      readAll fuel { s with place := .cellStart, passed := [] } (s.passed.reverse ++ o :: r)
    else (s.read o).bind fun s => readAll fuel s r

/-- The end of the file. -/
def State.finish (s : State) : Except Fault State :=
  match s.place with
  | .lineStart | .indent | .passedReturn => .ok s
  | .quotes => .error (.openQuote s.lines)
  | .rowReturn => s.endRow .lineStart
  | .cellStart | .cell | .quote => (s.endCell .lineStart).endRow .lineStart

/-- The rows of a file as octets. -/
def readOctets (file : List UInt8) : Except Fault (List (List (List UInt8))) := do
  let octets := dropOrderMark file
  let s ← State.readAll ((octets.length + 2) * (octets.length + 2)) {} octets
  let s ← s.finish
  if s.rows.isEmpty then .error .empty else return s.rows.reverse

def decodeCell (octets : List UInt8) : Except Fault Text := (decode octets).mapError .octets

/-- The first fault of a cell, column by column. -/
def firstOctetFault? (rows : List (List (List UInt8))) : Option Fault :=
  let columns := List.range ((rows.map List.length).foldl max 0)
  columns.findSome? fun i => rows.findSome? fun row =>
    match row[i]?.map decodeCell with
    | some (.error f) => some f
    | _ => none

/-- The rows of a file as texts. -/
def read (file : List UInt8) : Except Fault Sheet := do
  let rows ← readOctets file
  match firstOctetFault? rows with
  | some f => .error f
  | none => return rows.map fun row => row.map fun cell => (decodeCell cell).toOption

end ParcelStatus.Upload.Csv
