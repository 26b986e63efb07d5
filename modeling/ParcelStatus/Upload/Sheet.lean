import ParcelStatus.Json.Display

/-!
# Sheets

A sheet as it is worked with: rows of cells that hold a text or nothing. A row is blank when its
cells hold nothing but blanks; the header of a sheet is its first row that is not blank.

* `Cell.ofJson` — the cell of a value; null, and a list of exactly one such value, is a missing cell;
* `rectangular` — rows filled up to the longest one;
* `headerIndex`, `headerRow` — the place and the texts of the header.
-/

namespace ParcelStatus.Upload

open Text

/-- A text, or nothing. -/
abbrev Cell := Option Text

abbrev Row := List Cell

/-- Rows of cells. -/
abbrev Sheet := List Row

namespace Cell

/-- The value is taken for a missing cell. -/
def isMissing : Json → Bool
  | .null => true
  | .float .nan => true
  | .arr [v] => isMissing v
  | _ => false

/-- The cell of a value. -/
def ofJson (v : Json) : Cell := if isMissing v then none else some v.asText

/-- The text of a cell, empty when it is missing. -/
def text (c : Cell) : Text := c.getD []

/-- The trimmed text of a cell, if anything is left of it. -/
def content (c : Cell) : Option Text :=
  match c.map trim with
  | some [] => none
  | t => t

/-- Nothing but blanks. -/
def isBlank (c : Cell) : Bool := (content c).isNone

end Cell

def Row.isBlank (r : Row) : Bool := r.all Cell.isBlank

/-- Rows filled up with missing cells to the length of the longest one. -/
def rectangular (rows : Sheet) : Sheet :=
  let width := (rows.map List.length).foldl max 0
  rows.map fun r => r ++ List.replicate (width - r.length) none

/-- The place of the first row that is not blank. -/
def headerIndex (s : Sheet) : Option Nat := s.findIdx? fun r => !Row.isBlank r

/-- The texts of the first row that is not blank. -/
def headerRow (s : Sheet) : List Text :=
  match s.find? fun r => !Row.isBlank r with
  | some r => r.map Cell.text
  | none => []

def columnCount (s : Sheet) : Nat := (s.head?.map List.length).getD 0

end ParcelStatus.Upload
