import ParcelStatus.Calendar.Date
import ParcelStatus.Number.Numeral
import ParcelStatus.Upload.Layout

/-!
# Shipment rows

The shipments of a sheet. A layout says in which columns the fields stand, and what stands in for
fields that it does not have; the rows below the header that are not blank give one shipment each.

* `FieldColumns`, `Layout.columns` — the columns of each layout;
* `readCommitDate?`, `readCommitTime`, `priorityOf`, `readAmount?` — single fields;
* `ShipmentRow.ofRow` — the shipment of a row;
* `shipmentRows` — the shipments of a sheet.
-/

namespace ParcelStatus.Upload

open Text

/-! ## Columns -/

/-- The places of the fields of a layout, counted from zero, and what stands in for fields that
are missing. -/
structure FieldColumns where
  tracking : Nat
  name : Nat
  nameFallback : Option Nat := none
  address : Nat
  city : Option Nat := none
  zip : Option Nat := none
  date : Nat
  time : Nat
  phone : Nat
  payment : Option Nat := none
  /-- The city of every shipment. -/
  cityAlways : Option Text := none
  /-- The postal code of every shipment. -/
  zipAlways : Option Text := none
  nameDefault : Option Text := none
  addressDefault : Option Text := none
  phoneDefault : Option Text := none
  /-- The consignment number is the tracking number. -/
  consFromTracking : Bool := false
deriving DecidableEq, Repr

/-- The columns of the wide layouts. -/
def wideColumns : FieldColumns :=
  { tracking := 0, name := 13, address := 14, city := some 15, zip := some 18, date := 20,
    time := 21, phone := 23 }

def Layout.columns : Layout → FieldColumns
  | .yaquiLocal =>
    { tracking := 0, name := 2, nameFallback := some 1, address := 3, date := 4, time := 10,
      phone := 5, cityAlways := some "Del Yaqui".toList, zipAlways := some "N/A".toList }
  | .yaqui2 =>
    { tracking := 0, name := 1, address := 2, zip := some 3, date := 4, time := 5, phone := 6,
      cityAlways := some "Del Yaqui".toList, nameDefault := some "Sin Nombre".toList,
      addressDefault := some "Sin Dirección".toList, phoneDefault := some "Sin Teléfono".toList }
  | .basic => wideColumns
  | .long | .opar => { wideColumns with consFromTracking := true }
  | .caborca =>
    { tracking := 0, name := 1, address := 2, city := some 3, zip := some 4, date := 5, time := 10,
      phone := 6, payment := some 8 }

/-! ## Single fields -/

/-- A number of one or two digits before a slash, and the rest behind it. -/
def numberBeforeSlash? (t : Text) : Option (Nat × Text) :=
  let (digits, r) := Numeral.spanDigits t
  match r with
  | '/' :: r =>
    if digits.length = 1 ∨ digits.length = 2 then (digitsValue? digits).map (·, r) else none
  | _ => none

/-- Month, day and year with slashes between them, up to the end or a last line feed. -/
def slashDate? (t : Text) : Option (Nat × Nat × Nat) := do
  let (month, r) ← numberBeforeSlash? t
  let (day, r) ← numberBeforeSlash? r
  let (digits, r) := Numeral.spanDigits r
  let year ← digitsValue? digits
  if digits.length = 4 ∧ (r = [] ∨ r = ['\n']) then return (year, month, day) else none

/-- Year, month and day with hyphens between them in front. -/
def hyphenDate? : Text → Option (Nat × Nat × Nat)
  | y₁ :: y₂ :: y₃ :: y₄ :: '-' :: m₁ :: m₂ :: '-' :: d₁ :: d₂ :: _ => do
    return (← digitsValue? [y₁, y₂, y₃, y₄], ← digitsValue? [m₁, m₂], ← digitsValue? [d₁, d₂])
  | _ => none

/-- The date of a cell, if it names one that the calendar has. -/
def readCommitDate? (t : Text) : Option Date :=
  match slashDate? t with
  | some (year, month, day) => Date.of? year month day
  | none => match hyphenDate? t with
    | some (year, month, day) => Date.of? year month day
    | none => none

/-- Two digits, a colon, and two digits in front, and the rest. -/
def clockPair? : Text → Option Text
  | a :: b :: ':' :: c :: d :: r =>
    if isDecimal a && isDecimal b && isDecimal c && isDecimal d then some r else none
  | _ => none

/-- The text has the shape of a time of day, up to the end or a last line feed. -/
def isClockShape (t : Text) : Bool :=
  match clockPair? t with
  | none => false
  | some [] => true
  | some ['\n'] => true
  | some (':' :: a :: b :: r) => isDecimal a && isDecimal b && (r = [] || r = ['\n'])
  | some _ => false

def midnight : Text := "00:00:00".toList

/-- The time of a cell: with seconds as it stands, without them completed, and midnight for
anything else. -/
def readCommitTime (t : Text) : Text :=
  if !isClockShape t then midnight
  else if t.length = 8 then t
  else t ++ ":00".toList

/-- How urgent a shipment is. -/
inductive Priority where
  /-- Today or overdue. -/
  | alta
  /-- One of the next three days. -/
  | media
  /-- Later. -/
  | baja
deriving DecidableEq, Repr

/-- The written form of a priority. -/
def Priority.text : Priority → Text
  | alta => "alta".toList
  | media => "media".toList
  | baja => "baja".toList

/-- The priority of a shipment by the days until its date. -/
def priorityOf (commit today : Date) : Priority :=
  let days := commit.number - today.number
  if days ≤ 0 then .alta else if days ≤ 3 then .media else .baja

/-- A fraction in front: a point and at least one digit. -/
def amountFraction : Text → Text
  | '.' :: r => r.takeWhile Char.isDigit
  | _ => []

/-- The first number in a text. -/
def readAmount? (t : Text) : Option Binary64 :=
  let r := t.dropWhile fun c => !c.isDigit
  let whole := r.takeWhile Char.isDigit
  let fraction := amountFraction (r.dropWhile Char.isDigit)
  if whole = [] then none
  else (digitsValue? (whole ++ fraction)).map fun n => .ofDecimal false n (-fraction.length)

/-! ## Shipments -/

/-- A shipment of an upload. -/
structure ShipmentRow where
  trackingNumber : Option Text
  recipientName : Option Text
  recipientAddress : Option Text
  recipientCity : Option Text
  recipientZip : Option Text
  commitDate : Date
  commitTime : Text
  recipientPhone : Option Text
  status : Status
  priority : Priority
  paymentAmount : Option Binary64
  consNumber : Option Text
deriving DecidableEq, Repr

/-- The content of a row's cell, if the row is that long. -/
def contentAt (r : Row) (i : Nat) : Option Text := r[i]?.bind Cell.content

/-- The shipment of a row. A date that no reader understands is the day of the upload. -/
def ShipmentRow.ofRow (columns : FieldColumns) (today : Date) (r : Row) : ShipmentRow :=
  let at_ (i : Option Nat) : Option Text := i.bind (contentAt r)
  let tracking := contentAt r columns.tracking
  let name := (contentAt r columns.name).or (at_ columns.nameFallback)
  let commitDate := ((contentAt r columns.date).bind readCommitDate?).getD today
  { trackingNumber := tracking
    recipientName := name.or columns.nameDefault
    recipientAddress := (contentAt r columns.address).or columns.addressDefault
    recipientCity := columns.cityAlways.or (at_ columns.city)
    recipientZip := columns.zipAlways.or (at_ columns.zip)
    commitDate
    commitTime := ((contentAt r columns.time).map readCommitTime).getD midnight
    recipientPhone := (contentAt r columns.phone).or columns.phoneDefault
    status := .pendiente
    priority := priorityOf commitDate today
    paymentAmount := (at_ columns.payment).bind readAmount?
    consNumber := if columns.consFromTracking then tracking else none }

/-- The rows from a place on; a negative place counts from the end. -/
def rowsFrom (s : Sheet) (start : Int) : Sheet :=
  if start < 0 then s.drop (s.length + start).toNat else s.drop start.toNat

/-- The shipments of a sheet whose header stands at a place. -/
def shipmentRows (s : Sheet) (layout : Layout) (today : Date) (header : Int) : List ShipmentRow :=
  let data := rowsFrom s (header + layout.dataStart)
  (data.filter fun r => !Row.isBlank r).map (ShipmentRow.ofRow layout.columns today)

/-! ## Requests for single fields -/

/-- A value that is no text where a text is searched. -/
structure SearchFault where
  /-- The name of its kind. -/
  kind : Text
deriving DecidableEq, Repr

/-- The wording of the fault. -/
def SearchFault.message (f : SearchFault) : Text :=
  "expected string or bytes-like object, got '".toList ++ f.kind ++ ['\'']

/-- The text to search in a value, none for a blank value. -/
def searchText (v : Json) : Except SearchFault (Option Text) :=
  if !v.isTruthy then .ok none
  else match v with
    | .str t => .ok (some t)
    | v => .error ⟨v.kindName⟩

end ParcelStatus.Upload
