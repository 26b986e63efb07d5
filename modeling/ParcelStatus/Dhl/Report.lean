import ParcelStatus.Log.Journal
import ParcelStatus.Number.Numeral
import ParcelStatus.Tracking.Event

/-!
# DHL shipment reports

A report is plain text in blocks, one for each shipment. A block begins with its `AWB :` line and
goes on to the next one; what stands before the first block belongs to no shipment. Within a block
a heading opens a section, and the lines behind it are read by the rules of that section.

* `LineKind` — what a line is: the start of a block, a heading, the accounts, or data;
* `blocksOf` — the blocks of a report;
* `Section` and `readLine` — the section a block is in, and what one line does to its shipment;
* `Shipment.ofBlock`, `shipmentsOf` — the shipment of a block, and those of a report.
-/

namespace ParcelStatus.Dhl

open Text

/-! ## Shipments -/

/-- The one who is to receive a shipment. -/
structure Receiver where
  name : Text := []
  contactName : Text := []
  address1 : Text := []
  address2 : Text := []
  city : Text := []
  state : Text := []
  country : Text := []
  zip : Text := []
  phone : Text := []
deriving DecidableEq, Repr

/-- A shipment of a report. -/
structure Shipment where
  /-- The number of the air waybill. -/
  awb : Text
  /-- The station it starts from. -/
  origin : Text := []
  /-- The station it goes to. -/
  destination : Text := []
  /-- When it was handed over. -/
  shipmentTime : Text := []
  product : Text := []
  /-- The count of pieces. -/
  pieces : Int := 0
  weight : Binary64 := .zero
  /-- What is in it. -/
  description : Text := []
  shipperAccount : Text := []
  /-- The account of the one who pays. -/
  payerAccount : Text := []
  receiver : Receiver := {}
  /-- The checkpoints. -/
  events : List TrackingEvent := []
deriving DecidableEq, Repr

/-- The contact, or else the name. -/
def Receiver.recipientName (r : Receiver) : Text :=
  if r.contactName = [] then r.name else r.contactName

/-- Both lines of the address. -/
def Receiver.recipientAddress (r : Receiver) : Text := trim (r.address1 ++ ' ' :: r.address2)

/-! ## Lines -/

/-- What a trimmed line is. -/
inductive LineKind where
  /-- The start of a block. -/
  | awb (number : Text)
  /-- The heading of the line with stations and weights. -/
  | header
  /-- The line of the accounts. -/
  | accounts (shipper payer : Text)
  /-- The heading of the addresses. -/
  | receiver
  /-- The heading of the checkpoints. -/
  | events
  /-- A line for the section it stands in. -/
  | data
deriving DecidableEq, Repr

/-- The start of a line that begins a block. -/
def awbMark : Text := "AWB :".toList
/-- The start of the heading of stations and weights. -/
def headerMark : Text := "Orig  Dest  Shipment Time".toList
/-- The start of the line of the accounts. -/
def shipperAccountMark : Text := "Shpr Acct :".toList
/-- What stands before the payer's account. -/
def payerAccountMark : Text := "Payer Acct :".toList

/-- The accounts of shipper and payer behind the mark of the line. -/
def accountsOf (t : Text) : LineKind :=
  match splitAtFirst payerAccountMark t with
  | some (shipper, payer) => .accounts (trim shipper) (trim payer)
  | none => .accounts (trim t) []

/-- What a trimmed line is; of two that fit the first counts. -/
def lineKind (line : Text) : LineKind :=
  match dropPrefix? awbMark line with
  | some number => .awb (trim number)
  | none =>
    if headerMark.isPrefixOf line then .header
    else match dropPrefix? shipperAccountMark line with
      | some accounts => accountsOf accounts
      | none =>
        if occursIn "Shipper".toList line && occursIn "Receiver".toList line then .receiver
        else if occursIn "AWB/PID".toList line && occursIn "Orig".toList line then .events
        else .data

/-! ## The line of stations and weights -/

/-- A capital letter of ASCII. -/
def isCapital (c : Char) : Bool := 'A' ≤ c && c ≤ 'Z'

/-- The rest behind a station's three letters and the blanks that follow. -/
def dropStation? : Text → Option Text
  | a :: b :: c :: d :: r =>
    if isCapital a && isCapital b && isCapital c && isBlank d then
      some (r.dropWhile isBlank)
    else none
  | _ => none

/-- The text begins with these characters, where a zero stands for any digit. -/
def fitsPattern : Text → Text → Bool
  | [], _ => true
  | _ :: _, [] => false
  | p :: ps, c :: cs => (if p = '0' then isDecimal c else p = c) && fitsPattern ps cs

/-- The line begins with two stations, a date and a time of day. -/
def isHeaderLine (line : Text) : Bool :=
  match (dropStation? line).bind dropStation? with
  | some r => fitsPattern "0000-00-00 00:00".toList r
  | none => false

/-- The shipment with the fields of its line of stations and weights. -/
def Shipment.withHeader (s : Shipment) (line : Text) : Shipment :=
  if !isHeaderLine line then s
  else match words line with
    | origin :: destination :: day :: time :: fields =>
      let s := { s with origin, destination, shipmentTime := day ++ ' ' :: time }
      let s := match fields[0]? with
        | some product => { s with product }
        | none => s
      let s := match fields[1]? with
        | some pieces => { s with pieces := (Numeral.int pieces).toOption.getD 0 }
        | none => s
      let s := match fields[2]? with
        | some weight => { s with weight := (Numeral.float? weight).getD .zero }
        | none => s
      match fields.drop 3 with
      | [] => s
      | description => { s with description := join [' '] description }
    | _ => s

/-! ## The lines of the addresses -/

/-- A value in front and the rest: it ends before two blanks or at the end of the line, and holds
no colon. -/
def value? : Text → Option (Text × Text)
  | [] => none
  | c :: r =>
    if c = ':' then none
    else
      let ends := match r with
        | [] => true
        | [_] => false
        | a :: b :: _ => isBlank a && isBlank b
      if ends then some ([c], r) else (value? r).map fun (v, rest) => (c :: v, rest)

/-- The labels of a line with their values. A label without a value takes a blank where three or
more follow its colon, and is passed over otherwise. -/
def labelsFrom : Nat → Text → List (Text × Text)
  | 0, _ => []
  | fuel + 1, t =>
    let t := t.dropWhile (· = ':')
    let label := t.takeWhile (· ≠ ':')
    match t.dropWhile (· ≠ ':') with
    | [] => []
    | _ :: behind =>
      let gap := behind.takeWhile isBlank
      match value? (behind.dropWhile isBlank) with
      | some (value, rest) => (label, value) :: labelsFrom fuel rest
      | none =>
        if 3 ≤ gap.length then
          (label, (gap.drop (gap.length - 3)).take 1)
            :: labelsFrom fuel (behind.drop (gap.length - 2))
        else labelsFrom fuel behind

/-- The labels of a trimmed line with their values. -/
def labelsOf (line : Text) : List (Text × Text) := labelsFrom line.length line

/-- The receiver with the value of a label; other labels change nothing. -/
def Receiver.withLabel (r : Receiver) (label value : Text) : Receiver :=
  if label = "Name".toList then { r with name := value }
  else if label = "Ctc Nm".toList then { r with contactName := value }
  else if label = "Addr 1".toList then { r with address1 := value }
  else if label = "Addr 2".toList then { r with address2 := value }
  else if label = "City".toList then { r with city := value }
  else if label = "State".toList then { r with state := value }
  else if label = "Ctry".toList then { r with country := value }
  else if label = "Zip".toList then { r with zip := value }
  else if label = "Phone".toList then { r with phone := value }
  else r

/-- The receiver with the fields of a line: the shipper stands left of it, so the second label of
the line is the receiver's. -/
def Receiver.withLine (r : Receiver) (line : Text) : Receiver :=
  match labelsOf line with
  | _ :: (label, value) :: _ => r.withLabel (trim label) (trim value)
  | _ => r

/-! ## The lines of the checkpoints -/

/-- The fewest characters of a waybill or piece number. A shorter first column belongs to a line
whose number was left blank. -/
def minNumberLength : Nat := 10

/-- The event of a line of checkpoints. Lines of other pieces and lines with too few columns give
none. -/
def eventOfLine [Present] (awb line : Text) : Except DateFault (Option TrackingEvent) :=
  if line = [] || occursIn "-----".toList line then .ok none
  else
    let columns := columns line
    let columns := match columns with
      | first :: _ => if first.length < minNumberLength then awb :: columns else columns
      | [] => [awb]
    match columns with
    | number :: _ :: _ :: facility :: _ :: code :: date :: rest =>
      if code = [] || number ≠ awb then .ok none
      else do
        let date ← readDate (.str date)
        return some {
          description := join [' '] (rest.drop 1)
          date
          eventType := code
          location := if facility = [] then none else some facility }
    | _ => .ok none

/-! ## Blocks -/

/-- The part of a block that a line stands in. -/
inductive Section where
  /-- Behind the first line or the accounts, where data says nothing. -/
  | other
  /-- Behind the heading of stations and weights. -/
  | header
  /-- Behind the heading of the addresses. -/
  | receiver
  /-- Behind the heading of the checkpoints. -/
  | events
deriving DecidableEq, Repr

/-- What one line does to the section and the shipment of its block. -/
def readLine [Present] (at_ : Section × Shipment) (line : Text) :
    Except DateFault (Section × Shipment) :=
  let (place, s) := at_
  match lineKind line with
  | .header => .ok (.header, s)
  | .accounts shipper payer =>
    .ok (.other, { s with shipperAccount := shipper, payerAccount := payer })
  | .receiver => .ok (.receiver, s)
  | .events => .ok (.events, s)
  | .awb _ => .ok (place, s)
  | .data =>
    match place with
    | .other => .ok (place, s)
    | .header => .ok (place, s.withHeader line)
    | .receiver => .ok (place, { s with receiver := s.receiver.withLine line })
    | .events => do
      match ← eventOfLine s.awb line with
      | some e => return (place, { s with events := s.events ++ [e] })
      | none => return (place, s)

/-- The number and the lines of one shipment. -/
structure Block where
  /-- The number of the waybill. -/
  awb : Text
  /-- The lines behind the first one, trimmed. -/
  lines : List Text
deriving DecidableEq, Repr

/-- The lines before the first block, and the blocks. -/
def splitBlocks : List Text → List Text × List Block
  | [] => ([], [])
  | line :: rest =>
    let (before, blocks) := splitBlocks rest
    match lineKind line with
    | .awb number => ([], ⟨number, before⟩ :: blocks)
    | _ => (line :: before, blocks)

def blocksOf (report : Text) : List Block := (splitBlocks ((lines report).map trim)).2

def Shipment.ofBlock [Present] (b : Block) : Except DateFault Shipment :=
  (b.lines.foldlM readLine (Section.other, { awb := b.awb })).map (·.2)

def shipmentsOf [Present] (report : Text) : Except DateFault (List Shipment) :=
  (blocksOf report).mapM Shipment.ofBlock

/-! ## Reports of a request -/

/-- Why a report cannot be read. -/
inductive ReportFault where
  /-- A date of it is out of range. -/
  | date (fault : DateFault)
  /-- It is no text. -/
  | kind (fault : Json.KindFault)

/-- The wording of a fault. -/
def ReportFault.message : ReportFault → Text
  | .date f => f.message
  | .kind f => f.message

/-- The name of the logger of reports. -/
def reportLogger : Text := "carrier_status_engine.api.dhl_report".toList

/-- The shipments of a report that is a value of any kind, with an entry that counts them. -/
def readReport [Present] (v : Json) : Log.Journal ReportFault (List Shipment) := do
  let report ← .ofExcept ((v.textFor .lines).mapError .kind)
  let shipments ← .ofExcept ((shipmentsOf report).mapError .date)
  let events := (shipments.flatMap (·.events)).length
  Log.Journal.write Log.debug reportLogger
    ("parse_dhl_report: ".toList ++ ofNat shipments.length ++ " shipment(s), ".toList
      ++ ofNat events ++ " event(s)".toList)
  return shipments

end ParcelStatus.Dhl
