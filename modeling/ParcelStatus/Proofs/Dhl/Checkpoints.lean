import ParcelStatus.Dhl.Report
import ParcelStatus.Proofs.Tracking.Dates

/-!
# Dates of the checkpoints of a report

Reading a report can fail at one place only: at the date of a line that gives a checkpoint. Which
lines do is told here without reading a date.

* `numberedColumns` — the columns of a line of checkpoints, with the number of the waybill put in
  where it was left blank;
* `checkpointDate?` — the date column of a line that gives an event;
* `Section.after` — the section behind a line;
* `datesFrom`, `reportDates` — the dates of a block and of a report, in order;
* `readLine_frame` — what a line leaves as it is;
* `shipmentsOf_restsOn` — a report is read when all its dates can be, and fails with the fault of
  one of them.
-/

namespace ParcelStatus.Dhl

open Text Outcome

/-! ## Lines of checkpoints -/

/-- The columns of a line of checkpoints. A number that was left blank is that of the waybill. -/
def numberedColumns (awb line : Text) : List Text :=
  match columns line with
  | first :: _ => if first.length < minNumberLength then awb :: columns line else columns line
  | [] => [awb]

/-- The date column of a line that gives an event: it has a code, and is about the waybill. -/
def checkpointDate? (awb line : Text) : Option Text :=
  if line = [] || occursIn "-----".toList line then none
  else match numberedColumns awb line with
    | number :: _ :: _ :: _ :: _ :: code :: date :: _ =>
      if code = [] || number ≠ awb then none else some date
    | _ => none

/-- A line that is neither empty nor a rule is read by its columns. -/
theorem eventOfLine_of_numbered [Present] {awb line : Text}
    (read : ¬(line = [] || occursIn "-----".toList line) = true) :
    eventOfLine awb line =
      match numberedColumns awb line with
      | number :: _ :: _ :: facility :: _ :: code :: date :: rest =>
        if code = [] || number ≠ awb then .ok none
        else do
          let date ← readDate (.str date)
          return some {
            description := join [' '] (rest.drop 1)
            date
            eventType := code
            location := if facility = [] then none else some facility }
      | _ => .ok none := by
  rw [eventOfLine, if_neg read]
  rfl

/-- A line of checkpoints rests on the date of its event, if it gives one. -/
theorem eventOfLine_restsOn [Present] (awb line : Text) :
    RestsOn (eventOfLine awb line) ((checkpointDate? awb line).map .str).toList := by
  by_cases skipped : (line = [] || occursIn "-----".toList line) = true
  · rw [eventOfLine, checkpointDate?, if_pos skipped, if_pos skipped]
    exact restsOn_ok none
  · rw [eventOfLine_of_numbered skipped, checkpointDate?, if_neg skipped]
    generalize numberedColumns awb line = cols
    split
    · rename_i number _ _ facility _ code date rest
      by_cases other : (code = [] || number ≠ awb) = true
      · rw [if_pos other, if_pos other]
        exact restsOn_ok none
      · rw [if_neg other, if_neg other]
        exact (restsOn_readDate (.str date)).bind_ok fun m => ⟨_, rfl⟩
    · exact restsOn_ok none

/-! ## Sections -/

/-- The section behind a line. -/
def Section.after (place : Section) (line : Text) : Section :=
  match lineKind line with
  | .header => .header
  | .accounts _ _ => .other
  | .receiver => .receiver
  | .events => .events
  | .awb _ | .data => place

/-- The dates that a line of a block has, which is one at most. -/
def lineDates (awb : Text) (place : Section) (line : Text) : List Json :=
  match lineKind line, place with
  | .data, .events => ((checkpointDate? awb line).map .str).toList
  | _, _ => []

/-- The dates of lines of a block from a section on. -/
def datesFrom (awb : Text) (place : Section) : List Text → List Json
  | [] => []
  | line :: rest => lineDates awb place line ++ datesFrom awb (place.after line) rest

def Block.dates (b : Block) : List Json := datesFrom b.awb .other b.lines

def reportDates (report : Text) : List Json := (blocksOf report).flatMap Block.dates

/-! ## Reading -/

theorem awb_withHeader (s : Shipment) (line : Text) : (s.withHeader line).awb = s.awb := by
  unfold Shipment.withHeader
  split
  · rfl
  · split
    · dsimp only
      split <;> split <;> split <;> split <;> rfl
    · rfl

/-- Data in the section of checkpoints puts its event behind those of the shipment. -/
theorem readLine_data_events [Present] (s : Shipment) {line : Text} (kind : lineKind line = .data) :
    readLine (.events, s) line = (eventOfLine s.awb line).map fun e? =>
      (.events, { s with events := s.events ++ e?.toList }) := by
  simp only [readLine, kind]
  cases eventOfLine s.awb line with
  | error fault => rfl
  | ok e? =>
    cases e? with
    | some e => rfl
    | none =>
      rw [ok_bind, map_ok, Option.toList_none, List.append_nil]
      rfl

/-- A line without a date moves the section on and keeps the number of the waybill. -/
theorem readLine_of_no_dates [Present] {place : Section} {line : Text} (s : Shipment)
    (dateless : ¬(lineKind line = .data ∧ place = .events)) :
    ∃ s', readLine (place, s) line = .ok (place.after line, s') ∧ s'.awb = s.awb := by
  cases kind : lineKind line with
  | data =>
    cases place with
    | events => exact absurd ⟨kind, rfl⟩ dateless
    | other => exact ⟨s, by simp only [readLine, Section.after, kind], rfl⟩
    | header =>
      exact ⟨s.withHeader line, by simp only [readLine, Section.after, kind], awb_withHeader s line⟩
    | receiver =>
      exact ⟨{ s with receiver := s.receiver.withLine line },
        by simp only [readLine, Section.after, kind], rfl⟩
  | accounts shipper payer =>
    exact ⟨{ s with shipperAccount := shipper, payerAccount := payer },
      by simp only [readLine, Section.after, kind], rfl⟩
  | _ => exact ⟨s, by simp only [readLine, Section.after, kind], rfl⟩

theorem lineDates_of_no_dates {place : Section} {line : Text} (awb : Text)
    (dateless : ¬(lineKind line = .data ∧ place = .events)) : lineDates awb place line = [] := by
  unfold lineDates
  split
  · rename_i kind
    exact absurd ⟨kind, rfl⟩ dateless
  · rfl

theorem readLine_restsOn [Present] (place : Section) (s : Shipment) (line : Text) :
    RestsOn (readLine (place, s) line) (lineDates s.awb place line) := by
  by_cases dated : lineKind line = .data ∧ place = .events
  · obtain ⟨kind, rfl⟩ := dated
    rw [readLine_data_events s kind]
    simp only [lineDates, kind]
    exact (eventOfLine_restsOn s.awb line).map _
  · obtain ⟨s', read, -⟩ := readLine_of_no_dates s dated
    rw [read, lineDates_of_no_dates s.awb dated]
    exact restsOn_ok _

/-- A line that is read moves the section on and keeps the number of the waybill. -/
theorem readLine_frame [Present] {place place' : Section} {s s' : Shipment} {line : Text}
    (read : readLine (place, s) line = .ok (place', s')) :
    place' = place.after line ∧ s'.awb = s.awb := by
  by_cases dated : lineKind line = .data ∧ place = .events
  · obtain ⟨kind, rfl⟩ := dated
    rw [readLine_data_events s kind, map_eq_ok_iff] at read
    obtain ⟨e?, -, same⟩ := read
    cases same
    exact ⟨by simp only [Section.after, kind], rfl⟩
  · obtain ⟨s'', read', keeps⟩ := readLine_of_no_dates s dated
    rw [read'] at read
    cases read
    exact ⟨rfl, keeps⟩

theorem readLines_restsOn [Present] (place : Section) (s : Shipment) (lines : List Text) :
    RestsOn (lines.foldlM readLine (place, s)) (datesFrom s.awb place lines) := by
  -- The dates of the lines to come depend on the section and the number of the waybill only, and
  -- each line tells the section behind it.
  induction lines generalizing place s with
  | nil => exact restsOn_ok (place, s)
  | cons line rest ih =>
    rw [List.foldlM_cons, datesFrom]
    refine (readLine_restsOn place s line).bind ?_
    rintro ⟨place', s'⟩ read
    obtain ⟨rfl, same⟩ := readLine_frame read
    rw [← same]
    exact ih (place.after line) s'

theorem ofBlock_restsOn [Present] (b : Block) : RestsOn (Shipment.ofBlock b) b.dates :=
  (readLines_restsOn .other { awb := b.awb } b.lines).map _

theorem shipmentsOf_restsOn [Present] (report : Text) :
    RestsOn (shipmentsOf report) (reportDates report) :=
  restsOn_mapM ofBlock_restsOn (blocksOf report)

end ParcelStatus.Dhl
