import ParcelStatus.Proofs.Dhl.Blocks
import ParcelStatus.Proofs.Dhl.Concatenation
import ParcelStatus.Proofs.Dhl.Rows

/-!
# Remarks of checkpoints

The remark of a checkpoint is free text at the end of its line. Another remark changes the
description of that one event and nothing else, as long as its line stays plain. Headings and rules
are looked for anywhere in a line, though, so a remark can make its line one of them; then the event
is lost.

* `OpenReport` — a report with a row whose remark is left open;
* `OpenReport.trim_line` — the columns of the row whatever the remark is, by its line;
* `OpenReport.shipmentsOf_text` — the shipments as a function of the remark;
* `OpenReport.length_dates_lt` — a line that is not plain costs an event;
* `OpenReport.remark_is_text` — the report with another remark says the same but for one description
  exactly when the line of the row stays plain.
-/

namespace ParcelStatus.Dhl

open Text Outcome

/-! ## Reports with an open remark -/

/-- A report with a row in the table of a waybill, where the remark of the row is left open. -/
structure OpenReport where
  /-- What stands before the line of the row. -/
  front : Text
  margin : Text
  /-- The row up to its data. -/
  head : Text
  gap : Text
  /-- What stands behind the line of the row. -/
  back : Text
  awb : Text
  row : RowHead
  endsLine : EndsLine front
  followsLine : FollowsLine back
  isMargin : Margin margin
  isGap : Gap gap
  long : minNumberLength ≤ awb.length
  written : Gapped (awb :: row.columns) head
  inTable : standing ((lines front).map trim) = some (awb, .events)

/-- The columns of a remark. -/
def remarkColumns (remark : Text) : List Text :=
  if trim remark = [] then [] else columns (trim remark)

/-- The description that a remark gives. -/
def describe (remark : Text) : Text := join [' '] (remarkColumns remark)

/-- A remark without two blanks in a row is the description itself. -/
theorem describe_of_single {remark : Text} (single : HasSingleBlanks remark) :
    describe remark = trim remark := by
  unfold describe remarkColumns
  split
  next empty => rw [empty]; rfl
  next some_ =>
    obtain ⟨front, behind, shape, -, -⟩ := exists_margins remark
    rw [HasSingleBlanks, shape] at single
    have core : HasSingleBlanks (trim remark) := single.right_of_append.left_of_append
    rw [columns_single core (trimmed_trim some_).last]
    rfl

namespace OpenReport

variable (r : OpenReport) {m : Text}

/-- The line of the row. -/
def line (m : Text) : Text := r.margin ++ (r.head ++ (r.gap ++ m))

/-- The report with a remark. -/
def text (m : Text) : Text := r.front ++ (r.line m ++ r.back)

/-- The trimmed line goes on behind the row with the columns of the remark. -/
theorem trim_line (oneLine : IsOneLine m) : ∃ behind, trim (r.line m) = r.head ++ behind ∧
    numberedColumns r.awb (trim (r.line m)) = r.awb :: (r.row.columns ++ remarkColumns m) := by
  have numbered {cols : List Text} (columns : columns (trim (r.line m)) = r.awb :: cols) :
      numberedColumns r.awb (trim (r.line m)) = r.awb :: cols := by
    rw [numberedColumns, columns]
    exact if_neg (Nat.not_lt.2 r.long)
  obtain ⟨lead, tail, shape, blankLead, blankTail⟩ := exists_margins m
  unfold remarkColumns
  split
  next empty =>
    have blank : ∀ c ∈ r.gap ++ m, isBlank c = true :=
      List.forall_mem_append.2 ⟨r.isGap.blank, trim_eq_nil_iff.1 empty⟩
    have whole : trim (r.line m) = r.head := r.written.trimmed.trim_margins r.isMargin.blank blank
    refine ⟨[], by rw [whole, List.append_nil], numbered ?_⟩
    rw [whole, r.written.columns, List.append_nil]
  next some_ =>
    -- The blanks in front of the remark widen the gap.
    have core := trimmed_trim some_
    have wide : Gap (r.gap ++ lead) := by
      rw [shape] at oneLine
      have long := r.isGap.wide
      refine ⟨by rw [List.length_append]; omega, ?_, ?_⟩
      · exact List.forall_mem_append.2 ⟨r.isGap.blank, blankLead⟩
      · exact List.forall_mem_append.2 ⟨r.isGap.oneLine, (List.forall_mem_append.1 oneLine).1⟩
    have whole : trim (r.line m) = r.head ++ ((r.gap ++ lead) ++ trim m) := by
      have trimmed := r.written.trimmed.append core (r.gap ++ lead)
      have same := trimmed.trim_margins r.isMargin.blank blankTail
      have order : r.line m = r.margin ++ (r.head ++ (r.gap ++ lead ++ trim m) ++ tail) := by
        rw [line]
        nth_rewrite 1 [shape]
        simp only [List.append_assoc]
      rw [order, same]
    refine ⟨_, whole, numbered ?_⟩
    obtain ⟨c, rest, first⟩ := List.exists_cons_of_ne_nil some_
    have solid : isBlank c = false := core.first c (by rw [first]; rfl)
    rw [whole, r.written.columns_append wide, first, columnsFrom_solid solid]
    rfl

/-! ## Its lines and blocks -/

theorem line_ne_nil (m : Text) : r.line m ≠ [] := by
  simp [line, r.written.trimmed.nonempty]

theorem oneLine_line (oneLine : IsOneLine m) : IsOneLine (r.line m) := by
  have behind : IsOneLine (r.gap ++ m) := List.forall_mem_append.2 ⟨r.isGap.oneLine, oneLine⟩
  have row : IsOneLine (r.head ++ (r.gap ++ m)) :=
    List.forall_mem_append.2 ⟨r.written.oneLine, behind⟩
  exact List.forall_mem_append.2 ⟨r.isMargin.oneLine, row⟩

theorem lines_text (oneLine : IsOneLine m) :
    lines (r.text m) = lines r.front ++ r.line m :: (lines r.back).tail :=
  lines_around r.endsLine (r.oneLine_line oneLine) (r.line_ne_nil m) r.followsLine

/-- The blocks of the report differ in the line of the row alone. -/
theorem exists_blocks : ∃ blocks inner rest later, inner.foldl Section.after .other = .events ∧
    ∀ m, IsOneLine m → (∀ number, lineKind (trim (r.line m)) ≠ .awb number) →
      blocksOf (r.text m) = blocks ++ ⟨r.awb, inner ++ trim (r.line m) :: rest⟩ :: later := by
  obtain ⟨blocks, inner, place, split⟩ := splitBlocks_at r.inTable
  let behind := splitBlocks ((lines r.back).tail.map trim)
  refine ⟨blocks, inner, behind.1, behind.2, place.symm, fun m oneLine inside => ?_⟩
  rw [blocksOf, r.lines_text oneLine, List.map_append, List.map_cons]
  exact split _ _ inside

/-- The row fills the front of its line, as far as the marks in front of other lines go. -/
theorem noMark (oneLine : IsOneLine m) (plain : PlainLine (trim (r.line m))) {m' : Text}
    (oneLine' : IsOneLine m') :
    ∀ mark ∈ [awbMark, shipperAccountMark, headerMark],
      mark.isPrefixOf (trim (r.line m')) = false := by
  intro mark member
  obtain ⟨b, line, -⟩ := r.trim_line oneLine
  obtain ⟨b', line', -⟩ := r.trim_line oneLine'
  have short : mark.length ≤ r.head.length := by
    have marks : ∀ mark ∈ [awbMark, shipperAccountMark, headerMark], mark.length ≤ 25 := by decide
    have length := r.written.length_ge _ _ rfl
    have long : 10 ≤ r.awb.length := r.long
    have columns : r.row.columns.length = 7 := rfl
    have most := marks mark member
    omega
  have other := plain.noMark mark member
  rw [← Bool.not_eq_true, List.isPrefixOf_iff_prefix] at other ⊢
  rw [line] at other
  rw [line']
  intro marked
  have inHead : mark <+: r.head :=
    List.prefix_of_prefix_length_le marked (List.prefix_append r.head b') short
  exact other (inHead.trans (List.prefix_append r.head b))

/-! ## Its shipments -/

/-- What is read of the block without the remark: the events before the row, the date of the row,
and the shipment with the events behind it. -/
def readBlock [Present] (inner rest : List Text) :
    Except DateFault (List TrackingEvent × Moment × Shipment) := do
  let (_, s) ← inner.foldlM readLine (.other, { awb := r.awb })
  let date ← readDate (.str r.row.date)
  let (_, later) ← rest.foldlM readLine (.events, { s with events := [] })
  return (s.events, date, later)

theorem eventOfLine_line [Present] (oneLine : IsOneLine m) (plain : PlainLine (trim (r.line m))) :
    eventOfLine r.awb (trim (r.line m)) = (r.row.read (remarkColumns m)).map some := by
  obtain ⟨_, -, columns⟩ := r.trim_line oneLine
  exact eventOfLine_of_columns columns plain.noRule

theorem ofBlock_line [Present] {inner : List Text}
    (leads : inner.foldl Section.after .other = .events)
    (rest : List Text) (oneLine : IsOneLine m) (plain : PlainLine (trim (r.line m))) :
    Shipment.ofBlock ⟨r.awb, inner ++ trim (r.line m) :: rest⟩ =
      (r.readBlock inner rest).map fun (before, date, later) =>
        later.withFirst (before ++ [r.row.event (remarkColumns m) date]) := by
  rw [Shipment.ofBlock, List.foldlM_append, readBlock]
  cases before : inner.foldlM readLine (Section.other, { awb := r.awb }) with
  | error fault => rfl
  | ok at_ =>
    obtain ⟨place, s⟩ := at_
    obtain ⟨rfl, own⟩ := readLines_frame before
    have gives := r.eventOfLine_line oneLine plain
    rw [← show s.awb = r.awb from own] at gives
    rw [leads, ok_bind, ok_bind, List.foldlM_cons, readLine_data_events s plain.data, gives,
      RowHead.read]
    cases readDate (.str r.row.date) with
    | error fault => rfl
    | ok date =>
      -- The events so far are a frame for the lines that follow.
      have frame := readLines_withFirst .events { s with events := [] }
        (s.events ++ [r.row.event (remarkColumns m) date]) rest
      have split : Shipment.withFirst { s with events := [] }
          (s.events ++ [r.row.event (remarkColumns m) date]) =
            { s with events := s.events ++ [r.row.event (remarkColumns m) date] } := by
        simp [Shipment.withFirst]
      rw [split] at frame
      show (rest.foldlM readLine (.events,
        { s with events := s.events ++ [r.row.event (remarkColumns m) date] })).map _ = _
      rw [frame]
      dsimp only
      cases rest.foldlM readLine (Section.events, { s with events := [] }) with
      | error fault => rfl
      | ok at_ => rfl

/-- What is read of the report without the remark: the shipments before that of the row, what is
read of its block, and the shipments behind it. -/
def readAround [Present] (blocks : List Block) (inner rest : List Text) (later : List Block) :
    Except DateFault
      (List Shipment × (List TrackingEvent × Moment × Shipment) × List Shipment) := do
  let first ← blocks.mapM Shipment.ofBlock
  let read ← r.readBlock inner rest
  let last ← later.mapM Shipment.ofBlock
  return (first, read, last)

theorem date_of_readAround [Present] {blocks : List Block} {inner rest : List Text}
    {later : List Block}
    {first last : List Shipment} {before : List TrackingEvent} {date : Moment} {behind : Shipment}
    (work : r.readAround blocks inner rest later = .ok (first, (before, date, behind), last)) :
    readDate (.str r.row.date) = .ok date := by
  obtain ⟨_, -, work⟩ := bind_eq_ok_iff.1 work
  obtain ⟨_, block, work⟩ := bind_eq_ok_iff.1 work
  obtain ⟨_, -, same⟩ := bind_eq_ok_iff.1 work
  cases same
  obtain ⟨_, -, block⟩ := bind_eq_ok_iff.1 block
  obtain ⟨_, dated, block⟩ := bind_eq_ok_iff.1 block
  obtain ⟨_, -, same⟩ := bind_eq_ok_iff.1 block
  cases same
  exact dated

/-- The shipments with the event of the row in its place. -/
def filled (m : Text) :
    List Shipment × (List TrackingEvent × Moment × Shipment) × List Shipment → List Shipment
  | (first, (before, date, behind), last) =>
    first ++ behind.withFirst (before ++ [r.row.event (remarkColumns m) date]) :: last

variable {blocks : List Block} {inner rest : List Text} {later : List Block}

/-- Where the line of the row is plain, the shipments hold its event, and all else is read without
the remark. -/
theorem shipmentsOf_text [Present] (leads : inner.foldl Section.after .other = .events)
    (split : ∀ m, IsOneLine m → (∀ number, lineKind (trim (r.line m)) ≠ .awb number) →
      blocksOf (r.text m) = blocks ++ ⟨r.awb, inner ++ trim (r.line m) :: rest⟩ :: later)
    (oneLine : IsOneLine m) (plain : PlainLine (trim (r.line m))) :
    shipmentsOf (r.text m) = (r.readAround blocks inner rest later).map (r.filled m) := by
  have inside : ∀ number, lineKind (trim (r.line m)) ≠ .awb number := by simp [plain.data]
  rw [shipmentsOf, split m oneLine inside, List.mapM_append, List.mapM_cons,
    r.ofBlock_line leads rest oneLine plain, readAround]
  cases blocks.mapM Shipment.ofBlock with
  | error fault => rfl
  | ok first =>
    cases r.readBlock inner rest with
    | error fault => rfl
    | ok read =>
      cases later.mapM Shipment.ofBlock with
      | error fault => rfl
      | ok last => rfl

/-- A line of the row that is not plain costs the block an event. -/
theorem length_dates_lt {inner : List Text} (leads : inner.foldl Section.after .other = .events)
    (rest : List Text) (oneLine : IsOneLine m) (plain : PlainLine (trim (r.line m))) {m' : Text}
    (unplain : ¬PlainLine (trim (r.line m'))) :
    (Block.dates ⟨r.awb, inner ++ trim (r.line m') :: rest⟩).length <
      (Block.dates ⟨r.awb, inner ++ trim (r.line m) :: rest⟩).length := by
  obtain ⟨_, -, columns⟩ := r.trim_line oneLine
  have dated := checkpointDate?_of_columns columns plain.noRule
  have one : lineDates r.awb .events (trim (r.line m)) = [.str r.row.date] := by
    simp only [lineDates, plain.data, dated]
    rfl
  have none : lineDates r.awb .events (trim (r.line m')) = [] :=
    lineDates_of_not_plain unplain r.awb
  have stays : Section.events.after (trim (r.line m)) = .events := by
    simp only [Section.after, plain.data]
  have fewer := (datesFrom_sublist r.awb (Section.events.after (trim (r.line m'))) rest).length_le
  simp only [Block.dates, datesFrom_append, leads, datesFrom, one, none, stays, List.length_append,
    List.length_cons, List.length_nil]
  omega

end OpenReport

/-! ## Other remarks -/

/-- The shipments with another description for one event of one of them. -/
def redescribe (block place : Nat) (description : Text) (shipments : List Shipment) :
    List Shipment :=
  shipments.modify block fun s =>
    { s with events := s.events.modify place fun e => { e with description } }

theorem modify_append_cons {α : Type} (xs : List α) (x : α) (ys : List α) (f : α → α) :
    (xs ++ x :: ys).modify xs.length f = xs ++ f x :: ys := by
  induction xs with
  | nil => rfl
  | cons y xs ih => simpa using ih

namespace OpenReport

variable (r : OpenReport)

theorem redescribe_filled (m m' : Text)
    (read : List Shipment × (List TrackingEvent × Moment × Shipment) × List Shipment) :
    redescribe read.1.length read.2.1.1.length (describe m') (r.filled m read) =
      r.filled m' read := by
  obtain ⟨first, ⟨before, date, behind⟩, last⟩ := read
  simp only [redescribe, filled, modify_append_cons, Shipment.withFirst, List.append_assoc,
    List.singleton_append]
  rfl

/-- A remark whose line is not plain loses the event, so that the report does not say the same. -/
theorem plain_of_redescribed [Present] {m m' : Text} (oneLine : IsOneLine m)
    (plain : PlainLine (trim (r.line m))) (oneLine' : IsOneLine m') {shipments : List Shipment}
    (read : shipmentsOf (r.text m) = .ok shipments) {block place : Nat} {description : Text}
    (read' : shipmentsOf (r.text m') = .ok (redescribe block place description shipments)) :
    PlainLine (trim (r.line m')) := by
  obtain ⟨blocks, inner, rest, later, leads, split⟩ := r.exists_blocks
  by_contra unplain
  have fewer := r.length_dates_lt leads rest oneLine plain unplain
  have inside : ∀ number, lineKind (trim (r.line m)) ≠ .awb number := by simp [plain.data]
  have inside' : ∀ number, lineKind (trim (r.line m')) ≠ .awb number := by
    have noMark := r.noMark oneLine plain oneLine' awbMark (by simp)
    exact lineKind_ne_awb noMark
  rw [shipmentsOf, split m oneLine inside] at read
  rw [shipmentsOf, split m' oneLine' inside'] at read'
  have here (b : Block) : (blocks ++ b :: later)[blocks.length]? = some b := by simp
  obtain ⟨s, there, ofBlock⟩ := getElem?_of_mapM read (here _)
  obtain ⟨s', there', ofBlock'⟩ := getElem?_of_mapM read' (here _)
  have length := length_events_of_ofBlock ofBlock
  have length' := length_events_of_ofBlock ofBlock'
  have same : s'.events.length = s.events.length := by
    rw [redescribe, List.getElem?_modify, there, Option.map_eq_map, Option.map_some,
      Option.some.injEq] at there'
    rw [← there']
    split <;> simp
  omega

/-- The event of the row has one place whatever its remark is. Where the line of the row is plain,
the event has the columns of the row; another remark describes this event anew and changes nothing
else exactly when the line stays plain. -/
theorem remark_is_text [Present] :
    ∃ block place, ∀ m, IsOneLine m → PlainLine (trim (r.line m)) →
      (∀ shipments, shipmentsOf (r.text m) = .ok shipments →
        ∃ s ∈ shipments[block]?, ∃ e ∈ s.events[place]?, ∃ date,
          readDate (.str r.row.date) = .ok date ∧ e = r.row.event (remarkColumns m) date) ∧
      ∀ m', IsOneLine m' →
        (PlainLine (trim (r.line m')) →
          shipmentsOf (r.text m') =
            (shipmentsOf (r.text m)).map (redescribe block place (describe m'))) ∧
        ∀ shipments, shipmentsOf (r.text m) = .ok shipments →
          shipmentsOf (r.text m') = .ok (redescribe block place (describe m') shipments) →
          PlainLine (trim (r.line m')) := by
  obtain ⟨blocks, inner, rest, later, leads, split⟩ := r.exists_blocks
  have whole {m : Text} := r.shipmentsOf_text (m := m) leads split
  cases work : r.readAround blocks inner rest later with
  | error fault =>
    have fails {m : Text} (oneLine : IsOneLine m) (plain : PlainLine (trim (r.line m))) :
        shipmentsOf (r.text m) = .error fault := by
      rw [whole oneLine plain, work]
      rfl
    refine ⟨0, 0, fun m oneLine plain => ⟨?_, fun m' oneLine' => ⟨fun plain' => ?_, ?_⟩⟩⟩
    · intro shipments read
      rw [fails oneLine plain] at read
      cases read
    · rw [fails oneLine plain, fails oneLine' plain']
      rfl
    · intro shipments read
      rw [fails oneLine plain] at read
      cases read
  | ok read =>
    have returns {m : Text} (oneLine : IsOneLine m) (plain : PlainLine (trim (r.line m))) :
        shipmentsOf (r.text m) = .ok (r.filled m read) := by
      rw [whole oneLine plain, work]
      rfl
    refine ⟨read.1.length, read.2.1.1.length, fun m oneLine plain =>
      ⟨?_, fun m' oneLine' => ⟨fun plain' => ?_, fun shipments => ?_⟩⟩⟩
    · intro shipments same
      rw [returns oneLine plain] at same
      cases same
      obtain ⟨first, ⟨before, date, behind⟩, last⟩ := read
      refine ⟨behind.withFirst (before ++ [r.row.event (remarkColumns m) date]), ?_,
        r.row.event (remarkColumns m) date, ?_, date, r.date_of_readAround work, rfl⟩
      · simp [filled]
      · simp [Shipment.withFirst]
    · rw [returns oneLine plain, returns oneLine' plain', map_ok, r.redescribe_filled]
    · exact fun done => r.plain_of_redescribed oneLine plain oneLine' done

end OpenReport

/-! ## Two rows -/

/-- A parcel that arrives at a facility. -/
def arrival : RowHead where
  orig := "MEX".toList
  dest := "HMO".toList
  facility := "HMO".toList
  route := "R2".toList
  code := "AR".toList
  date := "2025-01-09 07:40".toList
  data := "Y".toList
  filled := by decide

/-- A table of an arrival, whose remark is open, and of a delivery. -/
def arrivalReport : OpenReport where
  front := "AWB : 1234567890\nAWB/PID  Orig\n".toList
  margin := []
  head := join [' ', ' '] ("1234567890".toList :: arrival.columns)
  gap := [' ', ' ']
  back := "\n1234567890  MEX  HMO  HMO  R3  FD  2025-01-09 09:00  Y  Delivered".toList
  awb := "1234567890".toList
  row := arrival
  endsLine := by decide
  followsLine := by decide
  isMargin := by decide
  isGap := by decide
  long := by decide
  written := .of_join (by decide) (by simp) (by decide)
  inTable := by decide +kernel

attribute [local instance] Present.sample

/-- A courier instead of the arrival: the delivery behind it is not touched. -/
theorem remark_is_text_of_arrival :
    PlainLine (trim (arrivalReport.line "Arrived at facility".toList)) ∧
      PlainLine (trim (arrivalReport.line "With the courier".toList)) ∧
      ∃ block place, shipmentsOf (arrivalReport.text "With the courier".toList) =
        (shipmentsOf (arrivalReport.text "Arrived at facility".toList)).map
          (redescribe block place "With the courier".toList) := by
  have plain : PlainLine (trim (arrivalReport.line "Arrived at facility".toList)) := by
    decide +kernel
  have plain' : PlainLine (trim (arrivalReport.line "With the courier".toList)) := by
    decide +kernel
  obtain ⟨block, place, each⟩ := arrivalReport.remark_is_text
  obtain ⟨-, others⟩ := each "Arrived at facility".toList (by decide) plain
  have same := (others "With the courier".toList (by decide)).1 plain'
  have described : describe "With the courier".toList = "With the courier".toList :=
    (describe_of_single (by decide)).trans (by decide)
  rw [described] at same
  exact ⟨plain, plain', block, place, same⟩

/-- A remark that names both parties is taken for the heading of their addresses, and the table ends
there; one with a dash of five loses its own event. -/
theorem remark_taken_for_heading :
    HasSingleBlanks "Receiver called the Shipper".toList ∧
      (shipmentsOf (arrivalReport.text "Arrived at facility".toList)).map
          (·.map (·.events.map (·.eventType))) = .ok [["AR".toList, "FD".toList]] ∧
      (shipmentsOf (arrivalReport.text "Receiver called the Shipper".toList)).map
          (·.map (·.events.map (·.eventType))) = .ok [[]] ∧
      (shipmentsOf (arrivalReport.text "see -----".toList)).map
          (·.map (·.events.map (·.eventType))) = .ok [["FD".toList]] ∧
      ∀ block place description,
        shipmentsOf (arrivalReport.text "Receiver called the Shipper".toList) ≠
          (shipmentsOf (arrivalReport.text "Arrived at facility".toList)).map
            (redescribe block place description) := by
  refine ⟨by decide, by decide +kernel, by decide +kernel, by decide +kernel, ?_⟩
  intro block place description same
  have plain : PlainLine (trim (arrivalReport.line "Arrived at facility".toList)) := by
    decide +kernel
  have unplain : ¬PlainLine (trim (arrivalReport.line "Receiver called the Shipper".toList)) := by
    decide +kernel
  cases read : shipmentsOf (arrivalReport.text "Arrived at facility".toList) with
  | error fault =>
    have reads : (shipmentsOf (arrivalReport.text "Arrived at facility".toList)).isOk = true := by
      decide +kernel
    rw [read] at reads
    cases reads
  | ok shipments =>
    rw [read] at same
    exact unplain (arrivalReport.plain_of_redescribed (by decide) plain (by decide) read same)

end ParcelStatus.Dhl
