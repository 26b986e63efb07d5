import ParcelStatus.Proofs.Dhl.Places
import ParcelStatus.Proofs.Dhl.Recording

/-!
# Shipments in normal form

Whatever a report holds, the shipments that are read off it are in normal form: no text of them
has blanks at its ends, the stations and the time of the shipment are filled together, and each
event has a type and a place. A line is trimmed before it is read, so all that is cut out of it is
bare; and no line takes the form away from a shipment that has it.

* `NormalEvent`, `Shipment.Normal` — the normal form;
* `bare_of_lineKind`, `normal_eventOfLine` — what is cut out of one line;
* `Shipment.Normal.withHeader`, `.withReceiver`, `.withAccounts`, `.withEvent` — the fields that a
  line fills;
* `Shipment.Normal.readLine`, `Pass.Normal.step` — what one line preserves;
* `Pass.Normal.run` — what all lines of a report preserve;
* `shipmentsOf_normal` — the shipments of a report, and that no place of its lines is missing.
-/

namespace ParcelStatus.Dhl

open Text Outcome

/-! ## The normal form -/

/-- The fields of a receiver. -/
def Receiver.texts (r : Receiver) : List Text :=
  [r.name, r.contactName, r.address1, r.address2, r.city, r.state, r.country, r.zip, r.phone]

/-- The texts of a shipment, those of its events apart. -/
def Shipment.texts (s : Shipment) : List Text :=
  [s.awb, s.origin, s.destination, s.shipmentTime, s.product, s.description, s.shipperAccount,
    s.payerAccount] ++ s.receiver.texts

theorem forall_mem_texts {s : Shipment} {P : Text → Prop} : (∀ t ∈ s.texts, P t) ↔
    (P s.awb ∧ P s.origin ∧ P s.destination ∧ P s.shipmentTime ∧ P s.product ∧ P s.description ∧
      P s.shipperAccount ∧ P s.payerAccount) ∧ ∀ t ∈ s.receiver.texts, P t := by
  simp [Shipment.texts, or_imp, forall_and, and_assoc]

/-- An event with a type and a place. Its description may be empty. -/
structure NormalEvent (e : TrackingEvent) : Prop where
  eventType : Piece e.eventType
  placed : ∃ location, e.location = some location ∧ Trimmed location
  description : Bare e.description ∧ HasSingleBlanks e.description

/-- The stations and the time are not filled, or filled by a line of stations and weights. -/
def Shipment.Routed (s : Shipment) : Prop :=
  (s.origin = [] ∧ s.destination = [] ∧ s.shipmentTime = []) ∨
    Station s.origin ∧ Station s.destination ∧ BeginsWithStamp s.shipmentTime

/-- What holds of every shipment of a report. -/
structure Shipment.Normal (s : Shipment) : Prop where
  bare : ∀ t ∈ s.texts, Bare t
  routed : s.Routed
  events : ∀ e ∈ s.events, NormalEvent e

theorem Shipment.normal_start {awb : Text} (bare : Bare awb) :
    ({ awb } : Shipment).Normal where
  bare := by simp [Shipment.texts, Receiver.texts, bare, bare_nil]
  routed := .inl ⟨rfl, rfl, rfl⟩
  events := by simp

/-! ## What is cut out of a line -/

/-- The texts that a line carries in its kind. -/
def LineKind.texts : LineKind → List Text
  | .awb number => [number]
  | .accounts shipper payer => [shipper, payer]
  | _ => []

theorem bare_of_lineKind (line : Text) : ∀ t ∈ (lineKind line).texts, Bare t := by
  unfold lineKind accountsOf
  split
  · simp [LineKind.texts, bare_trim]
  split
  · simp [LineKind.texts]
  split
  · split <;> simp [LineKind.texts, bare_trim, bare_nil]
  split
  · simp [LineKind.texts]
  split <;> simp [LineKind.texts]

/-- Only the number of a line of checkpoints can come from anywhere else than the line. -/
theorem numberedColumns_pieces {line : Text} (trimmed : Trimmed line) (awb : Text) :
    ∀ p ∈ (numberedColumns awb line).tail, Piece p := by
  have pieces := piece_of_mem_columns trimmed
  unfold numberedColumns
  split
  · split
    · exact pieces
    · exact fun p behind => pieces p (List.mem_of_mem_tail behind)
  · simp

theorem normal_eventOfLine [Present] {awb line : Text} (bare : Bare line) {e : TrackingEvent}
    (read : eventOfLine awb line = .ok (some e)) : NormalEvent e := by
  by_cases skipped : (line = [] || occursIn "-----".toList line) = true
  · rw [eventOfLine, if_pos skipped] at read
    cases read
  · have some_ : line ≠ [] := by
      rintro rfl
      exact skipped rfl
    have pieces := numberedColumns_pieces (bare.trimmed some_) awb
    rw [eventOfLine_of_numbered skipped] at read
    generalize numberedColumns awb line = cols at read pieces
    split at read
    · rename_i number orig dest facility route code date rest
      split at read
      · cases read
      · obtain ⟨m, -, same⟩ := bind_eq_ok_iff.1 read
        cases same
        simp only [List.tail_cons, List.forall_mem_cons] at pieces
        obtain ⟨-, -, place, -, type, -, remarks⟩ := pieces
        refine ⟨type, ⟨facility, if_neg place.trimmed.nonempty, place.trimmed⟩, bare_join ?_⟩
        exact fun p member => remarks p (List.mem_of_mem_drop member)
    · cases read

/-- A line of stations and weights fills the stations and the time together. -/
theorem Shipment.Normal.withHeader {s : Shipment} (normal : s.Normal) (line : Text) :
    (s.withHeader line).Normal := by
  by_cases header : isHeaderLine line = true
  · obtain ⟨origin, destination, day, time, goods, parts, isOrigin, isDestination, stamp⟩ :=
      words_of_isHeaderLine header
    have word := word_of_mem_words line
    rw [parts] at word
    simp only [List.forall_mem_cons] at word
    obtain ⟨-, -, isDay, isTime, isGoods⟩ := word
    obtain ⟨bare, -, events⟩ := normal
    rw [forall_mem_texts] at bare
    obtain ⟨⟨awb, -, -, -, product, description, shipper, payer⟩, receiver⟩ := bare
    have isProduct : Bare (goods[0]?.getD s.product) := by
      cases first : goods[0]? with
      | none => exact product
      | some t => exact (isGoods t (List.mem_of_getElem? first)).trimmed.bare
    have isDescription :
        Bare (if goods.drop 3 = [] then s.description else join [' '] (goods.drop 3)) := by
      split
      · exact description
      · exact (bare_join fun t member => (isGoods t (List.mem_of_mem_drop member)).piece).1
    rw [withHeader_of_words header parts]
    refine ⟨forall_mem_texts.2 ⟨?_, receiver⟩, .inr ⟨isOrigin, isDestination, stamp⟩, events⟩
    exact ⟨awb, isOrigin.word.trimmed.bare, isDestination.word.trimmed.bare,
      (isDay.piece.append isTime.piece).trimmed.bare, isProduct, isDescription, shipper, payer⟩
  · rw [Shipment.withHeader]
    simpa [header] using normal

theorem bare_withLabel {r : Receiver} (bare : ∀ t ∈ r.texts, Bare t) (label : Text) {value : Text}
    (isBare : Bare value) : ∀ t ∈ (r.withLabel label value).texts, Bare t := by
  simp only [Receiver.texts, List.forall_mem_cons] at bare
  unfold Receiver.withLabel
  split_ifs <;> simp [Receiver.texts, bare, isBare]

theorem Shipment.Normal.withReceiver {s : Shipment} (normal : s.Normal) (line : Text) :
    ({ s with receiver := s.receiver.withLine line } : Shipment).Normal := by
  obtain ⟨own, receiver⟩ := forall_mem_texts.1 normal.bare
  refine ⟨forall_mem_texts.2 ⟨own, ?_⟩, normal.routed, normal.events⟩
  show ∀ t ∈ (s.receiver.withLine line).texts, Bare t
  unfold Receiver.withLine
  split
  · exact bare_withLabel receiver _ (bare_trim _)
  · exact receiver

theorem Shipment.Normal.withAccounts {s : Shipment} (normal : s.Normal) {line shipper payer : Text}
    (kind : lineKind line = .accounts shipper payer) :
    ({ s with shipperAccount := shipper, payerAccount := payer } : Shipment).Normal := by
  have accounts := bare_of_lineKind line
  simp only [kind, LineKind.texts, List.forall_mem_cons] at accounts
  obtain ⟨isShipper, isPayer, -⟩ := accounts
  obtain ⟨⟨awb, origin, destination, time, product, description, -⟩, receiver⟩ :=
    forall_mem_texts.1 normal.bare
  exact ⟨forall_mem_texts.2 ⟨⟨awb, origin, destination, time, product, description, isShipper,
    isPayer⟩, receiver⟩, normal.routed, normal.events⟩

theorem Shipment.Normal.withEvent [Present] {s : Shipment} (normal : s.Normal) {line : Text}
    (bare : Bare line) {e? : Option TrackingEvent} (gives : eventOfLine s.awb line = .ok e?) :
    ({ s with events := s.events ++ e?.toList } : Shipment).Normal := by
  refine ⟨normal.bare, normal.routed, List.forall_mem_append.2 ⟨normal.events, fun e added => ?_⟩⟩
  rw [Option.mem_toList.1 added] at gives
  exact normal_eventOfLine bare gives

/-! ## One line -/

/-- No line takes the form away from a shipment that has it. -/
theorem Shipment.Normal.readLine [Present] {place place' : Section} {s s' : Shipment} {line : Text}
    (normal : s.Normal) (bare : Bare line)
    (read : readLine (place, s) line = .ok (place', s')) : s'.Normal := by
  by_cases dated : lineKind line = .data ∧ place = .events
  · obtain ⟨kind, rfl⟩ := dated
    rw [readLine_data_events s kind, map_eq_ok_iff] at read
    obtain ⟨e?, gives, same⟩ := read
    cases same
    exact normal.withEvent bare gives
  · cases kind : lineKind line with
    | data =>
      cases place with
      | events => exact absurd ⟨kind, rfl⟩ dated
      | header =>
        simp only [Dhl.readLine, kind] at read
        cases read
        exact normal.withHeader line
      | receiver =>
        simp only [Dhl.readLine, kind] at read
        cases read
        exact normal.withReceiver line
      | other =>
        simp only [Dhl.readLine, kind] at read
        cases read
        exact normal
    | accounts shipper payer =>
      simp only [Dhl.readLine, kind] at read
      cases read
      exact normal.withAccounts kind
    | _ =>
      simp only [Dhl.readLine, kind] at read
      cases read
      exact normal

namespace Pass

/-- All the shipments of the pass are in normal form, that of the current block too. -/
def Normal (p : Pass) : Prop := ∀ s ∈ p.shipments, s.Normal

variable {p q : Pass}

theorem normal_iff : p.Normal ↔ (∀ s ∈ p.closed, s.Normal) ∧
    ∀ block ∈ p.current, block.2.Normal := by
  unfold Normal shipments
  rw [List.forall_mem_append]
  cases p.current <;> simp

theorem Normal.step [Present] {line : Text} (normal : p.Normal) (bare : Bare line)
    (stepped : p.step line = .ok q) : q.Normal := by
  obtain ⟨number, start, rfl⟩ | ⟨-, ⟨-, rfl⟩ | ⟨⟨place, s⟩, ⟨place', s'⟩, current, read, rfl⟩⟩ :=
    step_cases stepped
  · have isBare : Bare number := bare_of_lineKind line number (by simp [start, LineKind.texts])
    exact List.forall_mem_append.2
      ⟨normal, List.forall_mem_singleton.2 (Shipment.normal_start isBare)⟩
  · exact normal
  · obtain ⟨closed, own⟩ := normal_iff.1 normal
    refine normal_iff.2 ⟨closed, ?_⟩
    rintro _ ⟨⟩
    exact (own _ current).readLine bare read

/-! ## All lines -/

theorem Normal.run [Present] {ls : List Text} (normal : p.Normal) (bare : ∀ line ∈ ls, Bare line)
    (read : p.run ls = .ok q) : q.Normal := by
  induction ls generalizing p with
  | nil =>
    cases read
    exact normal
  | cons line ls ih =>
    rw [run_cons, bind_eq_ok_iff] at read
    obtain ⟨next, first, rest⟩ := read
    obtain ⟨isBare, behind⟩ := List.forall_mem_cons.1 bare
    exact ih (normal.step isBare first) behind rest

end Pass

/-- Every shipment of a report is in normal form, whatever the report holds. No line of stations and
weights and no line of checkpoints is read at a place that it does not have. -/
theorem shipmentsOf_normal [Present] :
    (∀ report shipments, shipmentsOf report = .ok shipments → ∀ s ∈ shipments, s.Normal) ∧
      (∀ s line, headerByPlaces s line = .ok (s.withHeader line)) ∧
      ∀ awb line, eventByPlaces awb line = .ok (eventOfLine awb line) := by
  refine ⟨fun report shipments read => ?_, headerByPlaces_eq, eventByPlaces_eq⟩
  rw [Pass.shipmentsOf_eq_run, map_eq_ok_iff] at read
  obtain ⟨last, run, rfl⟩ := read
  have start : ({} : Pass).Normal := by simp [Pass.Normal, Pass.shipments]
  refine start.run (fun line member => ?_) run
  obtain ⟨raw, -, rfl⟩ := List.mem_map.1 member
  exact bare_trim raw

/-- A shipment without a number: its line of stations goes on behind the time of day, and its
checkpoint leaves the number blank. -/
def numberlessReport : Text :=
  join ['\n'] ["AWB :".toList, headerMark, "MTY  CUU  2025-02-03 08:05h  P  2".toList,
    "AWB/PID  Orig".toList, "MTY  CUU  CUU  R5  FD  2025-02-04 11:20  Y  In the  lobby".toList]

attribute [local instance] Present.sample

theorem shipmentsOf_normal_of_numberless :
    ∃ shipments, shipmentsOf numberlessReport = .ok shipments ∧ (∀ s ∈ shipments, s.Normal) ∧
      shipments.map (fun s => (s.awb, s.shipmentTime, s.events.map (·.eventType))) =
        [([], "2025-02-03 08:05h".toList, ["FD".toList])] := by
  have fields : (shipmentsOf numberlessReport).map
      (·.map fun s => (s.awb, s.shipmentTime, s.events.map (·.eventType))) =
        .ok [([], "2025-02-03 08:05h".toList, ["FD".toList])] := by decide +kernel
  obtain ⟨shipments, read, same⟩ := map_eq_ok_iff.1 fields
  exact ⟨shipments, read, shipmentsOf_normal.1 numberlessReport shipments read, same⟩

end ParcelStatus.Dhl
