import ParcelStatus.Proofs.Dhl.Blocks
import ParcelStatus.Proofs.Tracking.FeedOrder
import ParcelStatus.Proofs.Tracking.Storage

/-!
# A report and the events sent apart

The checkpoints of a shipment can come in its report, or as a list of events that the carrier sends.
The two are read by different rules: an empty remark gives way to another member, a missing place is
null, and the date goes through its written form. For what a report can hold they come to the same.

* `Checkpoint` — what every event of a report has;
* `shipmentsOf_checkpoints` — the events of a shipment have it, by the lines of its block;
* `sentMembers`, `sentPayload` — a checkpoint and a trail as they are sent;
* `eventOfMembers_sent` — a checkpoint that is sent is read back;
* `reconcile_sent` — a shipment is reconciled like its events sent apart.
-/

namespace ParcelStatus.Dhl

open Text Outcome

/-! ## Checkpoints of a report -/

/-- An event as a report can give it. -/
structure Checkpoint (e : TrackingEvent) : Prop where
  date : e.date.IsRead
  placed : e.location ≠ some []
  /-- Nothing is said of exceptions, and no state is derived. -/
  plain : e.exceptionDescription = [] ∧ e.derivedStatusCode = [] ∧ e.exceptionCode = []

theorem eventOfLine_checkpoint [Present] {awb line : Text} {e : TrackingEvent}
    (read : eventOfLine awb line = .ok (some e)) : Checkpoint e := by
  unfold eventOfLine at read
  split at read
  · cases read
  · dsimp only at read
    split at read
    · rename_i number _ _ facility _ code date rest
      split at read
      · cases read
      · obtain ⟨m, dated, same⟩ := bind_eq_ok_iff.1 read
        cases same
        refine ⟨isRead_of_readDate dated, ?_, rfl, rfl, rfl⟩
        dsimp only
        split <;> simp_all
    · cases read

/-- A line puts one event behind those of the shipment, or leaves them as they are. -/
theorem events_of_readLine [Present] {place place' : Section} {s s' : Shipment} {line : Text}
    (read : readLine (place, s) line = .ok (place', s')) :
    s'.events = s.events ∨
      ∃ e, eventOfLine s.awb line = .ok (some e) ∧ s'.events = s.events ++ [e] := by
  by_cases dated : lineKind line = .data ∧ place = .events
  · obtain ⟨kind, rfl⟩ := dated
    rw [readLine_data_events s kind, map_eq_ok_iff] at read
    obtain ⟨e?, added, same⟩ := read
    cases same
    cases e? with
    | none => exact .inl (List.append_nil s.events)
    | some e => exact .inr ⟨e, added, rfl⟩
  · exact .inl (readLine_keeps_events read dated)

theorem readLines_checkpoints [Present] {place place' : Section} {s s' : Shipment}
    {lines : List Text} (read : lines.foldlM readLine (place, s) = .ok (place', s'))
    (all : ∀ e ∈ s.events, Checkpoint e) : ∀ e ∈ s'.events, Checkpoint e := by
  induction lines generalizing place s with
  | nil =>
    cases read
    exact all
  | cons line rest ih =>
    rw [List.foldlM_cons, bind_eq_ok_iff] at read
    obtain ⟨⟨place, s'⟩, first, rest⟩ := read
    refine ih rest fun e member => ?_
    rcases events_of_readLine first with same | ⟨new, added, more⟩
    · exact all e (same ▸ member)
    · rw [more, List.mem_append, List.mem_singleton] at member
      rcases member with old | rfl
      · exact all e old
      · exact eventOfLine_checkpoint added

theorem shipmentsOf_checkpoints [Present] {report : Text} {shipments : List Shipment} {s : Shipment}
    (read : shipmentsOf report = .ok shipments) (member : s ∈ shipments) :
    ∀ e ∈ s.events, Checkpoint e := by
  obtain ⟨b, -, block⟩ := exists_of_mem_mapM read member
  obtain ⟨⟨_, _⟩, lines, rfl⟩ := map_eq_ok_iff.1 block
  exact readLines_checkpoints lines (by simp)

/-- The dates of a report are all on the universal clock. -/
theorem clocksAgree_of_report [Present] {report : Text} {shipments : List Shipment} {s : Shipment}
    (read : shipmentsOf report = .ok shipments) (member : s ∈ shipments) :
    ClocksAgree s.events :=
  clocksAgree_of_zoneless fun e here => (shipmentsOf_checkpoints read member e here).date.zoneless

/-! ## Checkpoints as they are sent -/

/-- A checkpoint as the carrier sends it. -/
def sentMembers (e : TrackingEvent) : List (Text × Json) :=
  [("code".toList, .str e.eventType), ("eventDateTime".toList, .str e.date.iso),
    ("remark".toList, .str e.description), ("facilityId".toList, e.location.elim .null .str)]

/-- A trail as the carrier sends it. -/
def sentPayload (events : List TrackingEvent) : Json :=
  eventsPayload (events.map fun e => .obj (sentMembers e))

/-- A written date is not empty, so nothing stands in for it. -/
theorem orElse_iso (m : Moment) (other : Json) : (Json.str m.iso).orElse other = .str m.iso :=
  if_pos (by simp [Json.isTruthy, Moment.iso])

/-- The remark of a checkpoint gives way to null when it is empty, and null reads as empty. -/
theorem textOrBlank_remark (t : Text) : ((Json.str t).orElse .null).textOrBlank = t := by
  cases t <;> rfl

theorem location_sent {location : Option Text} (placed : location ≠ some []) :
    (if (location.elim .null .str : Json).isTruthy then
      some (location.elim .null .str : Json).asText else none) = location := by
  rcases location with _ | _ | ⟨c, r⟩
  · rfl
  · exact absurd rfl placed
  · rfl

/-- A checkpoint that is sent is read back as it was. -/
theorem eventOfMembers_sent [Present] {e : TrackingEvent} (checkpoint : Checkpoint e) :
    eventOfMembers (sentMembers e) = .ok e := by
  obtain ⟨isRead, placed, noException, noState, noCode⟩ := checkpoint
  have code : Json.get (sentMembers e) "code" = .str e.eventType := rfl
  have date : Json.get (sentMembers e) "eventDateTime" = .str e.date.iso := rfl
  have remark : Json.get (sentMembers e) "remark" = .str e.description := rfl
  have facility : Json.get (sentMembers e) "facilityId" = e.location.elim .null .str := rfl
  have missing : Json.get (sentMembers e) "date" = .null ∧
      Json.get (sentMembers e) "description" = .null := ⟨rfl, rfl⟩
  rw [eventOfMembers, code, date, remark, facility, missing.1, missing.2, orElse_iso,
    readDate_iso isRead]
  simp only [ok_bind, pure_eq, textOrBlank_remark, Json.textOrBlank_str, location_sent placed]
  cases e
  cases noException
  cases noState
  cases noCode
  rfl

theorem dhlFinding_sent [Present] {events : List TrackingEvent} (all : ∀ e ∈ events, Checkpoint e) :
    dhlFinding (.json (sentPayload events)) = .ok (checkpointFinding events) := by
  have objects : (Json.arr (events.map fun e => .obj (sentMembers e))).objects =
      events.map sentMembers := by
    simp [Json.objects, List.filterMap_map]
  have read : (events.map sentMembers).mapM eventOfMembers = .ok events := by
    rw [mapM_eq_ok_iff, List.forall₂_map_left_iff, List.forall₂_same]
    exact fun e member => eventOfMembers_sent (all e member)
  rw [sentPayload, dhlFinding_eventsPayload, objects, read]
  rfl

/-! ## Both ways -/

/-- A shipment of a report and its events sent apart, perhaps at another time, are reconciled alike:
the result, or the fault of the filter, and the entries that are written on the way. -/
theorem reconcile_sent [Present] {earlier : Present} {report : Text} {shipments : List Shipment}
    {s : Shipment} (read : @shipmentsOf earlier report = .ok shipments) (member : s ∈ shipments)
    (r : Reconciler) (filter : Json) :
    r.reconcile .dhl (.json (sentPayload s.events)) filter =
      r.reconcile .dhl (.shipment s) filter := by
  have same : findingOf .dhl (.json (sentPayload s.events)) = findingOf .dhl (.shipment s) := by
    rw [findingOf, dhlFinding_sent (@shipmentsOf_checkpoints earlier _ _ _ read member)]
    rfl
  rw [Reconciler.reconcile, same]
  rfl

/-- A block whose second row has neither a remark nor a date, and a block without rows. -/
def bareReport : Text :=
  ("AWB : 1234567890\nAWB/PID  Orig\n".toList
    ++ "1234567890  MEX  HMO  HMO  A1  FD  2025-01-10 17:00:00.25  x  Entregado\n".toList
    ++ "1234567890  MEX  HMO  HMO  A1  OH  soon\nAWB : 2222222222".toList)

/-- The shipments of the bare report. -/
def bareShipments : List Shipment :=
  let place := some "HMO".toList
  [{ awb := "1234567890".toList
     events :=
      [{ description := "Entregado".toList, date := { instant := 1736528400250000 },
         eventType := "FD".toList, location := place },
       { description := [], date := .epoch, eventType := "OH".toList, location := place }] },
   { awb := "2222222222".toList }]

attribute [local instance] Present.sample

theorem reconcile_sent_of_bare_rows :
    shipmentsOf bareReport = .ok bareShipments ∧
      (bareShipments.map fun s => ({} : Reconciler).reconcile .dhl
        (.json (sentPayload s.events)) (.str "entregado".toList)) =
        bareShipments.map fun s => ({} : Reconciler).reconcile .dhl
          (.shipment s) (.str "entregado".toList) := by
  have read : shipmentsOf bareReport = .ok bareShipments := by decide +kernel
  refine ⟨read, List.map_congr_left fun s member => ?_⟩
  exact reconcile_sent read member {} (.str "entregado".toList)

end ParcelStatus.Dhl
