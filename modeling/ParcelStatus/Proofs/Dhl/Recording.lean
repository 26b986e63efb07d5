import ParcelStatus.Proofs.Dhl.Blocks
import ParcelStatus.Proofs.Dhl.Pass
import ParcelStatus.Proofs.Dhl.Rows

/-!
# Events of a pass

A pass over a report puts events behind those that it has, one for a line at most. So what a line
gives is seen where the report is cut behind it, and whatever follows leaves it in its place.

* `lineEvent`, `map_events_readLine` — the event that a line of a block gives;
* `lineEvent_of_not_plain` — a rule, a heading or the start of a block gives none;
* `Pass.step_cases` — what one line can do to a pass;
* `Pass.run_within` — what the lines of one block do to it;
* `Pass.map_events_step`, `Pass.run_events` — events are added behind the others, and stay;
* `Pass.place_run` — the waybill and the section that a pass stands in;
* `events_of_line`, `events_of_line_within` — the events of a report with a line in a table, cut
  behind the line and as a whole.
-/

namespace ParcelStatus.Dhl

open Text Outcome

/-! ## The event of a line -/

/-- The event that a line of a block gives; only data in a table gives one. -/
def lineEvent [Present] (block : Section × Shipment) (line : Text) :
    Except DateFault (Option TrackingEvent) :=
  match lineKind line, block.1 with
  | .data, .events => eventOfLine block.2.awb line
  | _, _ => .ok none

theorem lineEvent_of_table [Present] (s : Shipment) {line : Text} (kind : lineKind line = .data) :
    lineEvent (.events, s) line = eventOfLine s.awb line := by
  simp only [lineEvent, kind]

theorem lineEvent_of_dateless [Present] {place : Section} {line : Text} (s : Shipment)
    (dateless : ¬(lineKind line = .data ∧ place = .events)) : lineEvent (place, s) line = .ok none := by
  unfold lineEvent
  split
  next kind table => exact absurd ⟨kind, table⟩ dateless
  next => rfl

/-- A line puts the event that it gives behind those of the shipment. -/
theorem map_events_readLine [Present] (block : Section × Shipment) (line : Text) :
    (readLine block line).map (·.2.events) =
      (lineEvent block line).map fun e? => block.2.events ++ e?.toList := by
  obtain ⟨place, s⟩ := block
  by_cases dated : lineKind line = .data ∧ place = .events
  · obtain ⟨kind, rfl⟩ := dated
    rw [readLine_data_events s kind, lineEvent_of_table s kind, map_map]
    rfl
  · obtain ⟨s', read, -⟩ := readLine_of_no_dates s dated
    have kept : s'.events = s.events := readLine_keeps_events read dated
    rw [read, lineEvent_of_dateless s dated, map_ok, map_ok, kept, Option.toList_none,
      List.append_nil]

/-- A line that is not plain gives no event. -/
theorem lineEvent_of_not_plain [Present] {line : Text} (unplain : ¬PlainLine line) (s : Shipment) :
    lineEvent (.events, s) line = .ok none := by
  by_cases kind : lineKind line = .data
  · have rule := rule_of_not_plain kind unplain
    rw [lineEvent_of_table s kind, eventOfLine, if_pos (by simp only [rule, Bool.or_true])]
  · exact lineEvent_of_dateless s fun dated => kind dated.1

/-- The events of all shipments, in order. -/
def allEvents (shipments : List Shipment) : List TrackingEvent := shipments.flatMap (·.events)

namespace Pass

variable {p q : Pass} {line : Text}

/-! ## One line -/

theorem step_start_eq [Present] (p : Pass) {number : Text} (start : lineKind line = .awb number) :
    p.step line = .ok ⟨p.shipments, some (.other, { awb := number })⟩ := by
  simp only [step, start]

theorem step_before [Present] (inside : ∀ number, lineKind line ≠ .awb number)
    (outside : p.current = none) : p.step line = .ok p := by
  cases kind : lineKind line with
  | awb number => exact absurd kind (inside number)
  | _ => simp only [step, kind, outside]

theorem step_within [Present] (inside : ∀ number, lineKind line ≠ .awb number)
    {block : Section × Shipment} (current : p.current = some block) :
    p.step line = (readLine block line).map fun next => { p with current := some next } := by
  cases kind : lineKind line with
  | awb number => exact absurd kind (inside number)
  | _ => simp only [step, kind, current]

/-- Lines of which none begins a block are read in the block that they stand in. -/
theorem run_within [Present] {ls : List Text}
    (inside : ∀ line ∈ ls, ∀ number, lineKind line ≠ .awb number)
    {block : Section × Shipment} (current : p.current = some block) :
    p.run ls = (ls.foldlM readLine block).map fun next => { p with current := some next } := by
  induction ls generalizing p block with
  | nil =>
    obtain ⟨closed, _⟩ := p
    obtain rfl : _ = some block := current
    rfl
  | cons line ls ih =>
    obtain ⟨first, rest⟩ := List.forall_mem_cons.1 inside
    rw [run_cons, step_within first current, List.foldlM_cons]
    cases readLine block line with
    | error fault => rfl
    | ok next => exact ih rest rfl

/-- A line begins a block, stands before the first one, or is read in the block that it stands
in. -/
theorem step_cases [Present] (stepped : p.step line = .ok q) :
    (∃ number, lineKind line = .awb number ∧
        q = ⟨p.shipments, some (.other, { awb := number })⟩) ∨
      (∀ number, lineKind line ≠ .awb number) ∧
        (p.current = none ∧ q = p ∨
          ∃ block next, p.current = some block ∧ readLine block line = .ok next ∧
            q = { p with current := some next }) := by
  by_cases start : ∃ number, lineKind line = .awb number
  · obtain ⟨number, start⟩ := start
    rw [step_start_eq p start] at stepped
    cases stepped
    exact .inl ⟨number, start, rfl⟩
  · have inside (number : Text) : lineKind line ≠ .awb number := fun kind => start ⟨number, kind⟩
    refine .inr ⟨inside, ?_⟩
    cases current : p.current with
    | none =>
      rw [step_before inside current] at stepped
      cases stepped
      exact .inl ⟨rfl, rfl⟩
    | some block =>
      rw [step_within inside current] at stepped
      obtain ⟨next, read, rfl⟩ := map_eq_ok_iff.1 stepped
      exact .inr ⟨block, next, rfl, read, rfl⟩

/-! ## Events of a pass -/

/-- The event that a line gives where the pass stands. -/
def gives [Present] (p : Pass) (line : Text) : Except DateFault (Option TrackingEvent) :=
  match p.current with
  | some block => lineEvent block line
  | none => .ok none

/-- The events of a pass are those of the closed shipments, and those of the current one. -/
theorem allEvents_shipments (p : Pass) :
    allEvents p.shipments = allEvents p.closed ++ (p.current.map (·.2.events)).getD [] := by
  unfold allEvents shipments
  cases p.current <;> simp

/-- A line adds the event that it gives behind all others. -/
theorem map_events_step [Present] (p : Pass) (line : Text) :
    (p.step line).map (fun q => allEvents q.shipments) =
      (p.gives line).map fun e? => allEvents p.shipments ++ e?.toList := by
  by_cases start : ∃ number, lineKind line = .awb number
  · obtain ⟨number, start⟩ := start
    have silent : p.gives line = .ok none := by
      unfold gives
      cases p.current with
      | none => rfl
      | some block => exact lineEvent_of_dateless block.2 (by simp [start])
    rw [step_start_eq p start, silent]
    simp [allEvents, shipments]
  · have inside (number : Text) : lineKind line ≠ .awb number := fun kind => start ⟨number, kind⟩
    cases current : p.current with
    | none =>
      rw [step_before inside current]
      simp [gives, current]
    | some block =>
      have behind := congrArg (Except.map (allEvents p.closed ++ ·)) (map_events_readLine block line)
      rw [map_map, map_map] at behind
      rw [step_within inside current, map_map]
      simp only [gives, current, allEvents_shipments, Option.map_some, Option.getD_some,
        List.append_assoc]
      simpa [Function.comp_def, allEvents_shipments] using behind

/-- Events stay where they are, whatever follows. -/
theorem run_events [Present] {ls : List Text} (run : p.run ls = .ok q) :
    ∃ later, allEvents q.shipments = allEvents p.shipments ++ later := by
  induction ls generalizing p with
  | nil =>
    cases run
    exact ⟨[], (List.append_nil _).symm⟩
  | cons line ls ih =>
    rw [run_cons, bind_eq_ok_iff] at run
    obtain ⟨next, stepped, rest⟩ := run
    have added := map_events_step p line
    rw [stepped, map_ok] at added
    obtain ⟨e?, -, added⟩ := map_eq_ok_iff.1 added.symm
    obtain ⟨later, behind⟩ := ih rest
    exact ⟨e?.toList ++ later, by rw [behind, ← added, List.append_assoc]⟩

/-! ## Where a pass stands -/

/-- The waybill and the section of the block that the pass is in. -/
def place (p : Pass) : Option (Text × Section) := p.current.map fun block => (block.2.awb, block.1)

theorem place_step [Present] (stepped : p.step line = .ok q) :
    q.place = standingAfter p.place line := by
  obtain ⟨number, start, rfl⟩ | ⟨inside, moved⟩ := step_cases stepped
  · simp only [standingAfter, start]
    rfl
  · have after (before : Option (Text × Section)) :
        standingAfter before line = before.map fun block => (block.1, block.2.after line) := by
      cases kind : lineKind line with
      | awb number => exact absurd kind (inside number)
      | _ => simp only [standingAfter, kind]
    rw [after]
    obtain ⟨outside, rfl⟩ | ⟨⟨_, s⟩, ⟨_, s'⟩, current, read, rfl⟩ := moved
    · simp only [place, outside, Option.map_none]
    · obtain ⟨rfl, same⟩ := readLine_frame read
      simp only [place, current, Option.map_some, same]

theorem place_run [Present] {ls : List Text} (run : p.run ls = .ok q) :
    q.place = ls.foldl standingAfter p.place := by
  induction ls generalizing p with
  | nil =>
    cases run
    rfl
  | cons line ls ih =>
    rw [run_cons, bind_eq_ok_iff] at run
    obtain ⟨next, stepped, rest⟩ := run
    rw [ih rest, place_step stepped, List.foldl_cons]

/-- What a line gives in a table depends on the waybill alone. -/
theorem gives_of_place [Present] {awb : Text} (table : p.place = some (awb, .events))
    (line : Text) : p.gives line = lineEvent (.events, { awb }) line := by
  obtain ⟨⟨_, s⟩, current, same⟩ := Option.map_eq_some_iff.1 table
  cases same
  simp only [gives, current, lineEvent]

end Pass

/-! ## A line in a report -/

variable {front line back awb : Text} {before : List Shipment}

/-- A report that is read has been read by a pass that stands where its lines lead to. -/
theorem exists_pass [Present] {report : Text} {shipments : List Shipment}
    (read : shipmentsOf report = .ok shipments) :
    ∃ p : Pass, ({} : Pass).run ((lines report).map trim) = .ok p ∧ p.shipments = shipments ∧
      p.place = standing ((lines report).map trim) := by
  rw [Pass.shipmentsOf_eq_run] at read
  obtain ⟨p, run, done⟩ := map_eq_ok_iff.1 read
  exact ⟨p, run, done, Pass.place_run run⟩

/-- Behind what has been read a report goes on with the line, and then with the rest. -/
theorem shipmentsOf_around [Present] {p : Pass} (ends : EndsLine front)
    (run : ({} : Pass).run ((lines front).map trim) = .ok p) (oneLine : IsOneLine line)
    (some_ : line ≠ []) (follows : FollowsLine back) :
    shipmentsOf (front ++ (line ++ back)) =
      (p.step (trim line) >>= fun q => q.run ((lines back).tail.map trim)).map Pass.shipments := by
  rw [Pass.shipmentsOf_eq_run, lines_around ends oneLine some_ follows, List.map_append,
    Pass.run_append, run, ok_bind, List.map_cons, Pass.run_cons]

/-- A report that ends with a line in a table has the event of the line behind those before it. -/
theorem events_of_line [Present] (ends : EndsLine front) (oneLine : IsOneLine line)
    (some_ : line ≠ []) (inTable : standing ((lines front).map trim) = some (awb, .events))
    (read : shipmentsOf front = .ok before) :
    (shipmentsOf (front ++ line)).map allEvents =
      (lineEvent (.events, { awb }) (trim line)).map fun e? => allEvents before ++ e?.toList := by
  obtain ⟨p, run, rfl, place⟩ := exists_pass read
  have ended : FollowsLine [] := by decide
  have around := shipmentsOf_around ends run oneLine some_ ended
  have last (q : Pass) : q.run ((lines []).tail.map trim) = pure q := rfl
  rw [List.append_nil, funext last] at around
  rw [around, bind_pure, map_map, ← Pass.gives_of_place (place.trans inTable)]
  exact Pass.map_events_step p (trim line)

/-- The event of a line in a table stays in its place, whatever the report goes on with. -/
theorem events_of_line_within [Present] (ends : EndsLine front) (oneLine : IsOneLine line)
    (some_ : line ≠ []) (inTable : standing ((lines front).map trim) = some (awb, .events))
    (read : shipmentsOf front = .ok before) (follows : FollowsLine back) {all : List Shipment}
    (whole : shipmentsOf (front ++ (line ++ back)) = .ok all) :
    ∃ e? later, lineEvent (.events, { awb }) (trim line) = .ok e? ∧
      allEvents all = allEvents before ++ (e?.toList ++ later) := by
  obtain ⟨p, run, rfl, place⟩ := exists_pass read
  rw [shipmentsOf_around ends run oneLine some_ follows] at whole
  obtain ⟨last, work, rfl⟩ := map_eq_ok_iff.1 whole
  obtain ⟨q, stepped, rest⟩ := bind_eq_ok_iff.1 work
  have added := Pass.map_events_step p (trim line)
  rw [stepped, map_ok, Pass.gives_of_place (place.trans inTable)] at added
  obtain ⟨e?, given, added⟩ := map_eq_ok_iff.1 added.symm
  obtain ⟨later, behind⟩ := Pass.run_events rest
  exact ⟨e?, later, given, by rw [behind, ← added, List.append_assoc]⟩

end ParcelStatus.Dhl
