import ParcelStatus.Proofs.Dhl.Checkpoints

/-!
# A line in its block

What a line is read for depends on the lines before it in two ways only: the waybill of its block,
and the section that it stands in. What it gives is put behind the events that are there already.

* `standing` — the waybill and the section that lines of a report lead to;
* `splitBlocks_at` — the blocks of a report with a line that stands in one of them;
* `readLines_withFirst` — events that are there already are a frame: no line looks at them or
  changes them;
* `length_events_of_readLines` — lines give as many events as they have dates;
* `datesFrom_sublist` — no section has more dates behind it than that of the checkpoints.
-/

namespace ParcelStatus.Dhl

open Text Outcome

/-! ## Standing -/

/-- The waybill and section behind a line, by those before it; there are none before the first
block. -/
def standingAfter (before : Option (Text × Section)) (line : Text) : Option (Text × Section) :=
  match lineKind line with
  | .awb number => some (number, .other)
  | _ => before.map fun (awb, place) => (awb, place.after line)

def standing (lines : List Text) : Option (Text × Section) := lines.foldl standingAfter none

/-- Lines lead to the section of the block that they stand in, or of one that begins among them. -/
theorem splitBlocks_cases {ls : List Text} {before : Option (Text × Section)} {awb : Text}
    {place : Section} (leads : ls.foldl standingAfter before = some (awb, place)) :
    (∃ first, before = some (awb, first) ∧ place = ls.foldl Section.after first ∧
      ∀ line rest, (∀ number, lineKind line ≠ .awb number) →
        splitBlocks (ls ++ line :: rest) =
          (ls ++ line :: (splitBlocks rest).1, (splitBlocks rest).2)) ∨
    ∃ front blocks inner, place = inner.foldl Section.after .other ∧
      ∀ line rest, (∀ number, lineKind line ≠ .awb number) →
        splitBlocks (ls ++ line :: rest) =
          (front,
            blocks ++ ⟨awb, inner ++ line :: (splitBlocks rest).1⟩ :: (splitBlocks rest).2) := by
  induction ls generalizing before with
  | nil =>
    refine .inl ⟨place, leads, rfl, fun line rest inside => ?_⟩
    cases kind : lineKind line with
    | awb number => exact absurd kind (inside number)
    | _ => simp only [List.nil_append, splitBlocks, kind]
  | cons first ls ih =>
    rw [List.foldl_cons] at leads
    cases kind : lineKind first with
    | awb number =>
      rw [standingAfter, kind] at leads
      right
      rcases ih leads with ⟨start, same, rfl, split⟩ | ⟨front, blocks, inner, rfl, split⟩
      · -- The block begins with this line, and all the others stand in it.
        cases same
        refine ⟨[], [], ls, rfl, fun line rest inside => ?_⟩
        simp only [List.cons_append, splitBlocks, kind, split line rest inside, List.nil_append]
      · refine ⟨[], ⟨number, front⟩ :: blocks, inner, rfl, fun line rest inside => ?_⟩
        simp only [List.cons_append, splitBlocks, kind, split line rest inside]
    | _ =>
      rcases ih leads with ⟨start, same, rfl, split⟩ | ⟨front, blocks, inner, rfl, split⟩
      · left
        simp only [standingAfter, kind, Option.map_eq_some_iff, Prod.mk.injEq] at same
        obtain ⟨⟨_, place⟩, rfl, rfl, rfl⟩ := same
        refine ⟨place, rfl, rfl, fun line rest inside => ?_⟩
        simp only [List.cons_append, splitBlocks, kind, split line rest inside]
      · right
        refine ⟨first :: front, blocks, inner, rfl, fun line rest inside => ?_⟩
        simp only [List.cons_append, splitBlocks, kind, split line rest inside]

/-- The blocks of a report with a line that stands in one of them. -/
theorem splitBlocks_at {ls : List Text} {awb : Text} {place : Section}
    (leads : standing ls = some (awb, place)) :
    ∃ blocks inner, place = inner.foldl Section.after .other ∧
      ∀ line rest, (∀ number, lineKind line ≠ .awb number) →
        (splitBlocks (ls ++ line :: rest)).2 =
          blocks ++ ⟨awb, inner ++ line :: (splitBlocks rest).1⟩ :: (splitBlocks rest).2 := by
  rcases splitBlocks_cases leads with ⟨_, none, -⟩ | ⟨_, blocks, inner, same, split⟩
  · cases none
  · refine ⟨blocks, inner, same, fun line rest inside => ?_⟩
    rw [split line rest inside]

/-! ## Events that are there already -/

/-- A header line neither looks at the events nor changes them. -/
theorem withHeader_of_events (s : Shipment) (events : List TrackingEvent) (line : Text) :
    ({ s with events } : Shipment).withHeader line = { s.withHeader line with events } := by
  unfold Shipment.withHeader
  split
  · rfl
  · split
    · dsimp only
      split <;> split <;> split <;> split <;> rfl
    · rfl

theorem events_withHeader (s : Shipment) (line : Text) : (s.withHeader line).events = s.events := by
  have kept := congrArg Shipment.events (withHeader_of_events s s.events line)
  exact kept

/-- A line without a date keeps the events. -/
theorem readLine_keeps_events [Present] {place place' : Section} {s s' : Shipment} {line : Text}
    (read : readLine (place, s) line = .ok (place', s'))
    (dateless : ¬(lineKind line = .data ∧ place = .events)) : s'.events = s.events := by
  cases kind : lineKind line with
  | data =>
    cases place with
    | events => exact absurd ⟨kind, rfl⟩ dateless
    | header =>
      simp only [readLine, kind] at read
      cases read
      exact events_withHeader s line
    | _ =>
      simp only [readLine, kind] at read
      cases read
      rfl
  | _ =>
    simp only [readLine, kind] at read
    cases read
    rfl

/-- The shipment with more events in front of its own. -/
def Shipment.withFirst (s : Shipment) (first : List TrackingEvent) : Shipment :=
  { s with events := first ++ s.events }

theorem withHeader_withFirst (s : Shipment) (first : List TrackingEvent) (line : Text) :
    (s.withFirst first).withHeader line = (s.withHeader line).withFirst first := by
  rw [Shipment.withFirst, withHeader_of_events, Shipment.withFirst, events_withHeader]

theorem readLine_withFirst [Present] (place : Section) (s : Shipment) (first : List TrackingEvent)
    (line : Text) :
    readLine (place, s.withFirst first) line =
      (readLine (place, s) line).map fun (place, s) => (place, s.withFirst first) := by
  by_cases dated : lineKind line = .data ∧ place = .events
  · obtain ⟨kind, rfl⟩ := dated
    rw [readLine_data_events _ kind, readLine_data_events s kind, map_map]
    show (eventOfLine s.awb line).map _ = _
    congr 1
    funext e?
    simp [Shipment.withFirst]
  · cases kind : lineKind line with
    | data =>
      cases place with
      | events => exact absurd ⟨kind, rfl⟩ dated
      | other => simp only [readLine, kind, map_ok]
      | header => simp only [readLine, kind, map_ok, withHeader_withFirst]
      | receiver =>
        simp only [readLine, kind, map_ok]
        rfl
    | accounts shipper payer =>
      simp only [readLine, kind, map_ok]
      rfl
    | _ => simp only [readLine, kind, map_ok]

theorem readLines_withFirst [Present] (place : Section) (s : Shipment) (first : List TrackingEvent)
    (ls : List Text) :
    ls.foldlM readLine (place, s.withFirst first) =
      (ls.foldlM readLine (place, s)).map fun (place, s) => (place, s.withFirst first) := by
  induction ls generalizing place s with
  | nil => rfl
  | cons line ls ih =>
    rw [List.foldlM_cons, List.foldlM_cons, readLine_withFirst]
    cases readLine (place, s) line with
    | error fault => rfl
    | ok next => exact ih next.1 next.2

/-- Lines that are read lead to their section and keep the number of the waybill. -/
theorem readLines_frame [Present] {place place' : Section} {s s' : Shipment} {ls : List Text}
    (read : ls.foldlM readLine (place, s) = .ok (place', s')) :
    place' = ls.foldl Section.after place ∧ s'.awb = s.awb := by
  induction ls generalizing place s with
  | nil =>
    cases read
    exact ⟨rfl, rfl⟩
  | cons line ls ih =>
    rw [List.foldlM_cons, bind_eq_ok_iff] at read
    obtain ⟨⟨_, next⟩, first, rest⟩ := read
    obtain ⟨rfl, same⟩ := readLine_frame first
    obtain ⟨leads, kept⟩ := ih rest
    exact ⟨leads, kept.trans same⟩

/-! ## Counts of events -/

/-- A line gives an event exactly when it has a date. -/
theorem length_of_eventOfLine [Present] {awb line : Text} {e? : Option TrackingEvent}
    (read : eventOfLine awb line = .ok e?) :
    e?.toList.length = ((checkpointDate? awb line).map Json.str).toList.length := by
  by_cases skipped : (line = [] || occursIn "-----".toList line) = true
  · rw [eventOfLine, if_pos skipped] at read
    rw [checkpointDate?, if_pos skipped]
    cases read
    rfl
  · rw [eventOfLine_of_numbered skipped] at read
    rw [checkpointDate?, if_neg skipped]
    generalize numberedColumns awb line = cols at read ⊢
    split at read
    · split at read
      next other =>
        cases read
        simp only [if_pos other]
        rfl
      next own =>
        obtain ⟨date, -, same⟩ := bind_eq_ok_iff.1 read
        cases same
        simp only [if_neg own]
        rfl
    · cases read
      rfl

theorem length_events_of_readLines [Present] {place place' : Section} {s s' : Shipment}
    {ls : List Text} (read : ls.foldlM readLine (place, s) = .ok (place', s')) :
    s'.events.length = s.events.length + (datesFrom s.awb place ls).length := by
  induction ls generalizing place s with
  | nil =>
    cases read
    rfl
  | cons line ls ih =>
    rw [List.foldlM_cons, bind_eq_ok_iff] at read
    obtain ⟨⟨_, next⟩, first, rest⟩ := read
    obtain ⟨rfl, same⟩ := readLine_frame first
    rw [ih rest, same, datesFrom, List.length_append]
    have one : next.events.length = s.events.length + (lineDates s.awb place line).length := by
      by_cases dated : lineKind line = .data ∧ place = .events
      · obtain ⟨kind, rfl⟩ := dated
        rw [readLine_data_events s kind, map_eq_ok_iff] at first
        obtain ⟨e?, gives, shape⟩ := first
        obtain rfl := congrArg Prod.snd shape
        show (s.events ++ e?.toList).length = _
        rw [List.length_append, length_of_eventOfLine gives]
        simp only [lineDates, kind]
      · rw [readLine_keeps_events first dated, lineDates_of_no_dates s.awb dated]
        rfl
    omega

theorem length_events_of_ofBlock [Present] {b : Block} {s : Shipment}
    (read : Shipment.ofBlock b = .ok s) : s.events.length = b.dates.length := by
  obtain ⟨⟨_, _⟩, lines, rfl⟩ := map_eq_ok_iff.1 read
  rw [length_events_of_readLines lines, Block.dates, List.length_nil, Nat.zero_add]

/-- Behind any section there are no more dates than behind that of the checkpoints. -/
theorem datesFrom_sublist (awb : Text) (place : Section) (ls : List Text) :
    (datesFrom awb place ls).Sublist (datesFrom awb .events ls) := by
  induction ls generalizing place with
  | nil => exact .refl []
  | cons line ls ih =>
    rw [datesFrom, datesFrom]
    cases kind : lineKind line with
    | data =>
      have stays (p : Section) : p.after line = p := by simp only [Section.after, kind]
      rw [stays, stays]
      refine List.Sublist.append ?_ (ih place)
      cases place with
      | events => exact .refl _
      | _ =>
        simp only [lineDates, kind]
        exact List.nil_sublist _
    | awb number =>
      have stays (p : Section) : p.after line = p := by simp only [Section.after, kind]
      rw [stays, stays]
      simpa only [lineDates, kind, List.nil_append] using ih place
    | _ =>
      -- A heading leads to its own section, whatever the lines stood in before.
      simp only [lineDates, Section.after, kind, List.nil_append]
      exact .refl _

theorem datesFrom_append (awb : Text) (place : Section) (ls ms : List Text) :
    datesFrom awb place (ls ++ ms) =
      datesFrom awb place ls ++ datesFrom awb (ls.foldl Section.after place) ms := by
  induction ls generalizing place with
  | nil => rfl
  | cons line ls ih =>
    rw [List.cons_append, datesFrom, datesFrom, ih, List.append_assoc, List.foldl_cons]

end ParcelStatus.Dhl
