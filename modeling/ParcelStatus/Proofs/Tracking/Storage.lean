import ParcelStatus.Proofs.Calendar.Readback
import ParcelStatus.Proofs.Tracking.Chronology
import ParcelStatus.Proofs.Tracking.Dates

/-!
# Events that are stored

An event is written in the shape that the carrier sends, and such a text can be read again. Seven
parts are written and six of them are found again: the place is looked for under another name than
the one it is written under. Sorting and filtering do not look at places, so a history that was
stored behaves as before.

* `readDate_iso` — a written date is read as the moment that it was;
* `TrackingEvent.reread`, `reread_eq` — an event that was stored;
* `reread_received` — it is the same event exactly when it had no place;
* `history_of_stored` — a stored trail is sorted and filtered like the trail itself.
-/

namespace ParcelStatus

open Outcome

theorem readDate_iso [Present] {m : Moment} (isRead : m.IsRead) :
    readDate (.str m.iso) = .ok m := by
  obtain ⟨instant, _, _⟩ := m
  obtain ⟨year, rfl, rfl⟩ := isRead
  have named : instantOfJson? (.str ({ instant } : Moment).iso) = some instant := by
    rw [instantOfJson?]
    exact Calendar.readInstant?_iso year.1 year.2
  rw [readDate_of_some named, Moment.universal_of_writable year]

namespace TrackingEvent

/-- The event that is read from what is stored of an event. -/
def reread [Present] (e : TrackingEvent) : Except DateFault TrackingEvent := ofMembers e.toMembers

/-- The event without its place. -/
def withoutPlace (e : TrackingEvent) : TrackingEvent := { e with location := none }

theorem date_withoutPlace (e : TrackingEvent) : e.withoutPlace.date = e.date := rfl

theorem mentions_withoutPlace (needle : Text) (e : TrackingEvent) :
    e.withoutPlace.mentions needle = e.mentions needle := rfl

theorem ofMembersAt_toMembers (e : TrackingEvent) :
    ofMembersAt e.toMembers e.date = e.withoutPlace := by
  have description : Json.get e.toMembers "eventDescription" = .str e.description := rfl
  have problem : Json.get e.toMembers "exceptionDescription" = .str e.exceptionDescription := rfl
  have kind : Json.get e.toMembers "eventType" = .str e.eventType := rfl
  have derived : Json.get e.toMembers "derivedStatusCode" = .str e.derivedStatusCode := rfl
  have exception : Json.get e.toMembers "exceptionCode" = .str e.exceptionCode := rfl
  have nowhere : locationOf e.toMembers = none := rfl
  rw [ofMembersAt, description, problem, kind, derived, exception, nowhere]
  simp only [Json.textOrBlank_str]
  rfl

/-- An event with a date that can be written loses its place and nothing else. -/
theorem reread_eq [Present] {e : TrackingEvent} (isRead : e.date.IsRead) :
    e.reread = .ok e.withoutPlace := by
  have date : Json.get e.toMembers "date" = .str e.date.iso := rfl
  rw [reread, ofMembers, date, readDate_iso isRead, map_ok, ofMembersAt_toMembers]

theorem reread_of_ofMembers [Present] {earlier : Present} {members : List (Text × Json)}
    {e : TrackingEvent} (received : @ofMembers earlier members = .ok e) :
    e.reread = .ok e.withoutPlace := by
  obtain ⟨m, read, rfl⟩ := map_eq_ok_iff.1 received
  exact reread_eq (@isRead_of_readDate earlier _ _ read)

theorem withoutPlace_eq_self_iff {e : TrackingEvent} : e.withoutPlace = e ↔ e.location = none := by
  constructor
  · intro same
    rw [← same]
    rfl
  · intro nowhere
    rw [withoutPlace, ← nowhere]

/-- An event that was received, stored and read back later has all that it had but its place, so it
is the same event exactly when it had none. -/
theorem reread_received [Present] {earlier : Present} {members : List (Text × Json)}
    {e : TrackingEvent} (received : @ofMembers earlier members = .ok e) :
    e.reread = .ok { e with location := none } ∧ (e.reread = .ok e ↔ e.location = none) := by
  have stored : e.reread = .ok e.withoutPlace := reread_of_ofMembers received
  refine ⟨stored, ?_⟩
  rw [stored, Except.ok.injEq]
  exact withoutPlace_eq_self_iff

/-- A delivery as it is sent, without its place. -/
def delivery : List (Text × Json) :=
  [("eventDescription".toList, .str "Delivered".toList),
   ("date".toList, .str "2025-01-10T11:00:00-06:00".toList),
   ("eventType".toList, .str "DL".toList)]

/-- The same delivery at a door in Hermosillo. -/
def deliveryInTown : List (Text × Json) :=
  delivery ++ [("scanLocation".toList, .obj [("city".toList, .str "HERMOSILLO".toList)])]

attribute [local instance] Present.sample

/-- A delivery without a place is the same event when it is read back. -/
theorem reread_received_nowhere :
    ∃ e, ofMembers delivery = .ok e ∧ e.description = "Delivered".toList ∧ e.reread = .ok e := by
  have described : (ofMembers delivery).map (fun e => (e.description, e.location)) =
      .ok ("Delivered".toList, none) := by
    decide +kernel
  obtain ⟨e, received, known⟩ := map_eq_ok_iff.1 described
  obtain ⟨description, nowhere⟩ := Prod.mk.inj known
  exact ⟨e, received, description, (reread_received received).2.2 nowhere⟩

/-- The town of a delivery is not found again. -/
theorem reread_loses_place :
    ¬∀ members e, ofMembers members = .ok e → e.reread = .ok e := by
  intro lossless
  have places : (ofMembers deliveryInTown).map (fun e => (e.location, e.reread.map (·.location))) =
      .ok (some "HERMOSILLO".toList, .ok none) := by
    decide +kernel
  obtain ⟨e, received, known⟩ := map_eq_ok_iff.1 places
  obtain ⟨place, again⟩ := Prod.mk.inj known
  rw [lossless _ e received, map_ok, place] at again
  exact absurd again (by decide)

end TrackingEvent

/-! ## Stored trails -/

/-- A trail that was received, stored and read back later has the instants that it had. It is sorted
in both directions, and cut by every filter, at the same events. -/
theorem history_of_stored [Present] {earlier : Present} {sent : List (List (Text × Json))}
    {events : List TrackingEvent} (received : sent.mapM (@TrackingEvent.ofMembers earlier) =
      .ok events) :
    ∃ stored, events.mapM TrackingEvent.reread = .ok stored ∧
      List.Forall₂ (fun e s => s.date.instant = e.date.instant) events stored ∧
      (∀ newestFirst, (sortEvents events newestFirst).mapM TrackingEvent.reread =
        .ok (sortEvents stored newestFirst)) ∧
      ∀ filter, (filterEvents filter events).mapM TrackingEvent.reread =
        .ok (filterEvents filter stored) := by
  have each (e : TrackingEvent) (member : e ∈ events) : e.reread = .ok e.withoutPlace := by
    obtain ⟨members, -, one⟩ := exists_of_mem_mapM received member
    exact TrackingEvent.reread_of_ofMembers one
  -- Storing acts on single events, and neither their dates nor their words change by it.
  have part {kept : List TrackingEvent} (subset : kept ⊆ events) :
      kept.mapM TrackingEvent.reread = .ok (kept.map TrackingEvent.withoutPlace) := by
    apply mapM_eq_ok_map
    intro e member
    exact each e (subset member)
  refine ⟨events.map TrackingEvent.withoutPlace, part (List.Subset.refl _), ?_, ?_, ?_⟩
  · rw [List.forall₂_map_right_iff, List.forall₂_same]
    intro e _
    exact congrArg Moment.instant e.date_withoutPlace
  · intro newestFirst
    rw [sortEvents_map TrackingEvent.date_withoutPlace]
    exact part (sortEvents_subset events newestFirst)
  · intro filter
    rw [filterEvents_map TrackingEvent.date_withoutPlace TrackingEvent.mentions_withoutPlace]
    exact part (filterEvents_subset filter events)

/-- Dates of every kind: nanoseconds, an early year with an offset, microseconds, and none. -/
def datedEvents : List (List (Text × Json)) :=
  [[("eventDescription".toList, .str "Left hub".toList),
    ("date".toList, .int 1736528400123456789)],
   [("eventDescription".toList, .str "Picked up".toList),
    ("date".toList, .str "0999-03-01T12:00:00+05:30".toList),
    ("scanLocation".toList, .str "HERMOSILLO".toList)],
   [("exceptionDescription".toList, .str "No one at the HUB".toList),
    ("date".toList, .str "2025-01-10T17:00:00.000001Z".toList)],
   [("date".toList, .str "soon".toList)]]

attribute [local instance] Present.sample

theorem history_of_stored_dates :
    ∃ events stored, datedEvents.mapM TrackingEvent.ofMembers = .ok events ∧
      events.map (·.date.instant) =
        [1736528400123456, -30636639000000000, 1736528400000001, 0] ∧
      events.mapM TrackingEvent.reread = .ok stored ∧
      stored.map (·.date.instant) = events.map (·.date.instant) ∧
      (filterEvents "hub".toList events).mapM TrackingEvent.reread =
        .ok (filterEvents "hub".toList stored) := by
  have instants : (datedEvents.mapM TrackingEvent.ofMembers).map (·.map (·.date.instant)) =
      .ok [1736528400123456, -30636639000000000, 1736528400000001, 0] := by
    decide +kernel
  obtain ⟨events, received, known⟩ := map_eq_ok_iff.1 instants
  obtain ⟨stored, written, same, -, filtered⟩ := history_of_stored received
  refine ⟨events, stored, received, known, written, ?_, filtered _⟩
  symm
  rw [← List.forall₂_eq_eq_eq, List.forall₂_map_left_iff, List.forall₂_map_right_iff]
  exact same.imp fun e s h => h.symm

end ParcelStatus
