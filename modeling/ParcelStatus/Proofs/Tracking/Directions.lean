import ParcelStatus.Proofs.Calendar.Numbering
import ParcelStatus.Proofs.Tracking.Chronology
import ParcelStatus.Proofs.Tracking.Dates

/-!
# Sorting in both directions

Where clocks agree, a trail is sorted by instants, the oldest or the newest event first, and events
of one instant stay in the order of the feed in either direction. So turning a sorted trail round
does not give the other direction: that would turn the ties round too. The feed has to be turned
round as well, and that holds whatever the clocks show.

An event is placed by the instant that its date stands for, whatever the clock shows that named it,
unless two clocks of one zone show the instants in another order.

* `eq_sortEvents_iff` — sorting gives the one stably ordered list;
* `sortEvents_reverse` — the one direction is the other one of the feed turned round;
* `clocksAgree_of_stablyOrdered` — feeds of a trail are stably ordered only if its clocks agree;
* `DateValue.instant` — the instant that a date stands for;
* `sortEvents_stable` — sorting in both directions, for dates of every kind;
* `sortEvents_against_instants` — two events that are sorted against their instants.
-/

namespace ParcelStatus

/-! ## Sorted feeds -/

variable {events : List TrackingEvent}

/-- Where the clocks of a feed agree, sorting gives the one list that is stably ordered. -/
theorem eq_sortEvents_iff (agree : ClocksAgree events) {newestFirst : Bool}
    {sorted : List TrackingEvent} :
    sorted = sortEvents events newestFirst ↔ StablyOrdered newestFirst events sorted := by
  rw [sortEvents_eq agree]
  exact eq_mergeSort_iff

theorem sortEvents_reverse (events : List TrackingEvent) :
    sortEvents events true = (sortEvents events.reverse false).reverse :=
  rfl

/-- Two events that are put in the order of their instants are compared as their instants are. -/
theorem isBefore_iff_of_stablyOrdered {a b : TrackingEvent}
    (stable : StablyOrdered false [b, a] (sortEvents [b, a] false)) :
    a.date.isBefore b.date = true ↔ a.date.instant < b.date.instant := by
  have pair : sortEvents [b, a] false = if a.date.isBefore b.date then [a, b] else [b, a] :=
    sortOldestFirst_pair b a
  cases before : a.date.isBefore b.date with
  | false =>
    rw [pair, before, if_neg Bool.false_ne_true] at stable
    have inOrder : leInstant b a = true := by simpa [inDirection] using stable.ordered
    rw [leInstant, decide_eq_true_eq] at inOrder
    simpa using inOrder
  | true =>
    rw [pair, before, if_pos rfl] at stable
    have inOrder : leInstant a b = true := by simpa [inDirection] using stable.ordered
    rw [leInstant, decide_eq_true_eq] at inOrder
    refine iff_of_true rfl (lt_of_le_of_ne inOrder fun tie => ?_)
    -- A tie stays as it came, so it is one event, which does not come before itself.
    have kept := stable.stable b.date.instant
    simp only [List.filter_cons, tie, decide_true, if_true, List.filter_nil, List.cons.injEq,
      and_true] at kept
    rw [kept.1, Moment.isBefore] at before
    simp at before

/-- All feeds of the events of a trail are put in the order of their instants only if the clocks of
the trail agree. -/
theorem clocksAgree_of_stablyOrdered
    (stable : ∀ feed, feed ⊆ events → ∀ newestFirst,
      StablyOrdered newestFirst feed (sortEvents feed newestFirst)) : ClocksAgree events :=
  fun a ha b hb => isBefore_iff_of_stablyOrdered
    (stable [b, a] (List.cons_subset.2 ⟨hb, List.cons_subset.2 ⟨ha, List.nil_subset events⟩⟩) false)

/-! ## What dates stand for -/

/-- The instant that a date stands for. For a moment it is what its clock shows, less the lead of the
clock, and a clock without an offset has none; for any other value it is the instant that the value
names, and the start of 1970 if it names none. -/
def DateValue.instant [Present] : DateValue → Int
  | .moment m => Moment.instantOf m.localDay m.clock m.offset
  | .json v => (instantOfJson? v).getD 0

theorem instant_of_read [Present] {given : DateValue} {m : Moment} (read : given.read = .ok m) :
    m.instant = given.instant := by
  cases given with
  | moment known =>
    cases read
    exact m.instantOf_clock.symm
  | json v =>
    rw [DateValue.instant]
    rcases readDate_eq_ok_iff.1 read with ⟨instant, named, -, rfl⟩ | ⟨unread, rfl⟩
    · rw [named, Option.getD_some]
    · rw [unread, Option.getD_none]
      rfl

/-- Sorting a feed loses no event and brings none in, and with the newest event first it gives the
other direction of the feed turned round, itself turned round. Where the clocks of the feed agree, it
gives the one list that holds the events in the order of their instants with the ties as they came, in
either direction; of all feeds of these events that holds only where the clocks agree. The instants
are those that the dates stand for which the events were given, of whatever kind these are; a value
gives an event a date unless it names an instant whose year is not one of 1 to 9999. -/
theorem sortEvents_stable [Present] (events : List TrackingEvent) :
    (∀ newestFirst, (sortEvents events newestFirst).Perm events) ∧
      sortEvents events true = (sortEvents events.reverse false).reverse ∧
      (ClocksAgree events → ∀ newestFirst sorted,
        sorted = sortEvents events newestFirst ↔ StablyOrdered newestFirst events sorted) ∧
      ((∀ feed, feed ⊆ events → ∀ newestFirst,
          StablyOrdered newestFirst feed (sortEvents feed newestFirst)) ↔ ClocksAgree events) ∧
      (∀ dates, List.Forall₂ (fun given e => DateValue.read given = .ok e.date) dates events →
        events.map (·.date.instant) = dates.map DateValue.instant) ∧
      ∀ v, (∃ m, DateValue.read (.json v) = .ok m) ↔ Datable v := by
  refine ⟨perm_sortEvents events, sortEvents_reverse events, ?_, ⟨?_, ?_⟩, ?_,
    fun v => readDate_returns_iff⟩
  · intro agree newestFirst sorted
    exact eq_sortEvents_iff agree
  · exact clocksAgree_of_stablyOrdered
  · intro agree feed within newestFirst
    exact stablyOrdered_sortEvents (agree.subset within) newestFirst
  · intro dates read
    induction read with
    | nil => rfl
    | cons first _ ih => rw [List.map_cons, List.map_cons, ih, instant_of_read first]

/-- Noon on the universal clock. -/
def noon : Int := 1736510400000000

/-- A moment at five in the afternoon, when the clock that names it shows eleven. -/
def lateEleven : Moment := { instant := 1736528400000000, offset := -21600000000 }

/-- Dates of all kinds: a text at noon whose clock shows one, a text that is no date, noon without an
offset, noon in nanoseconds, nothing, and a moment of the afternoon whose clock shows eleven. -/
def mixedDates : List DateValue :=
  [.json (.str "2025-01-10T13:00:00+01:00".toList), .json (.str "soon".toList),
    .moment { instant := noon }, .json (.int (noon * 1000)), .json .null, .moment lateEleven]

/-- An event that is known by its place in the feed. -/
def scanAt (place : Nat) (date : Moment) : TrackingEvent :=
  { description := Text.ofNat place, date }

/-- An event at noon on the universal clock. -/
def scanAtNoon (place : Nat) : TrackingEvent := scanAt place { instant := noon }

/-- A feed of these dates. -/
def mixedFeed : List TrackingEvent :=
  [scanAtNoon 1, scanAt 2 .epoch, scanAtNoon 3, scanAtNoon 4, scanAt 5 .epoch, scanAt 6 lateEleven]

attribute [local instance] Present.sample

/-- The two without a date come first and the three of noon stay in their order, in both
directions; the clock that shows the least names the latest. -/
theorem sortEvents_stable_of_mixed_dates :
    List.Forall₂ (fun given e => DateValue.read given = .ok e.date) mixedDates mixedFeed ∧
      mixedDates.map DateValue.instant = [noon, 0, noon, noon, 0, lateEleven.instant] ∧
      ClocksAgree mixedFeed ∧
      sortEvents mixedFeed false =
        [scanAt 2 .epoch, scanAt 5 .epoch, scanAtNoon 1, scanAtNoon 3, scanAtNoon 4,
          scanAt 6 lateEleven] ∧
      sortEvents mixedFeed true =
        [scanAt 6 lateEleven, scanAtNoon 1, scanAtNoon 3, scanAtNoon 4, scanAt 2 .epoch,
          scanAt 5 .epoch] := by
  obtain ⟨-, -, spec, -, instants, -⟩ := sortEvents_stable mixedFeed
  have written : DateValue.read (.json (.str "2025-01-10T13:00:00+01:00".toList)) =
      .ok { instant := noon } := by decide +kernel
  have unread : DateValue.read (.json (.str "soon".toList)) = .ok .epoch := by decide +kernel
  have counted : DateValue.read (.json (.int (noon * 1000))) = .ok { instant := noon } := by
    decide +kernel
  have read : List.Forall₂ (fun given e => DateValue.read given = .ok e.date)
      mixedDates mixedFeed :=
    .cons written (.cons unread (.cons rfl (.cons counted (.cons rfl (.cons rfl .nil)))))
  have agree : ClocksAgree mixedFeed := by decide +kernel
  refine ⟨read, (instants mixedDates read).symm, agree, ?_, ?_⟩
  · exact ((spec agree false _).2 (by decide +kernel)).symm
  · exact ((spec agree true _).2 (by decide +kernel)).symm

/-- Two scans in New York, forty minutes apart, between which the clock was set back by an hour. The
later one comes first. -/
theorem sortEvents_against_instants :
    halfPastOne.instant < tenPastOneAgain.instant ∧
      sortEvents [scanAt 1 halfPastOne, scanAt 2 tenPastOneAgain] false =
        [scanAt 2 tenPastOneAgain, scanAt 1 halfPastOne] ∧
      ¬StablyOrdered false [scanAt 1 halfPastOne, scanAt 2 tenPastOneAgain]
        (sortEvents [scanAt 1 halfPastOne, scanAt 2 tenPastOneAgain] false) := by
  have earlier : halfPastOne.instant < tenPastOneAgain.instant := by decide
  have shown : (scanAt 2 tenPastOneAgain).date.isBefore (scanAt 1 halfPastOne).date = true := by
    decide
  have turned : sortEvents [scanAt 1 halfPastOne, scanAt 2 tenPastOneAgain] false =
      [scanAt 2 tenPastOneAgain, scanAt 1 halfPastOne] :=
    (sortOldestFirst_pair _ _).trans (if_pos shown)
  refine ⟨earlier, turned, fun stable => ?_⟩
  exact absurd ((isBefore_iff_of_stablyOrdered stable).1 shown) (not_lt.2 earlier.le)

end ParcelStatus
