import ParcelStatus.Proofs.Dhl.Checkpoints
import ParcelStatus.Proofs.Tracking.Outcome

/-!
# Faults of reconciliation

Whatever a carrier sends is reconciled, with one exception: a date that names an instant outside
the years 1 to 9999.

* `dateValues` — the event dates of a payload, for each carrier;
* `findingFor_restsOn` — a finding rests on these dates;
* `FailsByYearOnly` — work that fails at such a date and nowhere else;
* `reconcile_fails_by_year_only` — reconciling is such work;
* `reconcile_fails_at_year_zero` — a payload that shows the exception.
-/

namespace ParcelStatus

open Text Outcome Log Journal

/-! ## FedEx -/

namespace Fedex

/-- The events of a body: those of all its track results, or else its own. -/
def trail (body : Members) : List Members :=
  match trackResults body with
  | [] => eventMembers body
  | results => results.flatMap eventMembers

def dateValue (event : Members) : Json := Json.get event "date"

/-- The event dates of a payload. -/
def dateValues : Json → List Json
  | .obj body => (trail body).map dateValue
  | _ => []

theorem mapM_ofMembers_restsOn [Present] (events : List Members) :
    RestsOn (events.mapM TrackingEvent.ofMembers) (events.map dateValue) := by
  rw [List.map_eq_flatMap]
  exact restsOn_mapM (fun e => (restsOn_readDate (dateValue e)).map _) events

theorem leadingDate_restsOn [Present] (result : Members) :
    RestsOn (leadingDate result) ((eventMembers result).head?.map dateValue).toList := by
  unfold leadingDate
  cases eventMembers result with
  | nil => exact restsOn_ok _
  | cons e _ => exact restsOn_readDate (dateValue e)

/-- Choosing a result reads no other dates than its events have. -/
theorem pick_restsOn [Present] (results : List Members) :
    ∃ values ⊆ (results.flatMap eventMembers).map dateValue, RestsOn (pick results) values := by
  unfold pick pickIndex
  cases results.findIdx? isDelivered with
  | some i => exact ⟨[], List.nil_subset _, (restsOn_ok (some i)).map _⟩
  | none =>
    refine ⟨_, ?_, ((restsOn_mapM leadingDate_restsOn results).bind_ok ?_).map _⟩
    · intro v member
      obtain ⟨result, inResults, member⟩ := List.mem_flatMap.1 member
      rw [Option.mem_toList, Option.map_eq_some_iff] at member
      obtain ⟨e, first, rfl⟩ := member
      have inResult : e ∈ eventMembers result := List.mem_of_mem_head? first
      exact List.mem_map_of_mem (List.mem_flatMap.2 ⟨result, inResults, inResult⟩)
    · rintro (_ | ⟨d, ds⟩) <;> exact ⟨_, rfl⟩

theorem statementOf_restsOn [Present] (payload : Json) :
    RestsOn (statementOf payload) (dateValues payload) := by
  cases payload with
  | obj body =>
    cases found : trackResults body with
    | nil =>
      simp only [statementOf, dateValues, trail, found]
      exact (mapM_ofMembers_restsOn (eventMembers body)).bind_ok fun events => ⟨_, rfl⟩
    | cons result results =>
      simp only [statementOf, dateValues, trail, found]
      obtain ⟨values, subset, choice⟩ := pick_restsOn (result :: results)
      -- The choice comes first, but the dates that it reads are among those of the events.
      have events := mapM_ofMembers_restsOn ((result :: results).flatMap eventMembers)
      refine (choice.bind fun chosen _ => events.bind_ok fun es => ⟨_, rfl⟩).congr fun v => ?_
      rw [List.mem_append]
      exact ⟨fun member => member.elim (fun early => subset early) id, .inr⟩
  | _ => exact restsOn_ok _

end Fedex

/-! ## DHL -/

namespace Dhl

def dateValue (event : List (Text × Json)) : Json :=
  (Json.get event "eventDateTime").orElse (Json.get event "date")

/-- The event dates of a payload. -/
def dateValues : Json → List Json
  | .obj members => (Json.get members "events").objects.map dateValue
  | _ => []

theorem eventsOf_restsOn [Present] (payload : Json) :
    RestsOn (eventsOf payload) (dateValues payload) := by
  cases payload with
  | obj members =>
    simp only [eventsOf, dateValues]
    rw [List.map_eq_flatMap]
    refine restsOn_mapM (fun e => ?_) _
    exact (restsOn_readDate (dateValue e)).bind_ok fun date => ⟨_, rfl⟩
  | _ => exact restsOn_ok _

end Dhl

theorem dhlFinding_restsOn [Present] (payload : Json) :
    RestsOn (dhlFinding (.json payload)) (Dhl.dateValues payload) := by
  rw [dhlFinding_json]
  exact (Dhl.eventsOf_restsOn payload).map _

/-! ## Any carrier -/

/-- The event dates of a carrier's payload. -/
def dateValues : Carrier → Json → List Json
  | .fedex => Fedex.dateValues
  | .dhl => Dhl.dateValues

theorem findingFor_restsOn [Present] (carrier : Carrier) (payload : Json) :
    RestsOn (findingFor carrier (.json payload)) (dateValues carrier payload) := by
  cases carrier with
  | fedex => exact (Fedex.statementOf_restsOn payload).map _
  | dhl => exact dhlFinding_restsOn payload

/-- The work has a result when all values can be dates, and fails with the year of one of them
otherwise. -/
structure FailsByYearOnly [Present] {α : Type} (work : Except ReconcileFault α)
    (values : List Json) : Prop where
  /-- There is a result when all values can be dates, and only then. -/
  returns_iff : (∃ x, work = .ok x) ↔ ∀ v ∈ values, Datable v
  /-- A fault names the year of one of the values. -/
  fault : ∀ fault, work = .error fault → ∃ v ∈ values, ∃ instant,
    instantOfJson? v = some instant ∧ ¬IsWritableYear (Moment.yearOf instant) ∧
      fault = .date (.yearOutOfRange (Moment.yearOf instant))

theorem RestsOn.failsByYearOnly [Present] {α : Type} {work : Except DateFault α}
    {values : List Json}
    (h : RestsOn work values) : FailsByYearOnly (work.mapError .date) values where
  returns_iff := by
    rw [← h.returns_iff]
    simp only [mapError_eq_ok_iff]
  fault fault fails := by
    cases done : work with
    | ok x =>
      rw [done] at fails
      cases fails
    | error e =>
      rw [done, mapError_error] at fails
      cases fails
      obtain ⟨v, member, bad⟩ := h.fault e done
      obtain ⟨instant, named, year, rfl⟩ := readDate_eq_error_iff.1 bad
      exact ⟨v, member, instant, named, year, rfl⟩

/-- A reconciler with text filters comes to a result for whatever a carrier sends, unless an event
date of it names an instant outside the years 1 to 9999; that year is the only fault there is. A
date that can be read is the instant that it names, or the start of 1970. -/
theorem reconcile_fails_by_year_only [Present] (logger : Text) (narrow : Bool) (standard : Text)
    (filter : Option Text) :
    (∀ carrier payload, FailsByYearOnly
      (Reconciler.reconcileNamed { logger, narrow, defaultFilter := .str standard } (.ok carrier)
        payload (filter.elim .null .str)).outcome
      (dateValues carrier payload)) ∧
    (∀ report, FailsByYearOnly
      (Reconciler.reconcileReport { logger, narrow, defaultFilter := .str standard } (.str report)
        (filter.elim .null .str)).outcome
      (Dhl.reportDates report)) ∧
    ∀ v, (Datable v ↔ ∃ m, readDate v = .ok m) ∧
      ∀ m, readDate v = .ok m →
        (∃ instant, instantOfJson? v = some instant ∧ IsWritableYear (Moment.yearOf instant) ∧
          m = { instant }) ∨
        instantOfJson? v = none ∧ m = .epoch := by
  refine ⟨fun carrier payload => ?_, fun report => ?_, fun v => ?_⟩
  · rw [Reconciler.outcome_reconcileNamed, Reconciler.outcome_reconcile_text rfl]
    exact ((findingFor_restsOn carrier payload).map _).failsByYearOnly
  · rw [Reconciler.outcome_reconcileReport_text rfl]
    exact ((Dhl.shipmentsOf_restsOn report).map _).failsByYearOnly
  · exact ⟨readDate_returns_iff.symm, fun m read => readDate_eq_ok_iff.1 read⟩

/-- A DHL payload with an event of the year zero. -/
def yearZeroPayload : Json :=
  .obj [("events".toList, .arr [.obj
    [("code".toList, .str "FD".toList), ("eventDateTime".toList, .str "0000-01-01".toList)]])]

/-- A DHL report with a checkpoint of the year zero. -/
def yearZeroReport : Text :=
  ("AWB : 1234567890\nAWB/PID  Orig\n".toList
    ++ "1234567890  MEX  HMO  HMO  A1  FD  0000-01-01  x  Entregado".toList)

attribute [local instance] Present.sample

/-- Neither the payload nor the report of the year zero is reconciled. -/
theorem reconcile_fails_at_year_zero :
    (({} : Reconciler).reconcileNamed (Carrier.ofJson (.str "dhl".toList)) yearZeroPayload
      .null).outcome = .error (.date (.yearOutOfRange 0)) ∧
    (({} : Reconciler).reconcileReport (.str yearZeroReport) .null).outcome =
      .error (.date (.yearOutOfRange 0)) := by
  have carrier : Carrier.ofJson (.str "dhl".toList) = .ok .dhl := by rfl
  have payload : dhlFinding (.json yearZeroPayload) = .error (.yearOutOfRange 0) := by
    decide +kernel
  have report : Dhl.shipmentsOf yearZeroReport = .error (.yearOutOfRange 0) := by
    decide +kernel
  constructor
  · rw [carrier, Reconciler.outcome_reconcileNamed, Reconciler.outcome_reconcile, findingFor,
      payload]
    rfl
  · rw [Reconciler.outcome_reconcileReport, report]
    rfl

end ParcelStatus
