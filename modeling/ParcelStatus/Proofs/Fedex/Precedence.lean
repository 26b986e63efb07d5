import ParcelStatus.Proofs.Fedex.Statement
import ParcelStatus.Proofs.Tracking.Faults

/-!
# The precedence of exception codes

A known exception code goes before every other code of a body without track results. Plain words
under `status` go before it all the same, when the body has no movement code.

* `findingFor_flat` — the finding of a body without track results and with a known exception code;
* `reconcile_known_exception` — the code decides unless there are plain words that do;
* `reconcile_hidden_exception` — a refused parcel that is reported as delivered.
-/

namespace ParcelStatus

open Text Outcome Log Journal

namespace Fedex

/-- The finding of a known exception code, or of the plain words that go before it. -/
def exceptionFinding (s : Status) (body : Members) (events : List TrackingEvent) : Finding :=
  match plainWords? body with
  | some words => ⟨legacyStatus words, .fedexLegacy, events⟩
  | none => ⟨s, .fedexCodes, events⟩

theorem findingFor_flat [Present] {body : Members} {s : Status} (flat : trackResults body = [])
    (known : exceptionStatus? (Json.get body "exceptionCode").asText = some s) :
    findingFor .fedex (.json (.obj body)) =
      ((eventMembers body).mapM TrackingEvent.ofMembers).map (exceptionFinding s body) := by
  have code : exceptionStatus? (Json.get body "exceptionCode").textOrBlank = some s := by
    rw [exceptionStatus?_textOrBlank, known]
  rw [findingFor, statementOf_of_no_results flat, statementOfFlat_eq]
  cases (eventMembers body).mapM TrackingEvent.ofMembers with
  | error fault => rfl
  | ok events =>
    simp only [map_ok, Statement.finding, exceptionFinding]
    cases plainWords? body with
    | some words => rfl
    | none => simp only [statusOf_of_exception code]

end Fedex

open Fedex in
/-- A body without track results and with a known exception code is reconciled to the state of that
code, by FedEx codes, when it has a movement code or no plain words, and only then. Otherwise the
plain words decide. The year of an event date is the one thing that can fail. -/
theorem reconcile_known_exception [Present] {body : Members} {s : Status}
    (flat : trackResults body = [])
    (known : exceptionStatus? (Json.get body "exceptionCode").asText = some s)
    (logger : Text) (narrow : Bool) (standard : Text) (filter : Option Text) :
    FailsByYearOnly
      (Reconciler.reconcile { logger, narrow, defaultFilter := .str standard } .fedex
        (.json (.obj body)) (filter.elim .null .str)).outcome
      (dateValues .fedex (.obj body)) ∧
    ∀ x, (Reconciler.reconcile { logger, narrow, defaultFilter := .str standard } .fedex
        (.json (.obj body)) (filter.elim .null .str)).outcome = .ok x →
      ((x.status = s ∧ x.source = .fedexCodes) ↔ plainWords? body = none) ∧
      ∀ words, plainWords? body = some words →
        x.status = legacyStatus words ∧ x.source = .fedexLegacy := by
  constructor
  · rw [Reconciler.outcome_reconcile_text rfl]
    exact ((findingFor_restsOn .fedex (.obj body)).map _).failsByYearOnly
  · intro x returns
    rw [Reconciler.outcome_reconcile_text rfl, mapError_eq_ok_iff, map_eq_ok_iff,
      findingFor_flat flat known] at returns
    obtain ⟨f, found, rfl⟩ := returns
    obtain ⟨events, -, rfl⟩ := map_eq_ok_iff.1 found
    cases words : plainWords? body with
    | some words => simp [Reconciler.resultOf, exceptionFinding, words]
    | none => simp [Reconciler.resultOf, exceptionFinding, words]

namespace Fedex

/-- A body with an exception code in small letters, a movement code and plain words. -/
def refusedBody : Members :=
  [("exceptionCode".toList, .str " a12 ".toList), ("derivedStatusCode".toList, .str "DL".toList),
   ("status".toList, .str "Delivered".toList)]

attribute [local instance] Present.sample

/-- The exception code goes before the movement code and before the plain words. -/
theorem reconcile_known_exception_refused :
    trackResults refusedBody = [] ∧
    exceptionStatus? (Json.get refusedBody "exceptionCode").asText = some .direccionIncorrecta ∧
    plainWords? refusedBody = none ∧
    ∀ x, (({} : Reconciler).reconcile .fedex (.json (.obj refusedBody))
        (.str "x".toList)).outcome = .ok x →
      x.status = .direccionIncorrecta ∧ x.source = .fedexCodes := by
  have flat : trackResults refusedBody = [] := by decide +kernel
  have known : exceptionStatus? (Json.get refusedBody "exceptionCode").asText =
      some .direccionIncorrecta := by decide +kernel
  have silent : plainWords? refusedBody = none := by decide +kernel
  refine ⟨flat, known, silent, fun x returns => ?_⟩
  exact (((reconcile_known_exception flat known _ true [] (some "x".toList)).2 x returns).1).2 silent

/-- A body with an exception code and plain words, and without a movement code. -/
def hiddenExceptionBody : Members :=
  [("exceptionCode".toList, .str "07".toList), ("status".toList, .str "Delivered".toList)]

/-- The parcel was refused, and is reported as delivered. -/
theorem reconcile_hidden_exception :
    trackResults hiddenExceptionBody = [] ∧
    exceptionStatus? (Json.get hiddenExceptionBody "exceptionCode").asText = some .rechazado ∧
    ((({} : Reconciler).reconcile .fedex (.json (.obj hiddenExceptionBody))).outcome.toOption.map
      fun x => (x.status, x.source)) = some (.entregado, .fedexLegacy) := by
  decide +kernel

end Fedex

end ParcelStatus
