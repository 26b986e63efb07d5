import ParcelStatus.Tracking.Reconciliation
import ParcelStatus.Proofs.Outcome

/-!
# Outcomes of reconciliation

What reconciling a payload or a report comes to, without the entries that are written on the way.

* `Fedex.Statement.finding` — the finding that a FedEx statement gives;
* `Dhl.finding` — the finding that a DHL payload gives over its events;
* `findingFor` — what a payload of a carrier says, as a plain function;
* `Reconciler.outcome_reconcile`, `Reconciler.outcome_reconcileReport` — the outcome of one payload
  and of a report;
* `Reconciler.outcome_reconcile_text`, `Reconciler.outcome_reconcileReport_text` — the same when
  every filter is a text, so that no filter can be refused.
-/

namespace ParcelStatus

open Text Outcome Log Journal

/-! ## Findings -/

/-- The finding that a FedEx statement gives. -/
def Fedex.Statement.finding (s : Fedex.Statement) : Finding :=
  match s.legacyWords with
  | some words => ⟨Fedex.legacyStatus words, .fedexLegacy, s.events⟩
  | none => ⟨Fedex.statusOf s.derivedCode s.exceptionCode, .fedexCodes, s.events⟩

theorem Fedex.Statement.finding_events (s : Fedex.Statement) : s.finding.events = s.events := by
  unfold Fedex.Statement.finding
  split <;> rfl

theorem outcome_fedexFinding [Present] (payload : Json) :
    (fedexFinding payload).outcome = (Fedex.statementOf payload).map (·.finding) := by
  unfold fedexFinding
  rw [outcome_bind, outcome_ofExcept]
  cases Fedex.statementOf payload with
  | error e => rfl
  | ok said =>
    simp only [ok_bind, map_ok, Fedex.Statement.finding]
    cases said.legacyWords with
    | some words => rfl
    | none => simp [Fedex.outcome_logStatus]

/-- The words that a DHL payload is judged by: a text itself, or those of an object. -/
def Dhl.words : Json → Option Text
  | .str t => some t
  | payload => dhlWords payload

/-- The finding that a DHL payload with these events gives. -/
def Dhl.finding (payload : Json) (events : List TrackingEvent) : Finding :=
  match Dhl.words payload with
  | some t => ⟨Dhl.statusOfText t, .dhlText, events⟩
  | none => checkpointFinding events

theorem checkpointFinding_events (events : List TrackingEvent) :
    (checkpointFinding events).events = events := by
  unfold checkpointFinding
  split <;> rfl

theorem Dhl.finding_events (payload : Json) (events : List TrackingEvent) :
    (Dhl.finding payload events).events = events := by
  unfold Dhl.finding
  split
  · rfl
  · exact checkpointFinding_events events

/-- The cases of texts and of null are cases of a payload without events. -/
theorem dhlFinding_json [Present] (payload : Json) :
    dhlFinding (.json payload) = (Dhl.eventsOf payload).map (Dhl.finding payload) := by
  cases payload with
  | null =>
    simp [dhlFinding, Dhl.eventsOf, Dhl.finding, Dhl.words, dhlWords, checkpointFinding,
      newestEvent?, sortEvents, sortOldestFirst]
  | str t => rfl
  | _ =>
    simp only [dhlFinding]
    cases Dhl.eventsOf _ with
    | error fault => rfl
    | ok events =>
      simp only [ok_bind, map_ok, Dhl.finding, Dhl.words]
      cases dhlWords _ <;> rfl

/-- What a payload of a carrier says. -/
def findingFor [Present] (carrier : Carrier) (payload : Payload) : Except DateFault Finding :=
  match carrier, payload with
  | .fedex, .json v => (Fedex.statementOf v).map (·.finding)
  | .fedex, .shipment _ => .ok ({} : Fedex.Statement).finding
  | .dhl, p => dhlFinding p

theorem outcome_findingOf [Present] (carrier : Carrier) (payload : Payload) :
    (findingOf carrier payload).outcome = findingFor carrier payload := by
  cases carrier with
  | dhl => cases payload <;> rfl
  | fedex =>
    cases payload with
    | json v => exact outcome_fedexFinding v
    | shipment s => exact outcome_fedexFinding .null

/-! ## Payloads and reports -/

theorem Dhl.outcome_readReport [Present] (report : Text) :
    (Dhl.readReport (.str report)).outcome = (Dhl.shipmentsOf report).mapError .date := by
  simp only [Dhl.readReport, outcome_bind, outcome_ofExcept, Json.textFor_str, mapError_ok, ok_bind]
  cases Dhl.shipmentsOf report <;> rfl

namespace Reconciler

@[simp] theorem outcome_logResult (r : Reconciler) (result : Reconciled) (found : Nat) :
    (r.logResult result found).outcome = .ok () := by
  unfold logResult
  cases result.needsReview <;> simp

theorem outcome_reconcile [Present] (r : Reconciler) (carrier : Carrier) (payload : Payload)
    (filter : Json) :
    (r.reconcile carrier payload filter).outcome = do
      let finding ← (findingFor carrier payload).mapError .date
      let filter ← (filterOf (r.filterFor filter)).mapError .kind
      return r.resultOf carrier finding filter := by
  unfold reconcile
  simp [outcome_findingOf]

/-- A payload is reconciled when its dates can be read and the filter is a text. -/
theorem outcome_reconcile_eq_ok_iff [Present] {r : Reconciler} {carrier : Carrier}
    {payload : Payload} {filter : Json} {x : Reconciled} :
    (r.reconcile carrier payload filter).outcome = .ok x ↔
      ∃ f t, findingFor carrier payload = .ok f ∧ filterOf (r.filterFor filter) = .ok t ∧
        r.resultOf carrier f t = x := by
  simp only [outcome_reconcile, bind_eq_ok_iff, mapError_eq_ok_iff, pure_eq, Except.ok.injEq]
  constructor
  · rintro ⟨f, found, t, asked, rfl⟩
    exact ⟨f, t, found, asked, rfl⟩
  · rintro ⟨f, t, found, asked, rfl⟩
    exact ⟨f, found, t, asked, rfl⟩

theorem outcome_reconcileNamed [Present] (r : Reconciler) (carrier : Carrier)
    (payload filter : Json) : (r.reconcileNamed (.ok carrier) payload filter).outcome =
      (r.reconcile carrier (.json payload) filter).outcome := by
  rw [reconcileNamed, outcome_bind]
  rfl

/-- The result of a block of a report, beside the number of its waybill. -/
def blockResult [Present] (r : Reconciler) (filter : Json) (s : Dhl.Shipment) :
    Except ReconcileFault (Text × Reconciled) :=
  (r.reconcile .dhl (.shipment s) filter).outcome.map fun x => (s.awb, x)

theorem outcome_reconcileReport [Present] (r : Reconciler) (report : Text) (filter : Json) :
    (r.reconcileReport (.str report) filter).outcome =
      ((Dhl.shipmentsOf report).mapError .date >>= fun shipments =>
        shipments.mapM (r.blockResult filter)) := by
  simp only [reconcileReport, outcome_bind, outcome_mapError, Dhl.outcome_readReport,
    outcome_write, outcome_mapM]
  cases Dhl.shipmentsOf report <;> rfl

/-! ## Filters that are texts -/

variable {r : Reconciler} {standard : Text}

/-- The filter of a request is a text when the default one is. -/
theorem filterOf_filterFor (text : r.defaultFilter = .str standard) (filter : Option Text) :
    filterOf (r.filterFor (filter.elim .null .str)) = .ok (filter.getD standard) := by
  cases filter with
  | none =>
    simp only [Option.elim_none, filterFor, text]
    rfl
  | some t => rfl

theorem outcome_reconcile_text [Present] (text : r.defaultFilter = .str standard)
    (carrier : Carrier) (payload : Payload) (filter : Option Text) :
    (r.reconcile carrier payload (filter.elim .null .str)).outcome =
      ((findingFor carrier payload).map fun finding =>
        r.resultOf carrier finding (filter.getD standard)).mapError .date := by
  rw [outcome_reconcile, filterOf_filterFor text]
  cases findingFor carrier payload <;> rfl

theorem outcome_reconcileReport_text [Present] (text : r.defaultFilter = .str standard)
    (report : Text) (filter : Option Text) :
    (r.reconcileReport (.str report) (filter.elim .null .str)).outcome =
      ((Dhl.shipmentsOf report).map fun shipments => shipments.map fun s =>
        (s.awb, r.resultOf .dhl (checkpointFinding s.events) (filter.getD standard))).mapError
          .date := by
  have block (s : Dhl.Shipment) : r.blockResult (filter.elim .null .str) s =
      pure (s.awb, r.resultOf .dhl (checkpointFinding s.events) (filter.getD standard)) := by
    rw [blockResult, outcome_reconcile_text text]
    rfl
  rw [outcome_reconcileReport, funext block]
  cases Dhl.shipmentsOf report with
  | error fault => rfl
  | ok shipments => exact List.mapM_pure

end Reconciler

end ParcelStatus
