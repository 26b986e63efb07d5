import ParcelStatus.Dhl.Code
import ParcelStatus.Dhl.Report
import ParcelStatus.Fedex.Code
import ParcelStatus.Fedex.Payload
import ParcelStatus.Tracking.History

/-!
# Reconciling payloads

From a carrier's payload to the state of the shipment and its trimmed trail.

* `Payload` — a JSON value, or a shipment of a DHL report;
* `fedexFinding`, `dhlFinding` — the state, the rule that told it, and the trail;
* `Reconciler.reconcile` — the finding with its trail behind the filter, the state that is kept,
  and the entries written on the way;
* `Reconciler.reconcileReport` — one result for each block of a DHL report.
-/

namespace ParcelStatus

open Text Log

/-- The rule that told a state. -/
inductive Source where
  /-- FedEx codes. -/
  | fedexCodes
  /-- The plain words of an older FedEx payload. -/
  | fedexLegacy
  /-- DHL words. -/
  | dhlText
  /-- DHL checkpoint codes. -/
  | dhlEvents
deriving DecidableEq, Repr

/-- The written form of a source. -/
def Source.text : Source → Text
  | fedexCodes => "fedex_codes".toList
  | fedexLegacy => "fedex_legacy".toList
  | dhlText => "dhl_text".toList
  | dhlEvents => "dhl_events".toList

/-- What is reconciled. -/
inductive Payload where
  /-- A value that a carrier sent. -/
  | json (v : Json)
  /-- A shipment of a DHL report. -/
  | shipment (s : Dhl.Shipment)

/-- What a payload says. -/
structure Finding where
  /-- The state. -/
  status : Status
  /-- The rule that told it. -/
  source : Source
  /-- The trail. -/
  events : List TrackingEvent
deriving DecidableEq, Repr

/-- A reconciled payload. -/
structure Reconciled where
  carrier : Carrier
  /-- The rule that told the state. -/
  source : Source
  /-- The state. -/
  status : Status
  /-- The state that is kept. -/
  persisted : Status
  /-- A person has to look. -/
  needsReview : Bool
  /-- The trimmed trail. -/
  events : List TrackingEvent
deriving DecidableEq, Repr

/-- The result as members of a JSON object. -/
def Reconciled.toMembers (r : Reconciled) : List (Text × Json) :=
  [("carrier".toList, .str r.carrier.text),
   ("source".toList, .str r.source.text),
   ("status".toList, .str r.status.text),
   ("persistedStatus".toList, .str r.persisted.text),
   ("needsReview".toList, .bool r.needsReview),
   ("events".toList, .arr (r.events.map TrackingEvent.toJson))]

/-- Why a payload cannot be reconciled. -/
inductive ReconcileFault where
  /-- The carrier is unknown. -/
  | unknown (fault : UnknownName)
  /-- A date is out of range. -/
  | date (fault : DateFault)
  /-- The filter is no text, or the report is none. -/
  | kind (fault : Json.KindFault)

/-- The wording of a fault. -/
def ReconcileFault.message : ReconcileFault → Text
  | .unknown f => f.message
  | .date f => f.message
  | .kind f => f.message

/-! ## Findings -/

/-- What a FedEx payload says. -/
def fedexFinding [Present] (payload : Json) : Journal DateFault Finding := do
  let said ← .ofExcept (Fedex.statementOf payload)
  match said.legacyWords with
  | some words => return ⟨Fedex.legacyStatus words, .fedexLegacy, said.events⟩
  | none =>
    let status ← Fedex.logStatus said.derivedCode said.exceptionCode
    return ⟨status, .fedexCodes, said.events⟩

/-- The newest event; of several the first in the trail. -/
def newestEvent? (events : List TrackingEvent) : Option TrackingEvent :=
  (sortEvents events true).head?

/-- What a trail of DHL checkpoints says. -/
def checkpointFinding (events : List TrackingEvent) : Finding :=
  match newestEvent? events with
  | some newest => ⟨Dhl.statusOfCode newest.eventType, .dhlEvents, events⟩
  | none => ⟨Dhl.statusOfText [], .dhlText, events⟩

/-- The words of a DHL payload: the state, or the text when the state is blank. -/
def dhlWords (payload : Json) : Option Text :=
  match payload with
  | .obj members => ((Json.get members "status").orElse (Json.get members "text")).text?
  | _ => none

/-- What a DHL payload says. -/
def dhlFinding [Present] : Payload → Except DateFault Finding
  | .shipment s => .ok (checkpointFinding s.events)
  | .json .null => .ok ⟨Dhl.statusOfText [], .dhlText, []⟩
  | .json (.str t) => .ok ⟨Dhl.statusOfText t, .dhlText, []⟩
  | .json payload => do
    let events ← Dhl.eventsOf payload
    match dhlWords payload with
    | some t => return ⟨Dhl.statusOfText t, .dhlText, events⟩
    | none => return checkpointFinding events

/-- What a payload of a carrier says. A shipment of a report says nothing to FedEx's rules. -/
def findingOf [Present] (carrier : Carrier) (payload : Payload) : Journal DateFault Finding :=
  match carrier, payload with
  | .fedex, .json v => fedexFinding v
  | .fedex, .shipment _ => fedexFinding .null
  | .dhl, p => .ofExcept (dhlFinding p)

/-! ## The reconciler -/

/-- The settings of reconciliation. -/
structure Reconciler where
  /-- The name of the logger. -/
  logger : Text := "carrier_status_engine.pipelines.reconciler".toList
  /-- States of the engine are folded into the kept ones. -/
  narrow : Bool := true
  /-- The filter when a request has none. -/
  defaultFilter : Json := .str []

namespace Reconciler

/-- The filter of a request, or the default one. -/
def filterFor (r : Reconciler) (filter : Json) : Json :=
  match filter with
  | .null => r.defaultFilter
  | f => f

/-- The result that a finding gives behind a filter. -/
def resultOf (r : Reconciler) (carrier : Carrier) (f : Finding) (filter : Text) : Reconciled where
  carrier
  source := f.source
  status := f.status
  persisted := if r.narrow then f.status.narrowed else f.status
  needsReview := f.status.needsReview
  events := filterEvents filter f.events

/-- The entries about a result. -/
def logResult (r : Reconciler) (result : Reconciled) (found : Nat) :
    Journal ReconcileFault Unit := do
  let carrier := result.carrier.text
  let status := result.status.text
  if result.needsReview then
    Journal.write info r.logger
      (carrier ++ " payload mapped to ".toList ++ status
        ++ "; flagged for manual review".toList)
  Journal.write debug r.logger
    (carrier ++ " via ".toList ++ result.source.text ++ " -> ".toList ++ status
      ++ " (persisted=".toList ++ result.persisted.text ++ ", events ".toList ++ ofNat found
      ++ " -> ".toList ++ ofNat result.events.length ++ [')'])

def reconcile [Present] (r : Reconciler) (carrier : Carrier) (payload : Payload)
    (filter : Json := .null) : Journal ReconcileFault Reconciled := do
  let finding ← (findingOf carrier payload).mapError .date
  let filter ← .ofExcept ((filterOf (r.filterFor filter)).mapError .kind)
  let result := r.resultOf carrier finding filter
  r.logResult result finding.events.length
  return result

/-- Reconciles the payload of a carrier that is given by name. -/
def reconcileNamed [Present] (r : Reconciler) (carrier : Except UnknownName Carrier)
    (payload filter : Json) : Journal ReconcileFault Reconciled := do
  let carrier ← .ofExcept (carrier.mapError .unknown)
  r.reconcile carrier (.json payload) filter

/-- Reconciles payloads one by one; the first fault ends the work. -/
def reconcileAll [Present] (r : Reconciler) (items : List (Except UnknownName Carrier × Json))
    (filter : Json) : Journal ReconcileFault (List Reconciled) :=
  items.mapM fun (carrier, payload) => r.reconcileNamed carrier payload filter

/-- Reconciles every block of a DHL report; each result stands with the number of its waybill. -/
def reconcileReport [Present] (r : Reconciler) (report : Json) (filter : Json := .null) :
    Journal ReconcileFault (List (Text × Reconciled)) := do
  let shipments ← (Dhl.readReport report).mapError fun
    | .date f => .date f
    | .kind f => .kind f
  Journal.write info r.logger
    ("DHL report: ".toList ++ ofNat shipments.length ++ " shipment(s)".toList)
  shipments.mapM fun s => do return (s.awb, ← r.reconcile .dhl (.shipment s) filter)

end Reconciler

end ParcelStatus
