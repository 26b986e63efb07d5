import ParcelStatus.Log.Journal
import ParcelStatus.Text.Case
import ParcelStatus.Tracking.Status

/-!
# FedEx codes

The state of a shipment by FedEx's codes. Codes are compared trimmed and in upper case.

* `Fedex.statusOf` — a known exception code wins; else the derived code decides; else nothing is
  known about the shipment;
* `Fedex.logStatus` — the same with a warning when nothing is known;
* `Fedex.legacyStatus` — the state by the plain words of the older payloads.
-/

namespace ParcelStatus.Fedex

open Text Status

/-- A table of codes from groups of codes of one state. -/
def codeTable (groups : List (List String × Status)) : List (Text × Status) :=
  groups.flatMap fun (codes, s) => codes.map fun code => (code.toList, s)

/-- Problems of delivery. -/
def exceptionCodes : List (Text × Status) := codeTable
  [(["07"], rechazado),
   (["08"], clienteNoDisponible),
   (["67"], enBodega),
   (["03", "A12", "A13"], direccionIncorrecta),
   (["41", "11", "DF"], pendiente),
   (["15", "64"], estacionFedex),
   (["14", "086C"], retornoAbandonoFedex),
   (["84", "17"], cambioFechaSolicitado),
   (["20", "79", "79A"], pendiente),
   (["08D"], noEntregado),
   (["71", "72"], clienteNoDisponible)]

/-- Movements of a shipment. -/
def derivedCodes : List (Text × Status) := codeTable
  [(["DL"], entregado),
   (["PU", "OC"], recoleccion),
   (["FD", "IT", "OW", "HL", "DU", "IN"], pendiente),
   (["DE", "TA", "SE"], noEntregado),
   (["OD"], acargoDeFedex),
   (["RF"], rechazado)]

/-- The state by an exception code. -/
def exceptionStatus? (code : Text) : Option Status := exceptionCodes.lookup (normalizeCode code)

/-- The state by a derived code. -/
def derivedStatus? (code : Text) : Option Status := derivedCodes.lookup (normalizeCode code)

/-- The state by both codes; an empty text is a code that is missing. -/
def statusOf (derived exception : Text) : Status :=
  match exceptionStatus? exception with
  | some s => s
  | none => (derivedStatus? derived).getD desconocido

/-- The name of the logger for unknown codes. -/
def codeLogger : Text := "carrier_status_engine.rules.fedex".toList

/-- The warning that two codes are unknown. -/
def unknownCodes (derived exception : Text) : Text :=
  "Unmapped FedEx derivedStatusCode=".toList ++ quoted (normalizeCode derived)
    ++ " exceptionCode=".toList ++ quoted (normalizeCode exception)

/-- The state by both codes, with a warning when neither is known. -/
def logStatus {ε : Type} (derived exception : Text) : Log.Journal ε Status :=
  match exceptionStatus? exception with
  | some s => pure s
  | none =>
    match derivedStatus? derived with
    | some s => pure s
    | none => do
      Log.Journal.write Log.warning codeLogger (unknownCodes derived exception)
      return desconocido

/-- The state by two values of a request. The derived code is not looked at when the exception
code is known. -/
def logStatusOfJson (derived exception : Json) : Log.Journal Json.KindFault Status := do
  let exception ← .ofExcept (exception.textFor .trimming)
  match exceptionStatus? exception with
  | some s => return s
  | none =>
    let derived ← .ofExcept (derived.textFor .trimming)
    logStatus derived exception

/-! ## Plain words -/

/-- The plain words of the older payloads, each beside the same words in one. -/
def legacyWords : List (Text × Text × Status) :=
  [("Delivered".toList, "Delivered".toList, entregado),
   ("Picked up".toList, "PickedUp".toList, recoleccion),
   ("Shipment information sent to FedEx".toList, "ShipmentInformationSentToFedEx".toList,
    recoleccion),
   ("At local FedEx facility".toList, "AtLocalFedExFacility".toList, recoleccion),
   ("Left FedEx origin facility".toList, "LeftFedExOriginFacility".toList, enRuta),
   ("Departed FedEx hub".toList, "DepartedFedExHub".toList, enRuta),
   ("Arrived at FedEx hub".toList, "ArrivedAtFedExHub".toList, enRuta),
   ("On the way".toList, "OnTheWay".toList, enRuta),
   ("On FedEx vehicle for delivery".toList, "OnFedExVehicleForDelivery".toList, enRuta)]

/-- The state by plain words; other words are no delivery. -/
def legacyStatus (words : Text) : Status :=
  match legacyWords.find? fun (long, short, _) => words = long || words = short with
  | some (_, _, s) => s
  | none => noEntregado

/-- The state by plain words of any kind of value. -/
def legacyStatusOfJson (v : Json) : Status :=
  match v.text? with
  | some words => legacyStatus words
  | none => noEntregado

theorem outcome_logStatus {ε : Type} (derived exception : Text) :
    (logStatus (ε := ε) derived exception).outcome = .ok (statusOf derived exception) := by
  unfold logStatus statusOf
  cases exceptionStatus? exception with
  | some s => rfl
  | none => cases derivedStatus? derived <;> rfl

end ParcelStatus.Fedex
