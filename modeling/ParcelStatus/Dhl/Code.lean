import ParcelStatus.Text.Case
import ParcelStatus.Tracking.Event
import ParcelStatus.Tracking.Status

/-!
# DHL words and codes

The state of a shipment by DHL's words, by its checkpoint codes, and the events of a DHL payload.
DHL shipments are taken to be under way when nothing else is known.

* `Dhl.statusOfText` — the state of the first rule that has a phrase in the text;
* `Dhl.statusOfCode` — the state by a checkpoint code;
* `Dhl.eventsOf` — the events of a payload, with the checkpoint code as event type.
-/

namespace ParcelStatus.Dhl

open Text Status

/-- Phrases and the state they tell, in order of precedence. The denial of a delivery contains
the word for a delivery, so it stands first. -/
def phraseRules : List (List Text × Status) :=
  [(["no entregado".toList], noEntregado),
   (["entregado".toList], entregado),
   (["en ruta".toList, "transito".toList], enRuta),
   (["pendiente".toList], pendiente),
   (["recoleccion".toList, "pickup".toList], recoleccion)]

/-- The rule has a phrase in the text. -/
def applies (folded : Text) (rule : List Text × Status) : Bool :=
  rule.1.any fun phrase => occursIn phrase folded

/-- The state that a text tells. -/
def statusOfText (t : Text) : Status :=
  match phraseRules.find? (applies (fold t)) with
  | some (_, s) => s
  | none => pendiente

/-- Checkpoint codes. -/
def eventCodes : List (Text × Status) :=
  [("PU".toList, recoleccion), ("PL".toList, enRuta), ("DF".toList, enRuta),
   ("AR".toList, enRuta), ("OH".toList, pendiente), ("FD".toList, entregado),
   ("MS".toList, pendiente), ("TD".toList, pendiente), ("CI".toList, enRuta),
   ("RW".toList, enRuta), ("SA".toList, enRuta), ("HN".toList, enRuta), ("IA".toList, enRuta)]

/-- The state by a checkpoint code. -/
def statusOfCode (code : Text) : Status :=
  (eventCodes.lookup (normalizeCode code)).getD pendiente

/-- The state that a value of a request tells. -/
def statusOfTextJson (v : Json) : Except Json.KindFault Status :=
  (v.textFor .folding).map statusOfText

/-- The state by a checkpoint code of a request. -/
def statusOfCodeJson (v : Json) : Except Json.KindFault Status :=
  (v.textFor .trimming).map statusOfCode

/-! ## Events of a payload -/

/-- An event in the shape that DHL sends. -/
def eventOfMembers [Present] (members : List (Text × Json)) : Except DateFault TrackingEvent := do
  let description :=
    ((Json.get members "remark").orElse (Json.get members "description")).textOrBlank
  let date ← readDate ((Json.get members "eventDateTime").orElse (Json.get members "date"))
  let facility := Json.get members "facilityId"
  return {
    description, date
    eventType := (Json.get members "code").textOrBlank
    location := if facility.isTruthy then some facility.asText else none }

/-- The events of a payload; entries that are no objects are passed over. -/
def eventsOf [Present] (payload : Json) : Except DateFault (List TrackingEvent) :=
  match payload with
  | .obj members => (Json.get members "events").objects.mapM eventOfMembers
  | _ => .ok []

end ParcelStatus.Dhl
