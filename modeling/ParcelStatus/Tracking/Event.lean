import ParcelStatus.Calendar.Reader
import ParcelStatus.Json.Display

/-!
# Scan events

One entry of a shipment's trail. Every event has a date: what no reader understands counts as the
start of 1970, so that the event still sorts.

* `readDate` — the date that a value of a payload names, at the present time;
* `TrackingEvent.ofMembers` — an event in the shape that FedEx sends;
* `TrackingEvent.toJson` — the same shape written back;
* `GivenEvent`, `TrackingEvent.ofParts` — an event of its single parts, which are kept as they are.
-/

namespace ParcelStatus

open Text

/-! ## Dates -/

/-- The instant of a count of nanoseconds since the start of 1970, if 64 bits hold it. The part
below a microsecond is cut. -/
def instantOfNanoseconds? (n : Int) : Option Int :=
  if Calendar.fitsNanoseconds n then some (n / 1000) else none

/-- The instant that a value names: texts are read, numbers are nanoseconds. -/
def instantOfJson? [Present] : Json → Option Int
  | .str t => Calendar.readInstant? t
  | .int n => instantOfNanoseconds? n
  | .float x => x.truncate?.bind instantOfNanoseconds?
  | _ => none

/-- The date that a value names, the start of 1970 if it names none. -/
def readDate [Present] (v : Json) : Except DateFault Moment :=
  match instantOfJson? v with
  | some instant => Moment.universal instant
  | none => .ok .epoch

/-- A date as an event is given it. -/
inductive DateValue where
  /-- A value to be read. -/
  | json (v : Json)
  /-- A moment that is known already. -/
  | moment (m : Moment)

/-- The date of a given date. -/
def DateValue.read [Present] : DateValue → Except DateFault Moment
  | .json v => readDate v
  | .moment m => .ok m

/-! ## Events -/

/-- One entry of a shipment's trail. -/
structure TrackingEvent where
  /-- What happened. -/
  description : Text
  /-- When it happened. -/
  date : Moment
  /-- What went wrong. -/
  exceptionDescription : Text := []
  /-- The kind of the event, or the carrier's code for it. -/
  eventType : Text := []
  /-- The code of the state that followed. -/
  derivedStatusCode : Text := []
  /-- The code of what went wrong. -/
  exceptionCode : Text := []
  /-- Where it happened. -/
  location : Option Text := none
deriving DecidableEq, Repr

/-- An event whose parts are kept as the values that were given. -/
structure GivenEvent where
  /-- What happened. -/
  description : Json
  /-- When it happened. -/
  date : Moment
  /-- What went wrong. -/
  exceptionDescription : Json := .str []
  /-- The kind of the event. -/
  eventType : Json := .str []
  /-- The code of the state that followed. -/
  derivedStatusCode : Json := .str []
  /-- The code of what went wrong. -/
  exceptionCode : Json := .str []
  /-- Where it happened. -/
  location : Json := .null

/-- The shape that FedEx sends. -/
def GivenEvent.toMembers (e : GivenEvent) : List (Text × Json) :=
  [("eventDescription".toList, e.description),
   ("date".toList, .str e.date.iso),
   ("exceptionDescription".toList, e.exceptionDescription),
   ("eventType".toList, e.eventType),
   ("derivedStatusCode".toList, e.derivedStatusCode),
   ("exceptionCode".toList, e.exceptionCode),
   ("location".toList, e.location)]

namespace TrackingEvent

/-- The place of an event: the city of a location object, or the location itself. -/
def locationOf (members : List (Text × Json)) : Option Text :=
  let place := match Json.get members "scanLocation" with
    | .obj parts => Json.get parts "city"
    | v => v
  if place.isTruthy then some place.asText else none

/-- An event in the shape that FedEx sends, with its date given. -/
def ofMembersAt (members : List (Text × Json)) (date : Moment) : TrackingEvent where
  description := (Json.get members "eventDescription").textOrBlank
  date
  exceptionDescription := (Json.get members "exceptionDescription").textOrBlank
  eventType := (Json.get members "eventType").textOrBlank
  derivedStatusCode := (Json.get members "derivedStatusCode").textOrBlank
  exceptionCode := (Json.get members "exceptionCode").textOrBlank
  location := locationOf members

/-- An event in the shape that FedEx sends. -/
def ofMembers [Present] (members : List (Text × Json)) : Except DateFault TrackingEvent :=
  (readDate (Json.get members "date")).map (ofMembersAt members)

/-- The event with its parts as values. -/
def given (e : TrackingEvent) : GivenEvent where
  description := .str e.description
  date := e.date
  exceptionDescription := .str e.exceptionDescription
  eventType := .str e.eventType
  derivedStatusCode := .str e.derivedStatusCode
  exceptionCode := .str e.exceptionCode
  location := match e.location with
    | some place => .str place
    | none => .null

/-- The shape that FedEx sends, with the place as a text. -/
def toMembers (e : TrackingEvent) : List (Text × Json) := e.given.toMembers

/-- The event as a JSON object. -/
def toJson (e : TrackingEvent) : Json := .obj e.toMembers

/-! ## Requests for events -/

/-- Why no event can be made of what was given. -/
inductive Fault where
  /-- The date is out of range. -/
  | date (fault : DateFault)
  /-- The payload is no object. -/
  | kind (fault : Json.KindFault)
  /-- The description is missing. -/
  | noDescription
  /-- An event has no part of this name. -/
  | unknownPart (name : Text)

/-- The wording of a fault. -/
def Fault.message : Fault → Text
  | .date f => f.message
  | .kind f => f.message
  | .noDescription =>
    "ScanEvent.__init__() missing 1 required positional argument: 'event_description'".toList
  | .unknownPart name =>
    "ScanEvent.__init__() got an unexpected keyword argument '".toList ++ name ++ ['\'']

/-- An event of a payload of any kind, with its date given apart. -/
def ofJson [Present] (payload : Json) (date : DateValue) : Except Fault TrackingEvent := do
  let members ← payload.membersOf.mapError .kind
  let date ← date.read.mapError .date
  return ofMembersAt members date

/-- The names of the parts of an event. -/
def partNames : List Text :=
  ["event_description".toList, "date".toList, "exception_description".toList, "event_type".toList,
   "derived_status_code".toList, "exception_code".toList, "location".toList]

/-- An event of its single parts, by their names. Only the description is required. -/
def ofParts [Present] (parts : List (Text × Json)) (date : DateValue) :
    Except Fault GivenEvent := do
  let part (key : String) (missing : Json) : Json := (Json.lookup key.toList parts).getD missing
  match parts.find? fun (name, _) => !partNames.contains name,
    Json.lookup "event_description".toList parts with
  | some (name, _), _ => .error (.unknownPart name)
  | none, none => .error .noDescription
  | none, some description =>
    let date ← date.read.mapError .date
    return {
      description
      date
      exceptionDescription := part "exception_description" (.str [])
      eventType := part "event_type" (.str [])
      derivedStatusCode := part "derived_status_code" (.str [])
      exceptionCode := part "exception_code" (.str [])
      location := part "location" .null }

end TrackingEvent

end ParcelStatus
