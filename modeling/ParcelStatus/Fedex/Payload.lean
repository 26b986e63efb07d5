import ParcelStatus.Text.Case
import ParcelStatus.Tracking.Event

/-!
# FedEx payloads

What a FedEx payload says about a shipment: its derived code, its exception code, its trail, and
perhaps the plain words of an older payload.

Three shapes are understood: a body with track results, whose codes are those of one chosen
result and whose trail is that of all of them; a flat object; and an older object with plain words
in `status`, used when there is no derived code.

* `Fedex.trackResults` — the track results of a body;
* `Fedex.pick` — the delivered result, else the one whose first event is the latest;
* `Fedex.statementOf` — what any value says.
-/

namespace ParcelStatus.Fedex

open Text

/-- The members of an object. -/
abbrev Members := List (Text × Json)

/-- What a payload says about a shipment. -/
structure Statement where
  /-- The code of the movement. -/
  derivedCode : Text := []
  /-- The code of the problem. -/
  exceptionCode : Text := []
  /-- The trail. -/
  events : List TrackingEvent := []
  /-- The plain words of an older payload. -/
  legacyWords : Option Text := none
deriving DecidableEq, Repr

/-! ## Track results -/

/-- The track results of a body, which may stand within `output`. -/
def trackResults (payload : Members) : List Members :=
  match (Json.lookup "output".toList payload).getD (.obj payload) with
  | .obj body =>
    match Json.get body "completeTrackResults" with
    | .arr (.obj complete :: _) => (Json.get complete "trackResults").objects
    | _ => []
  | _ => []

def eventMembers (result : Members) : List Members := (Json.get result "scanEvents").objects

def latestDetail (result : Members) : Members :=
  match Json.get result "latestStatusDetail" with
  | .obj detail => detail
  | _ => []

/-- The result is a delivery. -/
def isDelivered (result : Members) : Bool :=
  upper (Json.get (latestDetail result) "derivedCode").textOrBlank = ['D', 'L']

/-- The date of the first event of a result, the start of 1970 when there is none. -/
def leadingDate [Present] (result : Members) : Except DateFault Moment :=
  match eventMembers result with
  | e :: _ => readDate (Json.get e "date")
  | [] => .ok .epoch

/-- The place of the first of the greatest numbers. `best` is the greatest so far, at the place
`at_`, and `i` is the place of the next number. -/
def firstMaximum (best : Int) (at_ i : Nat) : List Int → Nat
  | [] => at_
  | n :: ns => if best < n then firstMaximum n i (i + 1) ns else firstMaximum best at_ (i + 1) ns

/-- The place of the result that decides: the first delivered one, else the first of those whose
first event is the latest. -/
def pickIndex [Present] (results : List Members) : Except DateFault (Option Nat) :=
  match results.findIdx? isDelivered with
  | some i => .ok (some i)
  | none => do
    match ← results.mapM leadingDate with
    | [] => return none
    | d :: ds => return some (firstMaximum d.instant 0 1 (ds.map (·.instant)))

/-- The result that decides, an empty one if there is none. -/
def pick [Present] (results : List Members) : Except DateFault Members :=
  (pickIndex results).map fun i => (i.bind (results[·]?)).getD []

/-- The reason of the first ancillary detail. -/
def ancillaryReason (detail : Members) : Text :=
  match Json.get detail "ancillaryDetails" with
  | .arr (.obj first :: _) => (Json.get first "reason").textOrBlank
  | _ => []

/-- A text, or the member of the first event if the text is empty. -/
def orFirstEvent (t : Text) (result : Members) (key : String) : Text :=
  match t, eventMembers result with
  | [], e :: _ => (Json.get e key).textOrBlank
  | t, _ => t

/-- The movement code of a result. -/
def resultDerivedCode (result : Members) : Text :=
  let detail := latestDetail result
  orFirstEvent ((Json.get detail "derivedCode").orElse (Json.get detail "code")).textOrBlank
    result "derivedStatusCode"

/-- The problem code of a result. -/
def resultExceptionCode (result : Members) : Text :=
  orFirstEvent (ancillaryReason (latestDetail result)) result "exceptionCode"

/-! ## What a payload says -/

/-- What is said by a body with track results. -/
def statementOfResults [Present] (results : List Members) : Except DateFault Statement := do
  let chosen ← pick results
  let events ← (results.flatMap eventMembers).mapM TrackingEvent.ofMembers
  return {
    derivedCode := resultDerivedCode chosen
    exceptionCode := resultExceptionCode chosen
    events }

/-- What is said by an object without track results. -/
def statementOfFlat [Present] (payload : Members) : Except DateFault Statement := do
  let events ← (eventMembers payload).mapM TrackingEvent.ofMembers
  let derivedCode :=
    ((Json.get payload "derivedStatusCode").orElse (Json.get payload "derivedCode")).textOrBlank
  let exceptionCode := (Json.get payload "exceptionCode").textOrBlank
  let legacyWords := if derivedCode = [] then (Json.get payload "status").text? else none
  return { derivedCode, exceptionCode, events, legacyWords }

/-- What a payload says; anything but an object says nothing. -/
def statementOf [Present] (payload : Json) : Except DateFault Statement :=
  match payload with
  | .obj members =>
    match trackResults members with
    | [] => statementOfFlat members
    | results => statementOfResults results
  | _ => .ok {}

/-! ## Requests for a choice -/

/-- The values are objects up to the first delivered result. -/
def checkResults : List Json → Except Json.KindFault Unit
  | [] => .ok ()
  | v :: vs => do
    let members ← v.membersOf
    if isDelivered members then return () else checkResults vs

/-- The members of an object, none of any other value. -/
def membersOrNone : Json → Members
  | .obj members => members
  | _ => []

/-- The place of the result that decides among values of any kind. Each must be an object up to
the first delivered one. -/
def pickAmong [Present] (values : List Json) : Except TrackingEvent.Fault (Option Nat) := do
  (checkResults values).mapError .kind
  (pickIndex (values.map membersOrNone)).mapError .date

end ParcelStatus.Fedex
