import ParcelStatus.Fedex.Code
import ParcelStatus.Fedex.Payload
import ParcelStatus.Proofs.Json.Texts
import ParcelStatus.Proofs.Outcome

/-!
# What a FedEx payload says

The statement of a body by its shape. A body without track results speaks through its own members;
its plain words are heard when neither of its movement codes is there.

* `trackResults_eq`, `latestDetail_eq`, `ancillaryReason_eq` — the paths to the parts of a body;
* `statementOf_of_results`, `statementOf_of_no_results` — the shape decides who speaks;
* `statementOfResults_eq` — what a body with track results says, once one of them is chosen;
* `plainWords?` — the words that a body without track results is judged by;
* `statementOfFlat_eq` — what such a body says, once its events are read;
* `exceptionStatus?_textOrBlank` — a blank value is no exception code, so it does not matter how
  it is written.
-/

namespace ParcelStatus.Fedex

open Text Outcome

/-! ## Paths -/

/-- The members of the first item of a list, if it is an object. -/
def firstMembers : Json → Members
  | .arr (.obj first :: _) => first
  | _ => []

theorem latestDetail_eq (result : Members) :
    latestDetail result = membersOrNone (Json.get result "latestStatusDetail") := by
  unfold latestDetail membersOrNone
  rfl

theorem ancillaryReason_eq (detail : Members) :
    ancillaryReason detail =
      (Json.get (firstMembers (Json.get detail "ancillaryDetails")) "reason").textOrBlank := by
  unfold ancillaryReason
  cases Json.get detail "ancillaryDetails" with
  | arr items =>
    cases items with
    | nil => rfl
    | cons first rest => cases first <;> rfl
  | _ => rfl

/-- The object in which the track results of a body stand. -/
def resultsBody (payload : Members) : Members :=
  membersOrNone ((Json.lookup "output".toList payload).getD (.obj payload))

theorem trackResults_eq (payload : Members) :
    trackResults payload =
      (Json.get (firstMembers (Json.get (resultsBody payload) "completeTrackResults"))
        "trackResults").objects := by
  unfold trackResults resultsBody
  cases (Json.lookup "output".toList payload).getD (.obj payload) with
  | obj body =>
    simp only [membersOrNone]
    cases Json.get body "completeTrackResults" with
    | arr items =>
      cases items with
      | nil => rfl
      | cons first rest => cases first <;> rfl
    | _ => rfl
  | _ => rfl

/-- A body with these track results. -/
def trackBody (results : List Members) : Members :=
  [("completeTrackResults".toList, .arr [.obj [("trackResults".toList, .arr (results.map .obj))]])]

theorem trackResults_trackBody (results : List Members) :
    trackResults (trackBody results) = results := by
  show (Json.arr (results.map .obj)).objects = results
  simp [Json.objects, List.filterMap_map]

/-! ## Shapes -/

theorem statementOf_of_results [Present] {body : Members} (nonempty : trackResults body ≠ []) :
    statementOf (.obj body) = statementOfResults (trackResults body) := by
  cases found : trackResults body with
  | nil => exact absurd found nonempty
  | cons result results => simp only [statementOf, found]

theorem statementOf_of_no_results [Present] {body : Members} (flat : trackResults body = []) :
    statementOf (.obj body) = statementOfFlat body := by
  simp only [statementOf, flat]

/-! ## Bodies with track results -/

theorem statementOfResults_eq [Present] (results : List Members) :
    statementOfResults results = (pick results).bind fun chosen =>
      ((results.flatMap eventMembers).mapM TrackingEvent.ofMembers).map fun events =>
        { derivedCode := resultDerivedCode chosen
          exceptionCode := resultExceptionCode chosen
          events } := by
  unfold statementOfResults
  cases pick results with
  | error fault => rfl
  | ok chosen => cases (results.flatMap eventMembers).mapM TrackingEvent.ofMembers <;> rfl

/-! ## Bodies without track results -/

/-- The plain words that decide: a text under `status`, if there is no movement code. -/
def plainWords? (body : Members) : Option Text :=
  if (Json.get body "derivedStatusCode").isTruthy || (Json.get body "derivedCode").isTruthy then
    none
  else (Json.get body "status").text?

/-- The movement code of a body without track results. -/
def flatDerivedCode (body : Members) : Text :=
  ((Json.get body "derivedStatusCode").orElse (Json.get body "derivedCode")).textOrBlank

theorem flatDerivedCode_eq_nil_iff (body : Members) :
    flatDerivedCode body = [] ↔
      ((Json.get body "derivedStatusCode").isTruthy ||
        (Json.get body "derivedCode").isTruthy) = false := by
  rw [flatDerivedCode, Json.textOrBlank_eq_nil_iff, Json.isTruthy_orElse]

theorem statementOfFlat_eq [Present] (body : Members) :
    statementOfFlat body = ((eventMembers body).mapM TrackingEvent.ofMembers).map fun events =>
      { derivedCode := flatDerivedCode body
        exceptionCode := (Json.get body "exceptionCode").textOrBlank
        events
        legacyWords := plainWords? body } := by
  have words : plainWords? body =
      if flatDerivedCode body = [] then (Json.get body "status").text? else none := by
    simp only [plainWords?, flatDerivedCode_eq_nil_iff]
    cases (Json.get body "derivedStatusCode").isTruthy || (Json.get body "derivedCode").isTruthy
      <;> rfl
  rw [words, statementOfFlat]
  cases (eventMembers body).mapM TrackingEvent.ofMembers with
  | error fault => rfl
  | ok events => rfl

/-! ## Codes -/

/-- No blank value is written like an exception code. -/
theorem exceptionStatus?_blankTexts : ∀ t ∈ Json.blankTexts, exceptionStatus? t = none := by
  decide +kernel

theorem exceptionStatus?_textOrBlank (v : Json) :
    exceptionStatus? v.textOrBlank = exceptionStatus? v.asText := by
  unfold Json.textOrBlank
  cases truthy : v.isTruthy with
  | true => rfl
  | false =>
    rw [exceptionStatus?_blankTexts v.asText (Json.asText_mem_blankTexts truthy)]
    exact exceptionStatus?_blankTexts [] (by decide)

/-- A known exception code decides alone. -/
theorem statusOf_of_exception {derived exception : Text} {s : Status}
    (known : exceptionStatus? exception = some s) : statusOf derived exception = s := by
  rw [statusOf, known]

end ParcelStatus.Fedex
