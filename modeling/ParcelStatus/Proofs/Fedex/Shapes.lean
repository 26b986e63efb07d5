import ParcelStatus.Proofs.Fedex.Decision

/-!
# One shipment in three shapes

A movement code, a problem code and a trail can be sent flat, as the one track result of a body, or
as such a body within `output`. What is said is the same, and so is every result, whatever kind of
values the codes and the trail are.

* `codedResult`, `SentFlat` — the values in a track result, and in a payload without track results;
* `statementOfResults_single` — one track result alone speaks for itself, and fails at its own
  first date that is out of range;
* `coded` — what the values say, by any shape;
* `reconcile_of_statement` — reconciling sees of a payload what it says;
* `shapes_agree` — the three shapes say the same and are reconciled the same way.
-/

namespace ParcelStatus.Fedex

open Text Outcome Log

/-! ## Shapes -/

/-- The track result with a movement code, a problem code and a trail. -/
def codedResult (derived exception events : Json) : Members :=
  [("latestStatusDetail".toList, .obj
      [("derivedCode".toList, derived),
       ("ancillaryDetails".toList, .arr [.obj [("reason".toList, exception)]])]),
   ("scanEvents".toList, events)]

/-- The payload has a movement code, a problem code and a trail of its own, and track results
neither in itself nor within `output`. It may have any other members. -/
structure SentFlat (payload : Members) (derived exception events : Json) : Prop where
  derived : Json.lookup "derivedStatusCode".toList payload = some derived
  exception : Json.lookup "exceptionCode".toList payload = some exception
  events : Json.lookup "scanEvents".toList payload = some events
  unwrapped : Json.lookup "output".toList payload = none
  noResults : Json.lookup "completeTrackResults".toList payload = none

/-- The body within `output`. -/
def wrapped (body : Members) : Members := [("output".toList, .obj body)]

theorem trackResults_wrapped (body : Members) (inner : Json.lookup "output".toList body = none) :
    trackResults (wrapped body) = trackResults body := by
  have outer : Json.lookup "output".toList (wrapped body) = some (.obj body) := rfl
  rw [trackResults, trackResults, outer, inner]
  rfl

/-- What is said by a movement code, a problem code and a trail, none of the codes blank. -/
def coded [Present] (derived exception events : Json) : Except DateFault Statement :=
  (events.objects.mapM TrackingEvent.ofMembers).map fun events =>
    { derivedCode := derived.asText, exceptionCode := exception.asText, events }

/-! ## One track result -/

/-- A result whose first date is out of range has no trail. -/
theorem trail_of_leadingDate [Present] {result : Members} {fault : DateFault}
    (fails : leadingDate result = .error fault) :
    (eventMembers result).mapM TrackingEvent.ofMembers = .error fault := by
  rw [leadingDate] at fails
  cases events : eventMembers result with
  | nil =>
    rw [events] at fails
    cases fails
  | cons e es =>
    have first : readDate (Json.get e "date") = .error fault := by simpa only [events] using fails
    rw [List.mapM_cons, TrackingEvent.ofMembers, first]
    rfl

/-- The one result is chosen, unless its first date has to be looked at and is out of range. -/
theorem pick_single [Present] (result : Members) :
    pick [result] = .ok result ∨
      ∃ fault, pick [result] = .error fault ∧ leadingDate result = .error fault := by
  cases delivered : isDelivered result with
  | true => exact .inl (by simp [pick, pickIndex, List.findIdx?_cons, delivered])
  | false =>
    cases leading : leadingDate result with
    | error fault =>
      refine .inr ⟨fault, ?_, rfl⟩
      simp [pick, pickIndex, List.findIdx?_cons, delivered, leading]
    | ok date =>
      exact .inl (by simp [pick, pickIndex, List.findIdx?_cons, delivered, leading, firstMaximum])

theorem statementOfResults_single [Present] (result : Members) :
    statementOfResults [result] =
      ((eventMembers result).mapM TrackingEvent.ofMembers).map fun events =>
        { derivedCode := resultDerivedCode result
          exceptionCode := resultExceptionCode result
          events } := by
  have trail : [result].flatMap eventMembers = eventMembers result := by simp
  rw [statementOfResults_eq, trail]
  rcases pick_single result with chosen | ⟨fault, fails, leading⟩
  · rw [chosen]
    rfl
  · -- The date that the choice fails at is the first of the trail.
    rw [fails, trail_of_leadingDate leading]
    rfl

/-! ## What the shapes say -/

variable {payload : Members} {derived exception events : Json}

theorem firstText_of_truthy {v : Json} (truthy : v.isTruthy = true) (vs : List Json) :
    firstText (v :: vs) = v.asText := by
  rw [firstText_cons, if_pos truthy]

theorem statementOf_codedResult [Present] (moved : derived.isTruthy = true)
    (failed : exception.isTruthy = true) (events : Json) :
    statementOfResults [codedResult derived exception events] = coded derived exception events := by
  have movement : resultDerivedCode (codedResult derived exception events) = derived.asText := by
    rw [resultDerivedCode_eq]
    exact firstText_of_truthy moved _
  have problem : resultExceptionCode (codedResult derived exception events) = exception.asText := by
    rw [resultExceptionCode_eq]
    exact firstText_of_truthy failed _
  rw [statementOfResults_single, movement, problem]
  rfl

theorem get_of_lookup {ms : Members} {name : String} {v : Json}
    (found : Json.lookup name.toList ms = some v) : Json.get ms name = v := by
  rw [Json.get, found]
  rfl

theorem SentFlat.trackResults_eq_nil (flat : SentFlat payload derived exception events) :
    trackResults payload = [] := by
  have none : Json.get payload "completeTrackResults" = .null := by
    rw [Json.get, flat.noResults]
    rfl
  rw [trackResults, flat.unwrapped]
  simp only [Option.getD_none, none]

theorem SentFlat.statementOf_eq [Present] (flat : SentFlat payload derived exception events)
    (moved : derived.isTruthy = true) (failed : exception.isTruthy = true) :
    statementOf (.obj payload) = coded derived exception events := by
  have movement : Json.get payload "derivedStatusCode" = derived := get_of_lookup flat.derived
  have problem : Json.get payload "exceptionCode" = exception := get_of_lookup flat.exception
  have trail : eventMembers payload = events.objects := by
    rw [eventMembers, get_of_lookup flat.events]
  have noWords : plainWords? payload = none := by
    rw [plainWords?, movement, moved]
    rfl
  have code : flatDerivedCode payload = derived.asText := by
    rw [flatDerivedCode, movement, Json.orElse, if_pos moved, Json.textOrBlank, if_pos moved]
  rw [statementOf_of_no_results flat.trackResults_eq_nil, statementOfFlat_eq, trail, noWords, code,
    problem, Json.textOrBlank, if_pos failed]
  rfl

/-! ## Reconciling -/

/-- Reconciling a payload sees what it says, and nothing else of it. -/
theorem reconcile_of_statement [Present] {p q : Json} (same : statementOf p = statementOf q)
    (r : Reconciler) (filter : Json) :
    r.reconcile .fedex (.json p) filter = r.reconcile .fedex (.json q) filter := by
  simp only [Reconciler.reconcile, findingOf, fedexFinding, same]

/-- A payload with a movement code and a problem code, the track result with the same codes and the
same trail, and that body within `output` say the same: the codes as texts and the trail, or the
fault of its first date that is out of range. So they are reconciled the same way, with the same
entries. -/
theorem shapes_agree [Present] (flat : SentFlat payload derived exception events)
    (moved : derived.isTruthy = true) (failed : exception.isTruthy = true) :
    (∀ shape ∈ [payload, trackBody [codedResult derived exception events],
        wrapped (trackBody [codedResult derived exception events])],
      statementOf (.obj shape) = coded derived exception events) ∧
    ∀ (r : Reconciler) (filter : Json),
      r.reconcile .fedex (.json (.obj payload)) filter =
          r.reconcile .fedex
            (.json (.obj (trackBody [codedResult derived exception events]))) filter ∧
        r.reconcile .fedex (.json (.obj payload)) filter =
          r.reconcile .fedex
            (.json (.obj (wrapped (trackBody [codedResult derived exception events])))) filter := by
  have single := trackResults_trackBody [codedResult derived exception events]
  have within : trackResults (wrapped (trackBody [codedResult derived exception events])) =
      [codedResult derived exception events] := by
    rw [trackResults_wrapped _ rfl, single]
  have body {shape : Members} (results : trackResults shape =
      [codedResult derived exception events]) :
      statementOf (.obj shape) = coded derived exception events := by
    have some_ : trackResults shape ≠ [] := by simp [results]
    rw [statementOf_of_results some_, results, statementOf_codedResult moved failed]
  have said := flat.statementOf_eq moved failed
  refine ⟨?_, fun r filter => ⟨?_, ?_⟩⟩
  · simp only [List.forall_mem_cons]
    exact ⟨said, body single, body within, List.forall_mem_nil _⟩
  · exact reconcile_of_statement (said.trans (body single).symm) r filter
  · exact reconcile_of_statement (said.trans (body within).symm) r filter

/-- A payload whose codes are a number and a list, with plain words and a trail of one event among
other things. -/
def oddPayload : Members :=
  [("status".toList, .str "Delivered".toList), ("exceptionCode".toList, .arr [.int 7]),
   ("scanEvents".toList, .arr [.null, .obj [("date".toList, .str "2025-01-10".toList)]]),
   ("derivedStatusCode".toList, .int 42)]

attribute [local instance] Present.sample

/-- Odd codes are the same texts in all shapes, and the plain words are not heard. -/
theorem shapes_agree_of_odd :
    Json.isTruthy (.int 42) = true ∧ Json.isTruthy (.arr [.int 7]) = true ∧
    ∃ events, SentFlat oddPayload (.int 42) (.arr [.int 7]) events ∧
      statementOf (.obj (wrapped (trackBody [codedResult (.int 42) (.arr [.int 7]) events]))) =
        .ok { derivedCode := "42".toList, exceptionCode := "[7]".toList,
              events := [{ description := [], date := { instant := 1736467200000000 } }] } ∧
      (({} : Reconciler).reconcile .fedex (.json (.obj oddPayload))) =
        ({} : Reconciler).reconcile .fedex
          (.json (.obj (trackBody [codedResult (.int 42) (.arr [.int 7]) events]))) := by
  have flat : SentFlat oddPayload (.int 42) (.arr [.int 7])
      (.arr [.null, .obj [("date".toList, .str "2025-01-10".toList)]]) := ⟨rfl, rfl, rfl, rfl, rfl⟩
  obtain ⟨said, reconciled⟩ := shapes_agree flat rfl rfl
  refine ⟨rfl, rfl, _, flat, ?_, (reconciled {} .null).1⟩
  rw [said _ (by simp)]
  decide +kernel

end ParcelStatus.Fedex
