import ParcelStatus.Proofs.Fedex.Choice
import ParcelStatus.Proofs.Fedex.Spelling
import ParcelStatus.Proofs.Tracking.Faults

/-!
# The judgement by one track result

A body with track results gets its state from one of them. The others count only for the choice, so
a delivered parcel is not hidden by results that are newer or more in number.

* `IsDelivery`, `isDelivered_iff` — the code of a delivery, up to the case of its letters;
* `firstText` — the first of several values that is not blank;
* `resultDerivedCode_eq`, `resultExceptionCode_eq` — where the codes of a result are looked for;
* `pick_cases` — the result that is chosen, by its place among the others;
* `reconcile_by_one_result` — the state that it leads to.
-/

namespace ParcelStatus.Fedex

open Text Outcome

/-! ## Deliveries -/

/-- The derived code of the result is that of a delivery, up to the case of letters. -/
def IsDelivery (result : Members) : Prop :=
  (Json.get (latestDetail result) "derivedCode").textOrBlank.map Char.toLower =
    deliveryCode.map Char.toLower

instance (result : Members) : Decidable (IsDelivery result) :=
  inferInstanceAs (Decidable (_ = _))

theorem isDelivered_iff {result : Members} : isDelivered result = true ↔ IsDelivery result := by
  have plain : ∀ d ∈ deliveryCode, IsPlain d := by
    rw [deliveryCode, List.forall_mem_cons, List.forall_mem_singleton]
    decide
  have capital : upper deliveryCode = deliveryCode := by decide +kernel
  unfold isDelivered
  rw [decide_eq_true_iff]
  exact upper_eq_iff_of_plain plain capital

theorem isDelivered_eq_false_iff {result : Members} :
    isDelivered result = false ↔ ¬IsDelivery result := by
  rw [← isDelivered_iff, Bool.not_eq_true]

/-- Only an exception code keeps a delivery from being one. -/
theorem statusOf_delivery {derived : Text} (exception : Text)
    (delivery : derived.map Char.toLower = deliveryCode.map Char.toLower) :
    statusOf derived exception = (exceptionStatus? exception).getD .entregado := by
  have alike : CodesAlike derived deliveryCode := .of_spelled (.of_map_toLower delivery)
  have known : derivedStatus? deliveryCode = some .entregado := by decide +kernel
  unfold statusOf
  rw [alike.derived, known]
  cases exceptionStatus? exception <;> rfl

/-! ## The codes of a result -/

/-- The text of the first value that is not blank, and nothing if all of them are. -/
def firstText (values : List Json) : Text := ((values.find? Json.isTruthy).map Json.asText).getD []

theorem firstText_cons (v : Json) (vs : List Json) :
    firstText (v :: vs) = if v.isTruthy then v.asText else firstText vs := by
  unfold firstText
  rw [List.find?_cons]
  cases v.isTruthy <;> rfl

/-- The first event of a result, one without members if there is none. -/
def firstEvent (result : Members) : Members := (eventMembers result).headD []

theorem orFirstEvent_firstText (values : List Json) (result : Members) (key : String) :
    orFirstEvent (firstText values) result key =
      firstText (values ++ [Json.get (firstEvent result) key]) := by
  induction values with
  | nil =>
    show orFirstEvent [] result key = firstText [Json.get (firstEvent result) key]
    unfold orFirstEvent firstEvent
    rw [firstText_cons]
    cases eventMembers result <;> rfl
  | cons v vs ih =>
    rw [List.cons_append, firstText_cons, firstText_cons]
    cases truthy : v.isTruthy with
    | false => simpa using ih
    | true =>
      -- A value that is not blank has a text, which does not give way.
      obtain ⟨c, r, text⟩ := List.exists_cons_of_ne_nil (Json.asText_ne_nil_of_isTruthy truthy)
      simp only [if_true, text, orFirstEvent]

/-- The values that are asked for the movement code of a result, in order. -/
def derivedSources (result : Members) : List Json :=
  [Json.get (latestDetail result) "derivedCode", Json.get (latestDetail result) "code",
   Json.get (firstEvent result) "derivedStatusCode"]

/-- The values that are asked for the problem code of a result, in order. -/
def exceptionSources (result : Members) : List Json :=
  [Json.get (firstMembers (Json.get (latestDetail result) "ancillaryDetails")) "reason",
   Json.get (firstEvent result) "exceptionCode"]

theorem resultDerivedCode_eq (result : Members) :
    resultDerivedCode result = firstText (derivedSources result) := by
  have either (v w : Json) : (v.orElse w).textOrBlank = firstText [v, w] := by
    rw [firstText_cons, firstText_cons, Json.orElse]
    cases truthy : v.isTruthy with
    | true => simp [Json.textOrBlank, truthy]
    | false => rfl
  unfold resultDerivedCode
  dsimp only
  rw [either, orFirstEvent_firstText]
  rfl

theorem resultExceptionCode_eq (result : Members) :
    resultExceptionCode result = firstText (exceptionSources result) := by
  have single (v : Json) : v.textOrBlank = firstText [v] := by
    rw [firstText_cons]
    rfl
  unfold resultExceptionCode
  rw [ancillaryReason_eq, single, orFirstEvent_firstText]
  rfl

theorem resultDerivedCode_delivery {result : Members} (delivery : IsDelivery result) :
    (resultDerivedCode result).map Char.toLower = deliveryCode.map Char.toLower := by
  have truthy : (Json.get (latestDetail result) "derivedCode").isTruthy = true := by
    by_contra blank
    rw [Bool.not_eq_true, ← Json.textOrBlank_eq_nil_iff] at blank
    rw [IsDelivery, blank] at delivery
    exact absurd delivery (by decide)
  rw [resultDerivedCode_eq, derivedSources, firstText_cons, if_pos truthy, ← delivery,
    Json.textOrBlank, if_pos truthy]

/-! ## The choice by place -/

/-- The result is a delivery, and none in front of it is. -/
structure FirstDelivery (before : List Members) (result : Members) : Prop where
  delivery : IsDelivery result
  before : ∀ q ∈ before, ¬IsDelivery q

theorem dates_of_pick [Present] {results : List Members} {chosen : Members}
    (open_ : ∀ r ∈ results, isDelivered r = false) (picked : pick results = .ok chosen) :
    ∃ dates, results.mapM leadingDate = .ok dates := by
  obtain ⟨place, index, -⟩ := map_eq_ok_iff.1 picked
  rw [pickIndex, List.findIdx?_eq_none_iff.2 open_] at index
  obtain ⟨dates, read, -⟩ := bind_eq_ok_iff.1 index
  exact ⟨dates, read⟩

/-- The result that is chosen is the first delivery, or without one the first of those that lead
with the latest date. -/
theorem pick_cases [Present] {results : List Members} {chosen : Members} (nonempty : results ≠ [])
    (picked : pick results = .ok chosen) :
    ∃ before after, results = before ++ chosen :: after ∧
      (FirstDelivery before chosen ∨
        (∀ q ∈ results, ¬IsDelivery q) ∧ LeadsFirst before chosen after) := by
  by_cases delivered : ∃ r ∈ results, isDelivered r = true
  · obtain ⟨before, r, after, rfl, misses, hit, choice⟩ := pick_delivered delivered
    obtain rfl : r = chosen := Except.ok.inj (choice.symm.trans picked)
    refine ⟨before, after, rfl, .inl ⟨isDelivered_iff.1 hit, ?_⟩⟩
    intro q member
    exact isDelivered_eq_false_iff.1 (misses q member)
  · have open_ : ∀ r ∈ results, isDelivered r = false := by
      intro r member
      rw [← Bool.not_eq_true]
      intro hit
      exact delivered ⟨r, member, hit⟩
    obtain ⟨dates, read⟩ := dates_of_pick open_ picked
    obtain ⟨before, r, after, rfl, leads, choice⟩ := pick_latest nonempty open_ read
    obtain rfl : r = chosen := Except.ok.inj (choice.symm.trans picked)
    refine ⟨before, after, rfl, .inr ⟨?_, leads⟩⟩
    intro q member
    exact isDelivered_eq_false_iff.1 (open_ q member)

/-! ## The state -/

theorem findingFor_of_results [Present] {body : Members} (some_ : trackResults body ≠ [])
    {f : Finding} (found : findingFor .fedex (.json (.obj body)) = .ok f) :
    ∃ chosen, pick (trackResults body) = .ok chosen ∧ f.source = .fedexCodes ∧
      f.status = statusOf (resultDerivedCode chosen) (resultExceptionCode chosen) := by
  obtain ⟨said, read, rfl⟩ := map_eq_ok_iff.1 found
  rw [statementOf_of_results some_] at read
  obtain ⟨chosen, picked, read⟩ := bind_eq_ok_iff.1 read
  obtain ⟨events, -, read⟩ := bind_eq_ok_iff.1 read
  cases read
  exact ⟨chosen, picked, rfl, rfl⟩

/-- A body with track results is reconciled by FedEx codes to the state of one of them. If there is
a delivery, the first one decides: the parcel is delivered unless that result has a known exception
code. Without a delivery the codes of the first result with the latest first event decide. The year
of an event date is the one thing that can fail. -/
theorem reconcile_by_one_result [Present] {body : Members} (some_ : trackResults body ≠ [])
    (logger : Text) (narrow : Bool) (standard : Text) (filter : Option Text) :
    FailsByYearOnly
      (Reconciler.reconcile { logger, narrow, defaultFilter := .str standard } .fedex
        (.json (.obj body)) (filter.elim .null .str)).outcome
      (ParcelStatus.dateValues .fedex (.obj body)) ∧
    ∀ x, (Reconciler.reconcile { logger, narrow, defaultFilter := .str standard } .fedex
        (.json (.obj body)) (filter.elim .null .str)).outcome = .ok x →
      x.source = .fedexCodes ∧
      ∃ before r after, trackResults body = before ++ r :: after ∧
        (FirstDelivery before r ∧
            x.status = (exceptionStatus? (firstText (exceptionSources r))).getD .entregado ∨
          (∀ q ∈ trackResults body, ¬IsDelivery q) ∧ LeadsFirst before r after ∧
            x.status =
              statusOf (firstText (derivedSources r)) (firstText (exceptionSources r))) := by
  constructor
  · rw [Reconciler.outcome_reconcile_text rfl]
    exact ((findingFor_restsOn .fedex (.obj body)).map _).failsByYearOnly
  · intro x returns
    rw [Reconciler.outcome_reconcile_text rfl, mapError_eq_ok_iff, map_eq_ok_iff] at returns
    obtain ⟨f, found, rfl⟩ := returns
    obtain ⟨chosen, picked, source, status⟩ := findingFor_of_results some_ found
    obtain ⟨before, after, split, first | ⟨open_, leads⟩⟩ := pick_cases some_ picked
    · refine ⟨source, before, chosen, after, split, .inl ⟨first, ?_⟩⟩
      show f.status = _
      rw [status, statusOf_delivery _ (resultDerivedCode_delivery first.delivery),
        resultExceptionCode_eq]
    · refine ⟨source, before, chosen, after, split, .inr ⟨open_, leads, ?_⟩⟩
      show f.status = _
      rw [status, resultDerivedCode_eq, resultExceptionCode_eq]

/-- A result on the way with the latest event, a delivery that was refused, and a delivery. -/
def competingResults : List Members :=
  let result (derived date : String) (exception : Json) : Members :=
    [("latestStatusDetail".toList, .obj [("derivedCode".toList, .str derived.toList)]),
     ("scanEvents".toList, .arr [.obj
       [("date".toList, .str date.toList), ("exceptionCode".toList, exception)]])]
  [result "IT" "2025-01-12" .null, result "dl" "2025-01-10" (.int 67), result "DL" "2025-01-11" .null]

attribute [local instance] Present.sample

/-- The exception code of the first delivery decides, not the newer result in front of it and not
the other delivery. -/
theorem reconcile_by_one_result_of_three :
    trackResults (trackBody competingResults) ≠ [] ∧
    ∃ x before r after,
      (({} : Reconciler).reconcile .fedex (.json (.obj (trackBody competingResults)))).outcome =
        .ok x ∧
      x.status = .enBodega ∧ competingResults = before ++ r :: after ∧ FirstDelivery before r := by
  have results : trackResults (trackBody competingResults) = competingResults :=
    trackResults_trackBody _
  have some_ : trackResults (trackBody competingResults) ≠ [] := by
    rw [results]
    exact List.cons_ne_nil _ _
  have status : (({} : Reconciler).reconcile .fedex
      (.json (.obj (trackBody competingResults)))).outcome.toOption.map (·.status) =
        some .enBodega := by
    decide +kernel
  obtain ⟨x, returns, known⟩ := toOption_map_eq_some_iff.1 status
  obtain ⟨-, before, r, after, split, ⟨first, -⟩ | ⟨open_, -⟩⟩ :=
    (reconcile_by_one_result some_ _ true [] none).2 x returns
  · rw [results] at split
    exact ⟨some_, x, before, r, after, returns, known, split, first⟩
  · rw [results] at open_
    exact absurd open_ (by decide +kernel)

end ParcelStatus.Fedex
