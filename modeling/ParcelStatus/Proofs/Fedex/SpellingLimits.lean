import ParcelStatus.Proofs.Fedex.Spelling

/-!
# Spellings that show

Which changes in the spelling of a code no verdict shows. For each other change there is a payload
that shows it: a blank code keeps the next one from being asked where an empty one does not, and
blanks around the code of a delivery hide it from the choice among track results.

* `EmptinessShows` — payloads around a code that tell an empty one from a blank one;
* `ruling_deliveryProbe` — a payload that tells a delivery as it stands from every other code;
* `verdict_blind_iff` — no verdict shows a change if, and only if, both spellings are used alike;
* `verdict_shows_blanks` — a delivered parcel that is reported as pending.
-/

namespace ParcelStatus.Fedex

open Text Outcome Json

variable {R : Text → Text → Text → Prop}

theorem trackBody_alike {rs rs' : List Members} (alike : List.Forall₂ (MembersAlike R) rs rs') :
    Alike R (.obj (trackBody rs)) (.obj (trackBody rs')) := by
  have items : List.Forall₂ (Alike R) (rs.map obj) (rs'.map obj) := by
    rw [List.forall₂_map_left_iff, List.forall₂_map_right_iff]
    exact alike.imp fun _ _ members => .obj members
  exact .obj (.cons (.value (.arr (.cons (.obj (.cons (.value (.arr items)) .nil)) .nil))) .nil)

theorem findingFor_trackBody [Present] {rs : List Members} (nonempty : rs ≠ []) :
    findingFor .fedex (.json (.obj (trackBody rs))) =
      (statementOfResults rs).map (·.finding) := by
  have results : trackResults (trackBody rs) ≠ [] := by rwa [trackResults_trackBody]
  rw [findingFor, statementOf_of_results results, trackResults_trackBody]

/-! ## Empty codes -/

/-- The payloads around a code tell an empty one from a blank one. -/
def EmptinessShows [Present] (probe : Text → Json) : Prop :=
  ∃ vacant blank, vacant ≠ blank ∧ ∀ t, normalizeCode t = [] →
    ∃ f, findingFor .fedex (.json (probe t)) = .ok f ∧
      f.ruling = if t = [] then vacant else blank

theorem EmptinessShows.empty_iff [Present] {probe : Text → Json} (shows_ : EmptinessShows probe)
    {s t : Text} (spelled : SpelledAlike s t)
    (same : (({} : Reconciler).reconcile .fedex (.json (probe s))).outcome.map (·.verdict) =
      (({} : Reconciler).reconcile .fedex (.json (probe t))).outcome.map (·.verdict)) :
    s = [] ↔ t = [] := by
  have code : normalizeCode s = normalizeCode t := spelled.normalizeCode_eq
  have nothing : normalizeCode [] = [] := rfl
  by_cases some_ : s = [] ∨ t = []
  · -- One of them is empty, so both of them are blank and the payloads around them tell.
    have blank : normalizeCode s = [] ∧ normalizeCode t = [] := by
      rcases some_ with rfl | rfl
      · exact ⟨nothing, by rw [← code, nothing]⟩
      · exact ⟨by rw [code, nothing], nothing⟩
    obtain ⟨vacant, solid, ne, told⟩ := shows_
    obtain ⟨f, found, ruling⟩ := told s blank.1
    obtain ⟨g, found', ruling'⟩ := told t blank.2
    have rulings : f.ruling = g.ruling := Reconciler.ruling_of_outcome_verdict found found' same
    rw [ruling, ruling'] at rulings
    by_cases hs : s = [] <;> by_cases ht : t = [] <;> simp_all
  · rw [not_or] at some_
    exact iff_of_false some_.1 some_.2

theorem statusOf_of_blank {t : Text} (blank : normalizeCode t = []) :
    statusOf t [] = .desconocido := by
  rw [statusOf, derivedStatus?, blank]
  rfl

/-- A movement code beside plain words. -/
def wordsProbe (name : String) (t : Text) : Json :=
  .obj [(name.toList, .str t), ("status".toList, .str "Delivered".toList)]

theorem emptinessShows_wordsProbe [Present] {name : String}
    (movement : name = "derivedStatusCode" ∨ name = "derivedCode") :
    EmptinessShows (wordsProbe name) := by
  refine ⟨(.entregado, .fedexLegacy), (.desconocido, .fedexCodes), by decide, fun t blank => ?_⟩
  cases t with
  | nil =>
    rcases movement with rfl | rfl
    · exact ⟨⟨.entregado, .fedexLegacy, []⟩, rfl, rfl⟩
    · exact ⟨⟨.entregado, .fedexLegacy, []⟩, rfl, rfl⟩
  | cons c r =>
    refine ⟨⟨statusOf (c :: r) [], .fedexCodes, []⟩, ?_, ?_⟩
    · rcases movement with rfl | rfl
      · rfl
      · rfl
    · rw [statusOf_of_blank blank]
      rfl

/-- A code of a result before the code of its first event. -/
def codeResult (t : Text) : Members :=
  [("latestStatusDetail".toList, .obj [("code".toList, .str t)]),
   ("scanEvents".toList, .arr [.obj [("derivedStatusCode".toList, .str deliveryCode)]])]

/-- A reason of a result before the exception code of its first event. -/
def reasonResult (t : Text) : Members :=
  [("latestStatusDetail".toList,
    .obj [("ancillaryDetails".toList, .arr [.obj [("reason".toList, .str t)]])]),
   ("scanEvents".toList, .arr [.obj [("exceptionCode".toList, .str "07".toList)]])]

/-- A payload of one track result. -/
def resultProbe (result : Text → Members) (t : Text) : Json := .obj (trackBody [result t])

theorem findingFor_codeResult [Present] (t : Text) :
    findingFor .fedex (.json (resultProbe codeResult t)) =
      .ok ⟨statusOf (if t = [] then deliveryCode else t) [], .fedexCodes,
        [{ description := [], date := .epoch, derivedStatusCode := deliveryCode }]⟩ := by
  unfold resultProbe
  rw [findingFor_trackBody (List.cons_ne_nil _ _)]
  cases t <;> rfl

theorem findingFor_reasonResult [Present] (t : Text) :
    findingFor .fedex (.json (resultProbe reasonResult t)) =
      .ok ⟨statusOf [] (if t = [] then "07".toList else t), .fedexCodes,
        [{ description := [], date := .epoch, exceptionCode := "07".toList }]⟩ := by
  unfold resultProbe
  rw [findingFor_trackBody (List.cons_ne_nil _ _)]
  cases t <;> rfl

theorem emptinessShows_codeResult [Present] : EmptinessShows (resultProbe codeResult) := by
  refine ⟨(.entregado, .fedexCodes), (.desconocido, .fedexCodes), by decide, fun t blank => ?_⟩
  refine ⟨_, findingFor_codeResult t, ?_⟩
  by_cases empty : t = []
  · subst empty
    decide +kernel
  · simp [Finding.ruling, empty, statusOf_of_blank blank]

theorem emptinessShows_reasonResult [Present] : EmptinessShows (resultProbe reasonResult) := by
  refine ⟨(.rechazado, .fedexCodes), (.desconocido, .fedexCodes), by decide, fun t blank => ?_⟩
  refine ⟨_, findingFor_reasonResult t, ?_⟩
  by_cases empty : t = []
  · subst empty
    decide +kernel
  · have unknown : statusOf [] t = .desconocido := by
      rw [statusOf, exceptionStatus?, blank]
      rfl
    simp [Finding.ruling, empty, unknown]

/-! ## Deliveries -/

/-- A refused result with a code. -/
def refusedResult (t : Text) : Members :=
  [("latestStatusDetail".toList,
    .obj [("derivedCode".toList, .str t),
      ("ancillaryDetails".toList, .arr [.obj [("reason".toList, .str "07".toList)]])])]

/-- An event of the second of January in 2025. -/
def laterEvent : Members := [("date".toList, .int 1735776000000000000)]

/-- A result on the way with an event. -/
def laterResult : Members :=
  [("latestStatusDetail".toList, .obj [("derivedCode".toList, .str "IT".toList)]),
   ("scanEvents".toList, .arr [.obj laterEvent])]

/-- The refused result has no event, so it is chosen as a delivery only. -/
def deliveryProbe (t : Text) : Json := .obj (trackBody [refusedResult t, laterResult])

theorem isDelivered_refusedResult (t : Text) :
    isDelivered (refusedResult t) = decide (upper t = deliveryCode) := by
  show decide (upper (Json.str t).textOrBlank = deliveryCode) = _
  rw [textOrBlank_str]

theorem pick_deliveryProbe [Present] (t : Text) :
    pick [refusedResult t, laterResult] =
      .ok (if upper t = deliveryCode then refusedResult t else laterResult) := by
  have first := isDelivered_refusedResult t
  have second : isDelivered laterResult = false := by decide +kernel
  have undated : leadingDate (refusedResult t) = .ok .epoch := rfl
  have dated : leadingDate laterResult = .ok { instant := 1735776000000000 } := by rfl
  by_cases delivered : upper t = deliveryCode
  · simp [pick, pickIndex, List.findIdx?_cons, first, delivered]
  · simp [pick, pickIndex, List.findIdx?_cons, first, delivered, second, undated, dated,
      firstMaximum, Moment.epoch]

theorem events_deliveryProbe [Present] (t : Text) :
    ∃ events, ([refusedResult t, laterResult].flatMap eventMembers).mapM TrackingEvent.ofMembers =
      .ok events := by
  have trail : [refusedResult t, laterResult].flatMap eventMembers = [laterEvent] := rfl
  have read : TrackingEvent.ofMembers laterEvent =
      .ok { description := [], date := { instant := 1735776000000000 } } := by rfl
  rw [trail, List.mapM_cons, List.mapM_nil, read]
  exact ⟨_, rfl⟩

/-- The payload tells a delivery as it stands from every other code. -/
theorem ruling_deliveryProbe [Present] (t : Text) :
    ∃ f, findingFor .fedex (.json (deliveryProbe t)) = .ok f ∧
      f.ruling =
        (if upper t = deliveryCode then .rechazado else .pendiente, .fedexCodes) := by
  obtain ⟨events, read⟩ := events_deliveryProbe t
  unfold deliveryProbe
  rw [findingFor_trackBody (List.cons_ne_nil _ _), statementOfResults, pick_deliveryProbe, ok_bind,
    read]
  refine ⟨_, rfl, ?_⟩
  by_cases delivered : upper t = deliveryCode
  · have refused : exceptionStatus? (resultExceptionCode (refusedResult t)) = some .rechazado := by
      have reason : resultExceptionCode (refusedResult t) = "07".toList := rfl
      rw [reason]
      decide +kernel
    simp [Finding.ruling, Statement.finding, delivered, statusOf_of_exception refused]
  · have underway : statusOf (resultDerivedCode laterResult) (resultExceptionCode laterResult) =
        .pendiente := by decide +kernel
    simp [Finding.ruling, Statement.finding, delivered, underway]

theorem delivery_iff_of_probe [Present] {s t : Text}
    (same : (({} : Reconciler).reconcile .fedex (.json (deliveryProbe s))).outcome.map (·.verdict) =
      (({} : Reconciler).reconcile .fedex (.json (deliveryProbe t))).outcome.map (·.verdict)) :
    upper s = deliveryCode ↔ upper t = deliveryCode := by
  obtain ⟨f, found, ruling⟩ := ruling_deliveryProbe s
  obtain ⟨g, found', ruling'⟩ := ruling_deliveryProbe t
  have rulings : f.ruling = g.ruling := Reconciler.ruling_of_outcome_verdict found found' same
  rw [ruling, ruling'] at rulings
  by_cases hs : upper s = deliveryCode <;> by_cases ht : upper t = deliveryCode <;> simp_all

/-! ## What no verdict shows -/

/-- Payloads that are alike get the same verdict, or fail at the same date or filter, whatever the
reconciler. -/
def VerdictBlind [Present] (R : Text → Text → Text → Prop) : Prop :=
  ∀ (r : Reconciler) (filter p q : Json), Alike R p q →
    (r.reconcile .fedex (.json p) filter).outcome.map (·.verdict) =
      (r.reconcile .fedex (.json q) filter).outcome.map (·.verdict)

theorem usedAlike_of_blind [Present] (blind : VerdictBlind R) {k s t : Text} (differ : R k s t)
    (code : k ∈ codeNames) (spelled : SpelledAlike s t) : UsedAlike k s t := by
  have single {name : String} (given : name.toList = k) (rest : Members) :
      MembersAlike R ((name.toList, .str s) :: rest) ((name.toList, .str t) :: rest) := by
    subst given
    exact .cons (.text differ) (MembersAlike.refl rest)
  refine ⟨spelled, fun movement => ?_, ?_⟩
  · simp only [codeNames, List.mem_cons, List.not_mem_nil, or_false] at code
    rcases code with rfl | rfl | rfl | rfl | rfl
    · have alike : Alike R (wordsProbe "derivedCode" s) (wordsProbe "derivedCode" t) :=
        .obj (single rfl _)
      exact (emptinessShows_wordsProbe (.inr rfl)).empty_iff spelled (blind {} .null _ _ alike)
    · have result : MembersAlike R (codeResult s) (codeResult t) :=
        .cons (.value (.obj (single rfl _))) (MembersAlike.refl _)
      exact emptinessShows_codeResult.empty_iff spelled
        (blind {} .null _ _ (trackBody_alike (.cons result .nil)))
    · have alike : Alike R (wordsProbe "derivedStatusCode" s) (wordsProbe "derivedStatusCode" t) :=
        .obj (single rfl _)
      exact (emptinessShows_wordsProbe (.inl rfl)).empty_iff spelled (blind {} .null _ _ alike)
    · exact absurd rfl movement
    · have result : MembersAlike R (reasonResult s) (reasonResult t) :=
        .cons (.value (.obj (.cons (.value (.arr (.cons (.obj (single rfl _)) .nil))) .nil)))
          (MembersAlike.refl _)
      exact emptinessShows_reasonResult.empty_iff spelled
        (blind {} .null _ _ (trackBody_alike (.cons result .nil)))
  · intro derived
    have result : MembersAlike R (refusedResult s) (refusedResult t) :=
      .cons (.value (.obj (single derived.symm _))) .nil
    have later : MembersAlike R laterResult laterResult := MembersAlike.refl _
    exact delivery_iff_of_probe
      (blind {} .null _ _ (trackBody_alike (.cons result (.cons later .nil))))

/-- Of the changes in the case and in the margins of codes, no verdict shows those, and only those,
that leave empty codes empty, other codes not, and deliveries deliveries as they stand. -/
theorem verdict_blind_iff [Present]
    (spelling : ∀ k s t, R k s t → k ∈ codeNames ∧ SpelledAlike s t) :
    VerdictBlind R ↔ ∀ k s t, R k s t → UsedAlike k s t := by
  constructor
  · intro blind k s t differ
    obtain ⟨code, spelled⟩ := spelling k s t differ
    exact usedAlike_of_blind blind differ code spelled
  · intro used r filter p q alike
    have ruling := findingFor_alike (fun k s t differ => (spelling k s t differ).1) used alike
    exact Reconciler.outcome_verdict_congr ruling r filter

/-- Codes under one name that differ in the case of their ASCII letters. -/
def CaseOnly (k s t : Text) : Prop := k ∈ codeNames ∧ s.map Char.toLower = t.map Char.toLower

theorem CaseOnly.usedAlike {k s t : Text} (differ : CaseOnly k s t) : UsedAlike k s t where
  spelled := .of_map_toLower differ.2
  empty _ := by
    have lengths : s.length = t.length := by simpa using congrArg List.length differ.2
    rw [← List.length_eq_zero_iff, ← List.length_eq_zero_iff, lengths]
  delivery _ := by rw [← upper_map_toLower s, ← upper_map_toLower t, differ.2]

attribute [local instance] Present.sample

/-- No verdict shows the case of a code. -/
theorem verdict_blind_caseOnly :
    (∀ k s t, CaseOnly k s t → k ∈ codeNames ∧ SpelledAlike s t) ∧ VerdictBlind CaseOnly := by
  have spelling (k s t : Text) (differ : CaseOnly k s t) : k ∈ codeNames ∧ SpelledAlike s t :=
    ⟨differ.1, .of_map_toLower differ.2⟩
  exact ⟨spelling, (verdict_blind_iff spelling).2 fun _ _ _ differ => differ.usedAlike⟩

/-- Codes under one name that differ in case and in the blanks around them. -/
def Respelled (k s t : Text) : Prop := k ∈ codeNames ∧ SpelledAlike s t

/-- A result with a code and an event. -/
def datedResult (code day : String) : Members :=
  [("latestStatusDetail".toList, .obj [("derivedCode".toList, .str code.toList)]),
   ("scanEvents".toList, .arr [.obj [("date".toList, .str day.toList)]])]

/-- A delivery with its code in a spelling, and a later event of another result. -/
def deliveredParcel (code : String) : Json :=
  .obj (trackBody [datedResult code "2025-01-01", datedResult "IT" "2025-01-02"])

/-- A delivered parcel is reported as pending when there are blanks around its code. -/
theorem verdict_shows_blanks :
    Alike Respelled (deliveredParcel "DL") (deliveredParcel " DL ") ∧
    ((({} : Reconciler).reconcile .fedex (.json (deliveredParcel "DL"))).outcome.toOption.map
      (·.verdict)) = some ⟨.entregado, .entregado, .fedexCodes, false⟩ ∧
    ((({} : Reconciler).reconcile .fedex (.json (deliveredParcel " DL "))).outcome.toOption.map
      (·.verdict)) = some ⟨.pendiente, .pendiente, .fedexCodes, false⟩ := by
  have spelled : Respelled "derivedCode".toList "DL".toList " DL ".toList :=
    ⟨by decide, by decide +kernel⟩
  have result : MembersAlike Respelled (datedResult "DL" "2025-01-01")
      (datedResult " DL " "2025-01-01") :=
    .cons (.value (.obj (.cons (.text spelled) .nil))) (MembersAlike.refl _)
  have other : MembersAlike Respelled (datedResult "IT" "2025-01-02")
      (datedResult "IT" "2025-01-02") := MembersAlike.refl _
  refine ⟨trackBody_alike (.cons result (.cons other .nil)), ?_, ?_⟩
  · decide +kernel
  · decide +kernel

end ParcelStatus.Fedex
