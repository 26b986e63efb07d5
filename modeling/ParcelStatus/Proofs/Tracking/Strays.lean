import ParcelStatus.Proofs.Fedex.Statement
import ParcelStatus.Proofs.Json.Strays
import ParcelStatus.Tracking.Reconciliation

/-!
# Strays in payloads

Payloads hold lists of track results, of scan events and of DHL events. What is put into these lists
and is no object has no part in the outcome: the first event of a result is its first object, and a
body has track results when one of them is an object.

* `resultVaries`, `payloadVaries` — where a track result and a payload may get strays;
* `ReadAlike`, `statementOfResults_congr` — track results whose details and events are the same say
  the same;
* `statementOf_vary`, `dhlFinding_vary` — what either carrier's payload says;
* `reconcile_with_strays` — reconciling a payload, with all that it logs.
-/

namespace ParcelStatus

open Text Outcome Log Journal

/-! ## Places for strays -/

/-- Strays in the list of events of a track result. -/
def Fedex.resultVaries : Json.Variation := fun name v w =>
  name = "scanEvents".toList ∧ Json.ListVaries Json.fixed v w

/-- Strays in the list of track results, and in each of these. -/
def Fedex.completeVaries : Json.Variation := fun name v w =>
  name = "trackResults".toList ∧ Json.ListVaries resultVaries v w

/-- Strays among the track results of each complete result. -/
def Fedex.bodyVaries : Json.Variation := fun name v w =>
  name = "completeTrackResults".toList ∧
    ∃ vs ws, v = .arr vs ∧ w = .arr ws ∧ List.Forall₂ (Json.ObjectVaries completeVaries) vs ws

/-- Strays in any list of a payload that should hold objects: that of the track results of a body,
which may stand within `output`, that of scan events, and that of DHL events. -/
def payloadVaries : Json.Variation := fun name v w =>
  Fedex.bodyVaries name v w ∨
    name = "output".toList ∧ Json.ObjectVaries Fedex.bodyVaries v w ∨
    (name = "scanEvents".toList ∨ name = "events".toList) ∧ Json.ListVaries Json.fixed v w

namespace Fedex

/-! ## Track results -/

/-- Track results of which the same is read. -/
structure ReadAlike (result result' : Members) : Prop where
  detail : latestDetail result = latestDetail result'
  events : eventMembers result = eventMembers result'

theorem ReadAlike.refl (result : Members) : ReadAlike result result := ⟨rfl, rfl⟩

theorem ReadAlike.isDelivered_eq {result result' : Members} (alike : ReadAlike result result') :
    isDelivered result = isDelivered result' := by
  unfold isDelivered
  rw [alike.detail]

theorem ReadAlike.leadingDate_eq [Present] {result result' : Members}
    (alike : ReadAlike result result') : leadingDate result = leadingDate result' := by
  unfold leadingDate
  rw [alike.events]

theorem ReadAlike.orFirstEvent_eq {result result' : Members} (alike : ReadAlike result result')
    (t : Text) (key : String) : orFirstEvent t result key = orFirstEvent t result' key := by
  unfold orFirstEvent
  rw [alike.events]

theorem ReadAlike.resultDerivedCode_eq {result result' : Members}
    (alike : ReadAlike result result') : resultDerivedCode result = resultDerivedCode result' := by
  unfold resultDerivedCode
  rw [alike.detail, alike.orFirstEvent_eq]

theorem ReadAlike.resultExceptionCode_eq {result result' : Members}
    (alike : ReadAlike result result') :
    resultExceptionCode result = resultExceptionCode result' := by
  unfold resultExceptionCode
  rw [alike.detail, alike.orFirstEvent_eq]

section Results

variable {results results' : List Members} (alike : List.Forall₂ ReadAlike results results')

include alike

theorem findIdx?_isDelivered_congr :
    results.findIdx? isDelivered = results'.findIdx? isDelivered := by
  induction alike with
  | nil => rfl
  | cons first _ ih => rw [List.findIdx?_cons, List.findIdx?_cons, first.isDelivered_eq, ih]

theorem mapM_leadingDate_congr [Present] :
    results.mapM leadingDate = results'.mapM leadingDate := by
  induction alike with
  | nil => rfl
  | cons first _ ih => rw [List.mapM_cons, List.mapM_cons, first.leadingDate_eq, ih]

theorem pickIndex_congr [Present] : pickIndex results = pickIndex results' := by
  rw [pickIndex, pickIndex, findIdx?_isDelivered_congr alike, mapM_leadingDate_congr alike]

theorem readAlike_of_place (i : Option Nat) :
    ReadAlike ((i.bind (results[·]?)).getD []) ((i.bind (results'[·]?)).getD []) := by
  cases i with
  | none => exact .refl []
  | some i =>
    have stands := List.forall₂_iff_get.1 alike
    by_cases inside : i < results.length
    · have inside' : i < results'.length := by
        have := stands.1
        omega
      simpa [inside, inside'] using stands.2 i inside inside'
    · have outside : ¬i < results'.length := by
        have := stands.1
        omega
      simpa [inside, outside] using ReadAlike.refl []

theorem flatMap_eventMembers_congr :
    results.flatMap eventMembers = results'.flatMap eventMembers := by
  induction alike with
  | nil => rfl
  | cons first _ ih => rw [List.flatMap_cons, List.flatMap_cons, first.events, ih]

/-- The same place is chosen, and the same is read of the results that stand there. -/
theorem statementOfResults_congr [Present] :
    statementOfResults results = statementOfResults results' := by
  rw [statementOfResults_eq, statementOfResults_eq, flatMap_eventMembers_congr alike, pick, pick,
    pickIndex_congr alike]
  cases pickIndex results' with
  | error fault => rfl
  | ok i =>
    have chosen := readAlike_of_place alike i
    simp only [map_ok, Except.bind, chosen.resultDerivedCode_eq, chosen.resultExceptionCode_eq]

end Results

/-! ## Payloads with strays -/

theorem readAlike_of_vary {result result' : Members}
    (vary : Json.MembersVary resultVaries result result') : ReadAlike result result' := by
  constructor
  · unfold latestDetail
    rw [Json.get_of_fixed vary fun _ _ stray => absurd stray.1 (by decide)]
  · rcases Json.get_vary vary "scanEvents" with same | ⟨-, strays⟩
    · rw [eventMembers, eventMembers, same]
    · exact Json.objects_of_fixed strays

theorem membersOrNone_vary {Q : Json.Variation} {v w : Json} (vary : Json.ObjectVaries Q v w) :
    Json.MembersVary Q (membersOrNone v) (membersOrNone w) := by
  cases vary with
  | same => exact .refl _
  | members vary => exact vary

/-- The first complete result of an object whose list of these varies as that of a body does. -/
theorem firstComplete_vary {Q : Json.Variation} {ms ns : Members} (vary : Json.MembersVary Q ms ns)
    (body : ∀ v w, Q "completeTrackResults".toList v w →
      bodyVaries "completeTrackResults".toList v w) :
    Json.MembersVary completeVaries (firstMembers (Json.get ms "completeTrackResults"))
      (firstMembers (Json.get ns "completeTrackResults")) := by
  rcases Json.get_vary vary "completeTrackResults" with same | varies
  · rw [same]
    exact .refl _
  · obtain ⟨-, vs, ws, left, right, complete⟩ := body _ _ varies
    rw [left, right]
    cases complete with
    | nil => exact .refl _
    | @cons v w vs ws first _ =>
      cases first with
      | members vary => exact vary
      | same =>
        cases v with
        | obj complete => exact .refl complete
        | _ => exact .refl []

theorem completeResult_vary {ms ns : Members} (vary : Json.MembersVary payloadVaries ms ns) :
    Json.MembersVary completeVaries
      (firstMembers (Json.get (resultsBody ms) "completeTrackResults"))
      (firstMembers (Json.get (resultsBody ns) "completeTrackResults")) := by
  have within : ∀ v w, payloadVaries "completeTrackResults".toList v w →
      bodyVaries "completeTrackResults".toList v w := by
    rintro v w (body | ⟨output, -⟩ | ⟨events | events, -⟩)
    · exact body
    · exact absurd output (by decide)
    · exact absurd events (by decide)
    · exact absurd events (by decide)
  have wrapped : ∀ v w, payloadVaries "output".toList v w → Json.ObjectVaries bodyVaries v w := by
    rintro v w (⟨body, -⟩ | ⟨-, output⟩ | ⟨events | events, -⟩)
    · exact absurd body (by decide)
    · exact output
    · exact absurd events (by decide)
    · exact absurd events (by decide)
  -- The object with the list stands within `output`, or is the payload itself.
  unfold resultsBody
  rcases Json.lookup_vary vary "output".toList with same | ⟨v, w, left, right, varies⟩
  · rw [same]
    cases Json.lookup "output".toList ns with
    | some v => exact .refl _
    | none => exact firstComplete_vary vary within
  · rw [left, right]
    exact firstComplete_vary (membersOrNone_vary (wrapped v w varies)) fun _ _ => id

theorem trackResults_vary {ms ns : Members} (vary : Json.MembersVary payloadVaries ms ns) :
    List.Forall₂ ReadAlike (trackResults ms) (trackResults ns) := by
  rw [trackResults_eq, trackResults_eq]
  rcases Json.get_vary (completeResult_vary vary) "trackResults" with same | ⟨-, strays⟩
  · rw [same]
    exact List.forall₂_same.2 fun result _ => .refl result
  · exact (Json.objects_vary strays).imp fun _ _ => readAlike_of_vary

theorem eventMembers_vary {ms ns : Members} (vary : Json.MembersVary payloadVaries ms ns) :
    eventMembers ms = eventMembers ns := by
  unfold eventMembers
  rcases Json.get_vary vary "scanEvents" with same | ⟨body, -⟩ | ⟨output, -⟩ | ⟨-, strays⟩
  · rw [same]
  · exact absurd body (by decide)
  · exact absurd output (by decide)
  · exact Json.objects_of_fixed strays

end Fedex

/-- The names under which payloads may get strays. -/
def listNames : List Text :=
  ["completeTrackResults".toList, "output".toList, "scanEvents".toList, "events".toList]

theorem get_of_no_list {ms ns : List (Text × Json)} (vary : Json.MembersVary payloadVaries ms ns)
    {key : String} (other : key.toList ∉ listNames) : Json.get ms key = Json.get ns key := by
  refine Json.get_of_fixed vary ?_
  rintro v w (⟨name, -⟩ | ⟨name, -⟩ | ⟨name | name, -⟩) <;>
    exact other (by simp [listNames, name])

namespace Fedex

theorem statementOfFlat_vary [Present] {ms ns : Members}
    (vary : Json.MembersVary payloadVaries ms ns) : statementOfFlat ms = statementOfFlat ns := by
  unfold statementOfFlat
  rw [eventMembers_vary vary, get_of_no_list vary (by decide), get_of_no_list vary (by decide),
    get_of_no_list vary (by decide), get_of_no_list vary (by decide)]

theorem statementOf_vary [Present] {p q : Json} (vary : Json.ObjectVaries payloadVaries p q) :
    statementOf p = statementOf q := by
  cases vary with
  | same => rfl
  | @members ms ns vary =>
    have results := trackResults_vary vary
    cases found : trackResults ms with
    | nil =>
      rw [found, List.forall₂_nil_left_iff] at results
      rw [statementOf_of_no_results found, statementOf_of_no_results results,
        statementOfFlat_vary vary]
    | cons result rest =>
      have some_ : trackResults ms ≠ [] := by
        rw [found]
        exact List.cons_ne_nil _ _
      have some' : trackResults ns ≠ [] := by
        intro empty
        rw [empty, List.forall₂_nil_right_iff] at results
        exact some_ results
      rw [statementOf_of_results some_, statementOf_of_results some',
        statementOfResults_congr results]

end Fedex

/-! ## DHL payloads -/

theorem Dhl.eventsOf_vary [Present] {p q : Json} (vary : Json.ObjectVaries payloadVaries p q) :
    Dhl.eventsOf p = Dhl.eventsOf q := by
  cases vary with
  | same => rfl
  | @members ms ns vary =>
    have same : (Json.get ms "events").objects = (Json.get ns "events").objects := by
      rcases Json.get_vary vary "events" with same | ⟨body, -⟩ | ⟨output, -⟩ | ⟨-, strays⟩
      · rw [same]
      · exact absurd body (by decide)
      · exact absurd output (by decide)
      · exact Json.objects_of_fixed strays
    rw [Dhl.eventsOf, Dhl.eventsOf, same]

theorem dhlWords_vary {p q : Json} (vary : Json.ObjectVaries payloadVaries p q) :
    dhlWords p = dhlWords q := by
  cases vary with
  | same => rfl
  | members vary =>
    rw [dhlWords, dhlWords, get_of_no_list vary (by decide), get_of_no_list vary (by decide)]

theorem dhlFinding_vary [Present] {p q : Json} (vary : Json.ObjectVaries payloadVaries p q) :
    dhlFinding (.json p) = dhlFinding (.json q) := by
  have events := Dhl.eventsOf_vary vary
  have words := dhlWords_vary vary
  cases vary with
  | same => rfl
  | members vary => simp only [dhlFinding, events, words]

/-! ## Reconciliation -/

/-- Strays in the lists of a payload change nothing: not the result, not the fault if there is one,
and not what is logged. -/
theorem reconcile_with_strays [Present] {p q : Json} (strays : Json.ObjectVaries payloadVaries p q)
    (r : Reconciler) (carrier : Carrier) (filter : Json) :
    r.reconcile carrier (.json q) filter = r.reconcile carrier (.json p) filter := by
  have finding : findingOf carrier (.json q) = findingOf carrier (.json p) := by
    cases carrier with
    | fedex => simp only [findingOf, fedexFinding, Fedex.statementOf_vary strays]
    | dhl => simp only [findingOf, dhlFinding_vary strays]
  rw [Reconciler.reconcile, Reconciler.reconcile, finding]

/-- One value of each kind but the objects. -/
def oneOfEachKind : List Json :=
  [.null, .bool true, .int 7, .float .zero, .str "scan".toList, .arr [.obj []]]

/-- A list of one object behind strays. -/
def behind (strays : List Json) (ms : List (Text × Json)) : Json := .arr (strays ++ [.obj ms])

theorem listVaries_behind {Q : Json.Variation} {ms ns : List (Text × Json)}
    (vary : Json.MembersVary Q ms ns) :
    Json.ListVaries Q (behind [] ms) (behind oneOfEachKind ns) :=
  .strays (.behind oneOfEachKind (by decide) (.keep (.members vary) .nil))

/-- A delivery, with the members that both carriers read. -/
def deliveryMembers : List (Text × Json) :=
  [("date".toList, .str "2025-01-10".toList), ("derivedStatusCode".toList, .str "DL".toList),
    ("code".toList, .str "OK".toList)]

/-- A body whose only result has a delivery, either of them behind strays. -/
def Fedex.deliveredBody (strays : List Json) : Json :=
  .obj [("output".toList, .obj [("completeTrackResults".toList, .arr [.obj
    [("trackResults".toList,
      behind strays [("scanEvents".toList, behind strays deliveryMembers)])]])])]

/-- A delivery behind strays where flat FedEx payloads and DHL payloads have their events. -/
def deliveredFlat (strays : List Json) : Json :=
  .obj [("scanEvents".toList, behind strays deliveryMembers),
    ("events".toList, behind strays deliveryMembers)]

attribute [local instance] Present.sample

/-- Strays in front of the only result and of its only event, and in front of flat events. -/
theorem reconcile_delivery_with_strays :
    (({} : Reconciler).reconcile .fedex
        (.json (Fedex.deliveredBody oneOfEachKind))).outcome.toOption.map
      (fun result => (result.status, result.events.length)) = some (.entregado, 1) ∧
    ({} : Reconciler).reconcile .fedex (.json (Fedex.deliveredBody oneOfEachKind)) =
      ({} : Reconciler).reconcile .fedex (.json (Fedex.deliveredBody [])) ∧
    ∀ carrier, ({} : Reconciler).reconcile carrier (.json (deliveredFlat oneOfEachKind)) =
      ({} : Reconciler).reconcile carrier (.json (deliveredFlat [])) := by
  have body : Json.ObjectVaries payloadVaries (Fedex.deliveredBody [])
      (Fedex.deliveredBody oneOfEachKind) := by
    have events : Json.MembersVary Fedex.resultVaries
        [("scanEvents".toList, behind [] deliveryMembers)]
        [("scanEvents".toList, behind oneOfEachKind deliveryMembers)] :=
      .cons ⟨rfl, .inr ⟨rfl, listVaries_behind (.refl _)⟩⟩ .nil
    have results : Json.ObjectVaries Fedex.completeVaries
        (.obj [("trackResults".toList,
          behind [] [("scanEvents".toList, behind [] deliveryMembers)])])
        (.obj [("trackResults".toList,
          behind oneOfEachKind [("scanEvents".toList, behind oneOfEachKind deliveryMembers)])]) :=
      .members (.cons ⟨rfl, .inr ⟨rfl, listVaries_behind events⟩⟩ .nil)
    have complete : Fedex.bodyVaries "completeTrackResults".toList _ _ :=
      ⟨rfl, _, _, rfl, rfl, .cons results .nil⟩
    exact .members (.cons ⟨rfl, .inr (.inr (.inl ⟨rfl,
      .members (.cons ⟨rfl, .inr complete⟩ .nil)⟩))⟩ .nil)
  have flat : Json.ObjectVaries payloadVaries (deliveredFlat []) (deliveredFlat oneOfEachKind) := by
    have events : Json.ListVaries Json.fixed (behind [] deliveryMembers)
        (behind oneOfEachKind deliveryMembers) := listVaries_behind (.refl _)
    refine .members (.cons ⟨rfl, ?_⟩ (.cons ⟨rfl, ?_⟩ .nil))
    · exact .inr (.inr (.inr ⟨.inl rfl, events⟩))
    · exact .inr (.inr (.inr ⟨.inr rfl, events⟩))
  refine ⟨by decide +kernel, reconcile_with_strays body {} .fedex .null, fun carrier => ?_⟩
  exact reconcile_with_strays flat {} carrier .null

end ParcelStatus
