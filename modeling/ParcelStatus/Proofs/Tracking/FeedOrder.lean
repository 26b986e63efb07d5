import ParcelStatus.Proofs.Fedex.Choice
import ParcelStatus.Proofs.Fedex.Statement
import ParcelStatus.Proofs.Tracking.Chronology
import ParcelStatus.Proofs.Tracking.Dates
import ParcelStatus.Proofs.Tracking.Outcome

/-!
# The order in which feeds arrive

Track results and events reach the reconciler in any order. What it makes of them is the same
where the choice of the deciding result, or of the newest event, is not a matter of place.

* `Fedex.statementOfResults_perm`, `Fedex.statementOfFlat_perm` — a FedEx statement changes in the
  order of its events only;
* `checkpointFinding_perm` — so does the finding of DHL checkpoints;
* `clocksAgree_of_extracted` — the dates of a payload are on one clock;
* `ReconciledAlike` — the same verdict, over the same events;
* `reconcile_of_reordered` — reordered payloads are reconciled alike.
-/

namespace ParcelStatus

open Text Outcome Log Journal

/-! ## Reordered objects -/

namespace Json

theorem lookup_insertMember_self (key : Text) (value : Json) (members : List (Text × Json)) :
    lookup key (insertMember key value members) = some value := by
  induction members with
  | nil => simp [insertMember, lookup]
  | cons m ms ih =>
    obtain ⟨k, v⟩ := m
    by_cases same : k = key
    · simp [insertMember, lookup, same]
    · simp [insertMember, lookup, same, ih]

theorem lookup_insertMember_of_ne {key other : Text} (ne : key ≠ other) (value : Json)
    (members : List (Text × Json)) :
    lookup key (insertMember other value members) = lookup key members := by
  induction members with
  | nil => simp [insertMember, lookup, ne.symm]
  | cons m ms ih =>
    obtain ⟨k, v⟩ := m
    by_cases same : k = other
    · simp [insertMember, lookup, same, ne.symm]
    · simp only [insertMember, lookup, if_neg same, ih]

theorem objects_perm {items items' : List Json} (perm : items'.Perm items) :
    (arr items').objects.Perm (arr items).objects :=
  perm.filterMap _

end Json

/-! ## FedEx statements -/

namespace Fedex

/-- The statements are the same, up to the order of the events. -/
def Statement.Reordered (said said' : Statement) : Prop :=
  ∃ events, events.Perm said.events ∧ said' = { said with events }

theorem statementOfResults_perm [Present] {results results' : List Members}
    (perm : results'.Perm results) (decisive : Decisive results) {said : Statement}
    (returns : statementOfResults results = .ok said) :
    ∃ said', statementOfResults results' = .ok said' ∧ said.Reordered said' := by
  obtain ⟨chosen, choice, returns⟩ := bind_eq_ok_iff.1 returns
  obtain ⟨events, read, returns⟩ := bind_eq_ok_iff.1 returns
  cases returns
  have trails : (results'.flatMap eventMembers).Perm (results.flatMap eventMembers) :=
    perm.flatMap_right eventMembers
  obtain ⟨events', read', reordered⟩ := mapM_perm trails read
  refine ⟨_, ?_, events', reordered, rfl⟩
  rw [statementOfResults, pick_perm perm decisive, choice, ok_bind, read']
  rfl

/-- A body in which the list of events is another one. -/
def withScanEvents (body : Members) (items : List Json) : Members :=
  Json.insertMember "scanEvents".toList (.arr items) body

theorem get_withScanEvents {key : String} (ne : key.toList ≠ "scanEvents".toList) (body : Members)
    (items : List Json) : Json.get (withScanEvents body items) key = Json.get body key := by
  rw [Json.get, Json.get, withScanEvents, Json.lookup_insertMember_of_ne ne]

theorem eventMembers_withScanEvents (body : Members) (items : List Json) :
    eventMembers (withScanEvents body items) = (Json.arr items).objects := by
  rw [eventMembers, Json.get, withScanEvents, Json.lookup_insertMember_self]
  rfl

theorem trackResults_withScanEvents (body : Members) (items : List Json) :
    trackResults (withScanEvents body items) = trackResults body := by
  have output : Json.lookup "output".toList (withScanEvents body items) =
      Json.lookup "output".toList body :=
    Json.lookup_insertMember_of_ne (by decide) _ _
  rw [trackResults, trackResults, output]
  cases Json.lookup "output".toList body with
  | some v => rfl
  | none =>
    simp only [Option.getD_none]
    rw [get_withScanEvents (by decide)]

theorem statementOfFlat_perm [Present] {body : Members} {items items' : List Json}
    (perm : items'.Perm items) (list : Json.get body "scanEvents" = .arr items) {said : Statement}
    (returns : statementOfFlat body = .ok said) :
    ∃ said', statementOfFlat (withScanEvents body items') = .ok said' ∧ said.Reordered said' := by
  obtain ⟨events, read, returns⟩ := bind_eq_ok_iff.1 returns
  cases returns
  rw [eventMembers, list] at read
  obtain ⟨events', read', reordered⟩ := mapM_perm (Json.objects_perm perm) read
  refine ⟨_, ?_, events', reordered, rfl⟩
  rw [statementOfFlat, eventMembers_withScanEvents, read', ok_bind,
    get_withScanEvents (by decide), get_withScanEvents (by decide),
    get_withScanEvents (by decide), get_withScanEvents (by decide)]
  rfl

/-- The trail of a statement was read from the events of its body or of its track results. -/
theorem events_of_statementOf [Present] {payload : Json} {said : Statement}
    (read : statementOf payload = .ok said) :
    ∃ sent : List Members, sent.mapM TrackingEvent.ofMembers = .ok said.events := by
  unfold statementOf at read
  split at read
  · split at read
    · obtain ⟨events, received, same⟩ := bind_eq_ok_iff.1 read
      cases same
      exact ⟨_, received⟩
    · obtain ⟨chosen, -, read⟩ := bind_eq_ok_iff.1 read
      obtain ⟨events, received, same⟩ := bind_eq_ok_iff.1 read
      cases same
      exact ⟨_, received⟩
  · cases read
    exact ⟨[], rfl⟩

end Fedex

/-! ## Findings -/

/-- The findings are the same, up to the order of the events. -/
structure Finding.Reordered (f g : Finding) : Prop where
  status : g.status = f.status
  source : g.source = f.source
  events : g.events.Perm f.events

theorem Fedex.Statement.Reordered.finding {said said' : Fedex.Statement}
    (h : said.Reordered said') : said.finding.Reordered said'.finding := by
  obtain ⟨events, perm, rfl⟩ := h
  unfold Fedex.Statement.finding
  cases said.legacyWords with
  | some words => exact ⟨rfl, rfl, perm⟩
  | none => exact ⟨rfl, rfl, perm⟩

theorem checkpointFinding_perm {events events' : List TrackingEvent} (agree : ClocksAgree events)
    (perm : events'.Perm events) (sole : SoleMaximum (events.map (·.date.instant))) :
    (checkpointFinding events).Reordered (checkpointFinding events') := by
  have newest : newestEvent? events' = newestEvent? events := newestEvent?_perm agree perm sole
  unfold checkpointFinding
  rw [newest]
  cases newestEvent? events with
  | some e => exact ⟨rfl, rfl, perm⟩
  | none => exact ⟨rfl, rfl, perm⟩

/-- A DHL payload of events and nothing else. -/
def Dhl.eventsPayload (items : List Json) : Json := .obj [("events".toList, .arr items)]

theorem dhlFinding_eventsPayload [Present] (items : List Json) :
    dhlFinding (.json (Dhl.eventsPayload items)) =
      ((Json.arr items).objects.mapM Dhl.eventOfMembers).map checkpointFinding := by
  rw [dhlFinding_json]
  rfl

/-! ## Reconciled alike -/

/-- The events of a payload, before they are trimmed. -/
def extractedEvents [Present] : Carrier → Json → Except DateFault (List TrackingEvent)
  | .fedex, payload => (Fedex.statementOf payload).map (·.events)
  | .dhl, payload => Dhl.eventsOf payload

theorem extractedEvents_of_finding [Present] {carrier : Carrier} {payload : Json} {f : Finding}
    (found : findingFor carrier (.json payload) = .ok f) :
    extractedEvents carrier payload = .ok f.events := by
  cases carrier with
  | fedex =>
    obtain ⟨said, read, rfl⟩ := map_eq_ok_iff.1 found
    rw [extractedEvents, read, map_ok, Fedex.Statement.finding_events]
  | dhl =>
    rw [findingFor, dhlFinding_json] at found
    obtain ⟨events, read, rfl⟩ := map_eq_ok_iff.1 found
    rw [extractedEvents, read, Dhl.finding_events]

theorem isRead_of_ofMembers [Present] {members : List (Text × Json)} {e : TrackingEvent}
    (received : TrackingEvent.ofMembers members = .ok e) : e.date.IsRead := by
  obtain ⟨m, read, rfl⟩ := map_eq_ok_iff.1 received
  exact isRead_of_readDate read

theorem Dhl.isRead_of_eventOfMembers [Present] {members : List (Text × Json)} {e : TrackingEvent}
    (received : eventOfMembers members = .ok e) : e.date.IsRead := by
  obtain ⟨m, read, same⟩ := bind_eq_ok_iff.1 received
  cases same
  exact isRead_of_readDate read

theorem isRead_of_extracted [Present] {carrier : Carrier} {payload : Json}
    {events : List TrackingEvent}
    (extracted : extractedEvents carrier payload = .ok events) : ∀ e ∈ events, e.date.IsRead := by
  intro e member
  cases carrier with
  | fedex =>
    obtain ⟨said, read, rfl⟩ := map_eq_ok_iff.1 extracted
    obtain ⟨sent, received⟩ := Fedex.events_of_statementOf read
    obtain ⟨m, -, received⟩ := exists_of_mem_mapM received member
    exact isRead_of_ofMembers received
  | dhl =>
    simp only [extractedEvents] at extracted
    unfold Dhl.eventsOf at extracted
    split at extracted
    · obtain ⟨m, -, received⟩ := exists_of_mem_mapM extracted member
      exact Dhl.isRead_of_eventOfMembers received
    · cases extracted
      exact absurd member List.not_mem_nil

/-- The dates of a payload are all on the universal clock. -/
theorem clocksAgree_of_extracted [Present] {carrier : Carrier} {payload : Json}
    {events : List TrackingEvent}
    (extracted : extractedEvents carrier payload = .ok events) : ClocksAgree events :=
  clocksAgree_of_zoneless fun e member => (isRead_of_extracted extracted e member).zoneless

/-- The results tell of the same state, by the same rule. -/
structure SameVerdict (x y : Reconciled) : Prop where
  status : y.status = x.status
  persisted : y.persisted = x.persisted
  source : y.source = x.source
  needsReview : y.needsReview = x.needsReview

/-- When the payload is reconciled, so is the other one, with the same verdict and over the same
events in some order. Behind a phrase even the order of the trimmed trail is the same, if no two
events are of one instant. -/
def ReconciledAlike [Present] (r : Reconciler) (filter : Json) (carrier : Carrier)
    (payload other : Json) : Prop :=
  ∀ x, (r.reconcile carrier (.json payload) filter).outcome = .ok x →
    ∃ y events events', (r.reconcile carrier (.json other) filter).outcome = .ok y ∧
      SameVerdict x y ∧
      extractedEvents carrier payload = .ok events ∧
      extractedEvents carrier other = .ok events' ∧ events'.Perm events ∧
      (DistinctInstants events → ∀ t, filterOf (r.filterFor filter) = .ok t →
        (∃ c ∈ t, isBlank c = false) → y.events = x.events)

theorem reconciledAlike_of_findings [Present] {r : Reconciler} {filter : Json} {carrier : Carrier}
    {payload other : Json}
    (alike : ∀ f, findingFor carrier (.json payload) = .ok f →
      ∃ g, findingFor carrier (.json other) = .ok g ∧ f.Reordered g) :
    ReconciledAlike r filter carrier payload other := by
  intro x returns
  obtain ⟨f, text, found, filtered, rfl⟩ := Reconciler.outcome_reconcile_eq_ok_iff.1 returns
  obtain ⟨g, found', reordered⟩ := alike f found
  refine ⟨r.resultOf carrier g text, f.events, g.events, ?_, ?_, extractedEvents_of_finding found,
    extractedEvents_of_finding found', reordered.events, ?_⟩
  · exact Reconciler.outcome_reconcile_eq_ok_iff.2 ⟨g, text, found', filtered, rfl⟩
  · constructor <;> simp [Reconciler.resultOf, reordered.status, reordered.source]
  · intro distinct t asked notBlank
    rw [filtered] at asked
    cases asked
    have agree : ClocksAgree f.events :=
      clocksAgree_of_extracted (extractedEvents_of_finding found)
    exact filterEvents_perm notBlank agree reordered.events distinct

theorem fedex_reconciledAlike [Present] {r : Reconciler} {filter : Json} {payload other : Json}
    (alike : ∀ said, Fedex.statementOf payload = .ok said →
      ∃ said', Fedex.statementOf other = .ok said' ∧ said.Reordered said') :
    ReconciledAlike r filter .fedex payload other := by
  refine reconciledAlike_of_findings fun f found => ?_
  obtain ⟨said, read, rfl⟩ := map_eq_ok_iff.1 found
  obtain ⟨said', read', reordered⟩ := alike said read
  exact ⟨said'.finding, map_eq_ok_iff.2 ⟨said', read', rfl⟩, reordered.finding⟩

/-- Payloads are reconciled alike when they differ in the order of their track results and one of
those decides wherever it stands, in the order of their DHL events and one of those is the newest,
or in the order of the events of a body without track results. -/
theorem reconcile_of_reordered [Present] (r : Reconciler) (filter : Json) :
    (∀ body other : Fedex.Members,
      (Fedex.trackResults other).Perm (Fedex.trackResults body) →
      Fedex.Decisive (Fedex.trackResults body) →
      ReconciledAlike r filter .fedex (.obj body) (.obj other)) ∧
    (∀ (items items' : List Json) (events : List TrackingEvent), items'.Perm items →
      Dhl.eventsOf (Dhl.eventsPayload items) = .ok events →
      SoleMaximum (events.map (·.date.instant)) →
      ReconciledAlike r filter .dhl (Dhl.eventsPayload items) (Dhl.eventsPayload items')) ∧
    ∀ (body : Fedex.Members) (items items' : List Json), items'.Perm items →
      Fedex.trackResults body = [] → Json.get body "scanEvents" = .arr items →
      ReconciledAlike r filter .fedex (.obj body) (.obj (Fedex.withScanEvents body items')) := by
  refine ⟨?_, ?_, ?_⟩
  · intro body other perm decisive
    have nonempty : Fedex.trackResults body ≠ [] := decisive.ne_nil
    have nonempty' : Fedex.trackResults other ≠ [] := by
      intro empty
      rw [empty] at perm
      exact nonempty perm.nil_eq.symm
    refine fedex_reconciledAlike fun said read => ?_
    rw [Fedex.statementOf_of_results nonempty] at read
    rw [Fedex.statementOf_of_results nonempty']
    exact Fedex.statementOfResults_perm perm decisive read
  · intro items items' events perm read sole
    have agree : ClocksAgree events :=
      clocksAgree_of_extracted (show extractedEvents .dhl (Dhl.eventsPayload items) = _ from read)
    have read : (Json.arr items).objects.mapM Dhl.eventOfMembers = .ok events := read
    obtain ⟨events', read', reordered⟩ := mapM_perm (Json.objects_perm perm) read
    refine reconciledAlike_of_findings fun f found => ?_
    rw [findingFor, dhlFinding_eventsPayload, read] at found
    cases found
    refine ⟨checkpointFinding events', ?_, checkpointFinding_perm agree reordered sole⟩
    rw [findingFor, dhlFinding_eventsPayload, read']
    rfl
  · intro body items items' perm flat list
    have flat' : Fedex.trackResults (Fedex.withScanEvents body items') = [] := by
      rw [Fedex.trackResults_withScanEvents, flat]
    refine fedex_reconciledAlike fun said read => ?_
    rw [Fedex.statementOf_of_no_results flat] at read
    rw [Fedex.statementOf_of_no_results flat']
    exact Fedex.statementOfFlat_perm perm list read

/-- An event of the tenth of January in 2025, in a shape that both carriers share. -/
def eventAt (time words : String) : Json :=
  .obj [("date".toList, .str ("2025-01-10T".toList ++ time.toList)),
    ("eventDescription".toList, .str words.toList), ("remark".toList, .str words.toList)]

/-- Two events of one day, the earlier one in front. -/
def twoEvents : List Json := [eventAt "10:00" "At hub", eventAt "17:00" "Delivered"]

/-- A body with a result on the way and a delivered one. -/
def Fedex.twoResults : List Fedex.Members :=
  [[("scanEvents".toList, .arr twoEvents)],
   [("latestStatusDetail".toList, .obj [("derivedCode".toList, .str "dl".toList)])]]

attribute [local instance] Present.sample

/-- Two results and two events turned round. -/
theorem reconcile_of_reordered_pair :
    ((({} : Reconciler).reconcile .fedex (.json (.obj (Fedex.trackBody Fedex.twoResults)))
        (.str "hub".toList)).outcome.toOption.map (·.status)) = some .entregado ∧
    ReconciledAlike {} (.str "hub".toList) .fedex (.obj (Fedex.trackBody Fedex.twoResults))
      (.obj (Fedex.trackBody Fedex.twoResults.reverse)) ∧
    ReconciledAlike {} (.str "hub".toList) .dhl (Dhl.eventsPayload twoEvents)
      (Dhl.eventsPayload twoEvents.reverse) ∧
    ReconciledAlike {} (.str "hub".toList) .fedex (.obj [("scanEvents".toList, .arr twoEvents)])
      (.obj (Fedex.withScanEvents [("scanEvents".toList, .arr twoEvents)] twoEvents.reverse)) := by
  have turned : twoEvents.reverse.Perm twoEvents := List.reverse_perm twoEvents
  refine ⟨by decide +kernel, ?_, ?_, ?_⟩
  · refine (reconcile_of_reordered {} _).1 _ _ (List.reverse_perm Fedex.twoResults) (.inl ?_)
    decide +kernel
  · have instants : (Dhl.eventsOf (Dhl.eventsPayload twoEvents)).map (·.map (·.date.instant)) =
        .ok [1736503200000000, 1736528400000000] := by decide +kernel
    obtain ⟨events, read, known⟩ := map_eq_ok_iff.1 instants
    refine (reconcile_of_reordered {} _).2.1 _ _ events turned read ?_
    rw [known]
    exact ⟨1736528400000000, by decide, by decide⟩
  · exact (reconcile_of_reordered {} _).2.2 _ _ _ turned (by decide +kernel) rfl

end ParcelStatus
