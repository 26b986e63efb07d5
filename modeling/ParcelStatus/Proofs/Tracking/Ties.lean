import ParcelStatus.Proofs.Dhl.Ingestion

/-!
# Events of the newest instant

The state of a DHL shipment is told by the newest event, and the history behind a filter begins with
the newest event. Both are found by sorting, but in opposite directions, so where several events are
of the newest instant the state is told by the first of them and the history begins with the last.

* `FirstNewest`, `LastNewest` — the two ends of the newest events of a trail;
* `newestEvent?_eq_first` — a sort with the newest event in front leaves the first one there;
* `HistoryFrom.head?_eq_last` — a history begins with the last one;
* `Payload.Steady` — payloads whose clocks agree, as those do that are sent or read off a report;
* `status_and_history_newest` — state and history agree exactly when these two events tell the
  same.
-/

namespace ParcelStatus

open Text Outcome

variable {events : List TrackingEvent}

/-- No event is later than the one at this place, and none as late stands before it. -/
structure FirstNewest (events : List TrackingEvent) (i : Fin events.length) : Prop where
  newest : ∀ j : Fin events.length, (events.get j).date.instant ≤ (events.get i).date.instant
  first : ∀ j : Fin events.length,
    (events.get j).date.instant = (events.get i).date.instant → i ≤ j

/-- No event is later than the one at this place, and none as late stands behind it. -/
structure LastNewest (events : List TrackingEvent) (i : Fin events.length) : Prop where
  newest : ∀ j : Fin events.length, (events.get j).date.instant ≤ (events.get i).date.instant
  last : ∀ j : Fin events.length,
    (events.get j).date.instant = (events.get i).date.instant → j ≤ i

theorem chronology_lt_iff_get {i j : Fin events.length} :
    chronology events i < chronology events j ↔
      (events.get i).date.instant < (events.get j).date.instant ∨
        (events.get i).date.instant = (events.get j).date.instant ∧ i < j :=
  chronology_lt_iff

theorem lastNewest_iff {i : Fin events.length} :
    LastNewest events i ↔ ∀ j : Fin events.length, chronology events j ≤ chronology events i := by
  constructor
  · intro h j
    rw [← not_lt, chronology_lt_iff_get]
    rintro (later | ⟨same, behind⟩)
    · exact absurd (h.newest j) (by omega)
    · exact absurd (h.last j same.symm) (by omega)
  · intro above
    have notAfter (j : Fin events.length) : ¬chronology events i < chronology events j :=
      not_lt.2 (above j)
    refine ⟨fun j => ?_, fun j same => ?_⟩
    · have unordered := notAfter j
      rw [chronology_lt_iff_get] at unordered
      omega
    · have unordered := notAfter j
      rw [chronology_lt_iff_get] at unordered
      omega

/-- The first and the last of the newest events are one when their instant occurs once. -/
theorem FirstNewest.eq_last {i j : Fin events.length} (first : FirstNewest events i)
    (last : LastNewest events j) (sole : SoleMaximum (events.map (·.date.instant))) :
    events.get i = events.get j := by
  have above {k : Fin events.length}
      (newest : ∀ l : Fin events.length,
        (events.get l).date.instant ≤ (events.get k).date.instant) :
      ∀ e ∈ events, e.date.instant ≤ (events.get k).date.instant := by
    intro e member
    obtain ⟨l, rfl⟩ := List.mem_iff_get.1 member
    exact newest l
  exact sole.eq (List.getElem_mem i.isLt) (List.getElem_mem j.isLt) (above first.newest)
    (above last.newest)

/-! ## The newest event -/

/-- The places of the events, newest first. -/
def placesNewestFirst (events : List TrackingEvent) : List (Fin events.length) :=
  (List.finRange events.length).mergeSort fun i j => leInstant (events.get j) (events.get i)

theorem sortEvents_newest_eq_map (agree : ClocksAgree events) :
    sortEvents events true = (placesNewestFirst events).map events.get := by
  have places : (List.finRange events.length).map events.get = events :=
    List.map_get_finRange events
  rw [sortEvents_eq agree, placesNewestFirst,
    List.map_mergeSort (s := fun a b => leInstant b a) (fun _ _ _ _ => rfl), places]
  rfl

theorem mem_placesNewestFirst (i : Fin events.length) : i ∈ placesNewestFirst events :=
  List.mem_mergeSort.2 (List.mem_finRange i)

/-- Of two events of one instant the first in the trail is in front. -/
theorem placesNewestFirst_stable (events : List TrackingEvent) :
    (placesNewestFirst events).Pairwise fun i j =>
      (events.get j).date.instant ≤ (events.get i).date.instant ∧
        ((events.get j).date.instant = (events.get i).date.instant → i < j) := by
  have stable := pairwise_mergeSort_stable
    (fun a b c hab hbc =>
      leInstant_trans (events.get c) (events.get b) (events.get a) hbc hab)
    (fun a b => leInstant_total (events.get b) (events.get a))
    (List.pairwise_lt_finRange events.length)
  refine stable.imp fun ordered => ?_
  simp only [leInstant, decide_eq_true_eq] at ordered
  exact ⟨ordered.1, fun same => ordered.2 same.ge⟩

/-- A sort with the newest event in front keeps events of one instant in the order of the trail. -/
theorem newestEvent?_eq_first (agree : ClocksAgree events) (some_ : events ≠ []) :
    ∃ i, FirstNewest events i ∧ newestEvent? events = some (events.get i) := by
  have stable := placesNewestFirst_stable events
  have all (j : Fin events.length) := mem_placesNewestFirst j
  rw [newestEvent?, sortEvents_newest_eq_map agree]
  cases places : placesNewestFirst events with
  | nil =>
    rw [places] at all
    exact absurd (all ⟨0, List.length_pos_of_ne_nil some_⟩) List.not_mem_nil
  | cons i rest =>
    rw [places] at stable all
    have behind := (List.pairwise_cons.1 stable).1
    refine ⟨i, ⟨fun j => ?_, fun j same => ?_⟩, rfl⟩
    · rcases List.mem_cons.1 (all j) with rfl | later
      · exact le_rfl
      · exact (behind j later).1
    · rcases List.mem_cons.1 (all j) with rfl | later
      · exact le_rfl
      · exact ((behind j later).2 same).le

/-! ## Histories -/

/-- A history begins with the last of the newest events, whatever event it goes back to. -/
theorem HistoryFrom.head?_eq_last {k : Fin events.length} {kept : List TrackingEvent}
    (h : HistoryFrom events k kept) :
    ∃ i, LastNewest events i ∧ kept.head? = some (events.get i) := by
  obtain ⟨places, newest, members, rfl⟩ := h
  cases places with
  | nil => exact absurd ((members k).2 le_rfl) List.not_mem_nil
  | cons i rest =>
    have before := (List.pairwise_cons.1 newest).1
    have since : chronology events k ≤ chronology events i :=
      (members i).1 List.mem_cons_self
    refine ⟨i, lastNewest_iff.2 fun j => ?_, rfl⟩
    -- An event that the history leaves out is older than the one it goes back to.
    rcases le_total (chronology events k) (chronology events j) with kept | older
    · rcases List.mem_cons.1 ((members j).2 kept) with rfl | inRest
      · exact le_rfl
      · exact (before j inRest).le
    · exact older.trans since

/-! ## State and history -/

theorem checkpointFinding_of_first {i : Fin events.length}
    (first : newestEvent? events = some (events.get i)) :
    checkpointFinding events = ⟨Dhl.statusOfCode (events.get i).eventType, .dhlEvents, events⟩ := by
  rw [checkpointFinding, first]

/-- A finding by checkpoint codes is that of its events. -/
theorem eq_checkpointFinding_of_source [Present] {payload : Payload} {f : Finding}
    (found : findingFor .dhl payload = .ok f) (ruled : f.source = .dhlEvents) :
    f = checkpointFinding f.events := by
  cases payload with
  | shipment s =>
    cases found
    rw [checkpointFinding_events]
  | json v =>
    rw [findingFor, dhlFinding_json] at found
    obtain ⟨events, -, rfl⟩ := map_eq_ok_iff.1 found
    rw [Dhl.finding_events]
    unfold Dhl.finding at ruled ⊢
    split at ruled
    · simp at ruled
    · rfl

/-- The clocks of the payload agree: it was sent, or it was read off a report, at whatever time, or
they agree as they are. -/
inductive Payload.Steady : Payload → Prop where
  | sent (v : Json) : Steady (.json v)
  | reported {present : Present} {report : Text} {shipments : List Dhl.Shipment} {s : Dhl.Shipment}
      (read : @Dhl.shipmentsOf present report = .ok shipments) (member : s ∈ shipments) :
      Steady (.shipment s)
  | agreeing {s : Dhl.Shipment} (agree : ClocksAgree s.events) : Steady (.shipment s)

theorem Payload.Steady.clocksAgree [Present] {payload : Payload} (steady : payload.Steady)
    {f : Finding} (found : findingFor .dhl payload = .ok f) : ClocksAgree f.events := by
  cases steady with
  | sent v => exact clocksAgree_of_extracted (extractedEvents_of_finding found)
  | @reported present _ _ _ read member =>
    cases found
    rw [checkpointFinding_events]
    exact @Dhl.clocksAgree_of_report present _ _ _ read member
  | agreeing agree =>
    cases found
    rw [checkpointFinding_events]
    exact agree

/-- Behind a filter that finds something, a payload that is judged by its checkpoints has the state
of the first newest event and a history that begins with the last newest event. They agree exactly
when the codes of these two tell one state, so always when one event alone is the newest. -/
theorem status_and_history_newest [Present] {payload : Payload} {f : Finding}
    (found : findingFor .dhl payload = .ok f) (ruled : f.source = .dhlEvents)
    (steady : payload.Steady) (r : Reconciler) {filter : Json} {t : Text}
    (asked : filterOf (r.filterFor filter) = .ok t) (notBlank : ∃ c ∈ t, isBlank c = false)
    (hit : ∃ e ∈ f.events, Mentions t e) :
    ∃ (x : Reconciled) (first last : Fin f.events.length),
      (r.reconcile .dhl payload filter).outcome = .ok x ∧ x.source = .dhlEvents ∧
      FirstNewest f.events first ∧ x.status = Dhl.statusOfCode (f.events.get first).eventType ∧
      LastNewest f.events last ∧ x.events.head? = some (f.events.get last) ∧
      ((∀ e ∈ x.events.head?, x.status = Dhl.statusOfCode e.eventType) ↔
        Dhl.statusOfCode (f.events.get first).eventType =
          Dhl.statusOfCode (f.events.get last).eventType) ∧
      (SoleMaximum (f.events.map (·.date.instant)) →
        ∀ e ∈ x.events.head?, x.status = Dhl.statusOfCode e.eventType) := by
  obtain ⟨m, member, mention⟩ := hit
  have some_ : f.events ≠ [] := List.ne_nil_of_mem member
  have clocks : ClocksAgree f.events := steady.clocksAgree found
  obtain ⟨first, isFirst, newest⟩ := newestEvent?_eq_first clocks some_
  have status : f.status = Dhl.statusOfCode (f.events.get first).eventType := by
    have whole := checkpointFinding_of_first newest
    rw [← eq_checkpointFinding_of_source found ruled] at whole
    exact congrArg Finding.status whole
  obtain ⟨last, isLast, head⟩ : ∃ i, LastNewest f.events i ∧
      (filterEvents t f.events).head? = some (f.events.get i) := by
    rw [filterEvents, if_neg (needleOf_ne_nil notBlank)]
    rcases trimEvents_history t clocks with ⟨-, misses⟩ | ⟨k, -, -, history⟩
    · obtain ⟨j, rfl⟩ := List.mem_iff_get.1 member
      exact absurd mention (misses j)
    · exact history.head?_eq_last
  have returns : (r.reconcile .dhl payload filter).outcome = .ok (r.resultOf .dhl f t) := by
    rw [Reconciler.outcome_reconcile, found, asked]
    rfl
  have shown : (r.resultOf .dhl f t).events.head? = some (f.events.get last) := head
  refine ⟨r.resultOf .dhl f t, first, last, returns, ruled, isFirst, status, isLast, shown, ?_, ?_⟩
  · rw [shown]
    simp only [Option.mem_some_iff, forall_eq']
    rw [show (r.resultOf .dhl f t).status = f.status from rfl, status]
  · intro sole e isHead
    rw [shown] at isHead
    obtain rfl := Option.some.inj isHead
    rw [← isFirst.eq_last isLast sole]
    exact status

/-! ## Ties -/

/-- Events of one instant stay as they are in both directions. -/
theorem sortEvents_of_one_instant (agree : ClocksAgree events) (instant : Int)
    (tied : ∀ e ∈ events, e.date.instant = instant) (newestFirst : Bool) :
    sortEvents events newestFirst = events := by
  rw [sortEvents_eq agree]
  refine List.mergeSort_of_pairwise (List.pairwise_of_forall_mem_list fun a ha b hb => ?_)
  exact inDirection_of_tie newestFirst ((tied a ha).trans (tied b hb).symm)

/-- The event of a checkpoint on the tenth of January in 2025. -/
def checkpointOn (code remark : String) : TrackingEvent :=
  { description := remark.toList
    date := { instant := 1736467200000000 }
    eventType := code.toList }

/-- Two checkpoints of one instant, as the carrier sends them. -/
def pairPayload (code remark code' remark' : String) : Json :=
  let sent (code remark : String) : Json :=
    .obj [("code".toList, .str code.toList), ("eventDateTime".toList, .str "2025-01-10".toList),
      ("remark".toList, .str remark.toList)]
  Dhl.eventsPayload [sent code remark, sent code' remark']

/-- The state of two checkpoints of one instant is that of the one in front. -/
theorem findingFor_pair [Present] {code remark code' remark' : String}
    (sent : Dhl.eventsOf (pairPayload code remark code' remark') =
      .ok [checkpointOn code remark, checkpointOn code' remark']) :
    findingFor .dhl (.json (pairPayload code remark code' remark')) =
      .ok ⟨Dhl.statusOfCode code.toList, .dhlEvents,
        [checkpointOn code remark, checkpointOn code' remark']⟩ := by
  have wordless : Dhl.words (pairPayload code remark code' remark') = none := rfl
  have tied : newestEvent? [checkpointOn code remark, checkpointOn code' remark'] =
      some (checkpointOn code remark) := by
    rw [newestEvent?, sortEvents_of_one_instant (clocksAgree_of_zoneless (by simp [checkpointOn]))
      1736467200000000 (by simp [checkpointOn])]
    rfl
  rw [findingFor, dhlFinding_json, sent, map_ok, Dhl.finding, wordless, checkpointFinding, tied]
  rfl

attribute [local instance] Present.sample

/-- A parcel that leaves the hub in the minute of its arrival: the events tie and tell one state. -/
theorem status_and_history_newest_of_moves :
    Mentions "hub".toList (checkpointOn "AR" "At hub") ∧
      ∃ x, (({} : Reconciler).reconcile .dhl (.json (pairPayload "AR" "At hub" "PL" "Left"))
          (.str "hub".toList)).outcome = .ok x ∧
        ∀ e ∈ x.events.head?, x.status = Dhl.statusOfCode e.eventType := by
  have mention : Mentions "hub".toList (checkpointOn "AR" "At hub") := .inl (by decide +kernel)
  have found : findingFor .dhl (.json (pairPayload "AR" "At hub" "PL" "Left")) = _ :=
    findingFor_pair (by decide +kernel)
  have asked : filterOf (({} : Reconciler).filterFor (.str "hub".toList)) = .ok "hub".toList := rfl
  obtain ⟨x, first, last, returns, -, -, -, -, -, agree, -⟩ :=
    status_and_history_newest found rfl (.sent _) {} asked ⟨'h', by decide, by decide⟩
      ⟨_, List.mem_cons_self, mention⟩
  refine ⟨mention, x, returns, agree.2 ?_⟩
  have oneState : ∀ i j : Fin 2,
      Dhl.statusOfCode [checkpointOn "AR" "At hub", checkpointOn "PL" "Left"][i].eventType =
        Dhl.statusOfCode [checkpointOn "AR" "At hub", checkpointOn "PL" "Left"][j].eventType := by
    decide +kernel
  exact oneState first last

/-- A parcel that is delivered in the minute of its arrival is on its way by its state, and
delivered by the event that its history begins with. -/
theorem status_against_history_at_tie :
    ∃ x e, (({} : Reconciler).reconcile .dhl (.json (pairPayload "AR" "At hub" "FD" "Delivered"))
        (.str "hub".toList)).outcome = .ok x ∧
      x.source = .dhlEvents ∧ x.events.head? = some e ∧
      x.status ≠ Dhl.statusOfCode e.eventType := by
  have found : findingFor .dhl (.json (pairPayload "AR" "At hub" "FD" "Delivered")) = _ :=
    findingFor_pair (by decide +kernel)
  have tied : sortEvents [checkpointOn "AR" "At hub", checkpointOn "FD" "Delivered"] false =
      [checkpointOn "AR" "At hub", checkpointOn "FD" "Delivered"] :=
    sortEvents_of_one_instant (clocksAgree_of_zoneless (by simp [checkpointOn]))
      1736467200000000 (by simp [checkpointOn]) false
  have returns : (({} : Reconciler).reconcile .dhl
      (.json (pairPayload "AR" "At hub" "FD" "Delivered")) (.str "hub".toList)).outcome =
        .ok (({} : Reconciler).resultOf .dhl ⟨Dhl.statusOfCode "AR".toList, .dhlEvents,
          [checkpointOn "AR" "At hub", checkpointOn "FD" "Delivered"]⟩ "hub".toList) := by
    rw [Reconciler.outcome_reconcile, found]
    rfl
  refine ⟨_, checkpointOn "FD" "Delivered", returns, rfl, ?_, ?_⟩
  · show (filterEvents "hub".toList _).head? = _
    rw [filterEvents, if_neg (by decide +kernel), trimEvents, tied]
    decide +kernel
  · show Dhl.statusOfCode "AR".toList ≠ Dhl.statusOfCode "FD".toList
    decide +kernel

end ParcelStatus
