import ParcelStatus.Proofs.Text.Phrase
import ParcelStatus.Proofs.Tracking.DateOrder
import Mathlib.Data.Prod.Lex
import Mathlib.Data.List.FinRange
import Mathlib.Data.List.Nodup

/-!
# The order of a trail in time

Sorting a trail by instants keeps events of one instant in the order of the trail, so the sorted
trail is the trail read at its places in the order of instant and place. A filter keeps the events
from its earliest match on, and "earliest" and "from on" are meant in that order, so events of one
instant have an order too. All of that rests on clocks that agree: where a zone's clock was set back
between two events, they are sorted by what it showed.

* `chronology` — the instant of an event and its place, in lexicographic order;
* `placesInOrder` — the places of a trail in that order;
* `sortEvents_eq_map` — the sorted trail;
* `sortEvents_perm` — without two events of one instant, the order of the trail does not matter;
* `sortEvents_map`, `filterEvents_map` — what sorting and filtering see of an event;
* `Mentions` — the phrase of a filter stands in one of the two descriptions of an event;
* `HistoryFrom` — the trail from one of its events on, the newest event first;
* `filterEvents_perm` — when the order of the trail does not matter to a filter;
* `KeepsHistory` — what a phrase should leave of a trail;
* `filterEvents_history` — what a filter leaves of a trail;
* `filterEvents_loses_later` — an event that is lost in an hour that the clock showed twice.
-/

namespace ParcelStatus

open Text

/-! ## Instant and place -/

/-- The instant of the event at a place of the trail, and the place. -/
def chronology (events : List TrackingEvent) (i : Fin events.length) : Int ×ₗ Nat :=
  toLex (events[i].date.instant, i.val)

theorem chronology_lt_iff {events : List TrackingEvent} {i j : Fin events.length} :
    chronology events i < chronology events j ↔
      events[i].date.instant < events[j].date.instant ∨
        events[i].date.instant = events[j].date.instant ∧ i < j :=
  Prod.Lex.toLex_lt_toLex

/-- The places of the trail in the order of time. -/
def placesInOrder (events : List TrackingEvent) : List (Fin events.length) :=
  (List.finRange events.length).mergeSort fun i j => leInstant events[i] events[j]

theorem mem_placesInOrder (events : List TrackingEvent) (i : Fin events.length) :
    i ∈ placesInOrder events := by
  simp [placesInOrder]

theorem pairwise_placesInOrder (events : List TrackingEvent) :
    (placesInOrder events).Pairwise fun i j => chronology events i < chronology events j := by
  have stable := pairwise_mergeSort_stable
    (fun a b c => leInstant_trans events[a] events[b] events[c])
    (fun a b => leInstant_total events[a] events[b]) (List.pairwise_lt_finRange events.length)
  refine stable.imp ?_
  rintro i j ⟨le, later⟩
  rw [chronology_lt_iff]
  simp only [leInstant, decide_eq_true_eq] at le later
  rcases lt_or_eq_of_le le with lt | same
  · exact .inl lt
  · exact .inr ⟨same, later same.ge⟩

theorem sortEvents_eq_map {events : List TrackingEvent} (agree : ClocksAgree events) :
    sortEvents events false = (placesInOrder events).map fun i => events[i] := by
  have places : (List.finRange events.length).map (fun i => events[i]) = events :=
    List.map_get_finRange events
  rw [sortEvents_eq agree, placesInOrder,
    List.map_mergeSort (s := leInstant) (fun _ _ _ _ => rfl), places]
  rfl

/-! ## Trails in another order -/

/-- No two events are of one instant. -/
def DistinctInstants (events : List TrackingEvent) : Prop :=
  (events.map fun e => e.date.instant).Nodup

theorem pairwise_sortEvents {events : List TrackingEvent} (agree : ClocksAgree events) :
    (sortEvents events false).Pairwise fun a b => leInstant a b :=
  (stablyOrdered_sortEvents agree false).ordered

theorem sortEvents_perm {events events' : List TrackingEvent} (agree : ClocksAgree events)
    (perm : events'.Perm events) (distinct : DistinctInstants events) :
    sortEvents events' false = sortEvents events false := by
  have agree' : ClocksAgree events' := agree.subset perm.subset
  refine List.Perm.eq_of_pairwise ?_ (pairwise_sortEvents agree') (pairwise_sortEvents agree)
    ((perm_sortEvents events' false).trans (perm.trans (perm_sortEvents events false).symm))
  -- Two events that are in order both ways are of one instant, so they are one event.
  intro a b ha hb hab hba
  have inTrail : a ∈ events := perm.mem_iff.1 ((perm_sortEvents events' false).mem_iff.1 ha)
  have inTrail' : b ∈ events := (perm_sortEvents events false).mem_iff.1 hb
  have same : a.date.instant = b.date.instant := by
    simp only [leInstant, decide_eq_true_eq] at hab hba
    omega
  exact List.inj_on_of_nodup_map distinct inTrail inTrail' same

theorem sortEvents_map {f : TrackingEvent → TrackingEvent} (dates : ∀ e, (f e).date = e.date)
    (events : List TrackingEvent) (newestFirst : Bool) :
    sortEvents (events.map f) newestFirst = (sortEvents events newestFirst).map f := by
  have oldest (l : List TrackingEvent) : sortOldestFirst (l.map f) = (sortOldestFirst l).map f := by
    symm
    apply List.map_mergeSort
    intro a _ b _
    simp only [dates]
  cases newestFirst with
  | true =>
    show (sortOldestFirst (events.map f).reverse).reverse = _
    rw [← List.map_reverse, oldest, ← List.map_reverse]
    rfl
  | false => exact oldest events

theorem sortEvents_subset (events : List TrackingEvent) (newestFirst : Bool) :
    sortEvents events newestFirst ⊆ events :=
  (perm_sortEvents events newestFirst).subset

/-! ## Filters -/

theorem needleOf_eq_nil_iff {filter : Text} :
    needleOf filter = [] ↔ ∀ c ∈ filter, isBlank c = true := by
  rw [needleOf, fold_eq_nil_iff, trim_eq_nil_iff]

theorem needleOf_ne_nil {filter : Text} (notBlank : ∃ c ∈ filter, isBlank c = false) :
    needleOf filter ≠ [] := by
  obtain ⟨c, member, notBlank⟩ := notBlank
  intro empty
  rw [needleOf_eq_nil_iff.1 empty c member] at notBlank
  exact absurd notBlank (by simp)

/-- The phrase of the filter stands in a description of the event, in whatever case. -/
def Mentions (filter : Text) (e : TrackingEvent) : Prop :=
  fold (trim filter) <:+: fold e.description ∨
    fold (trim filter) <:+: fold e.exceptionDescription

theorem mentions_iff {filter : Text} {e : TrackingEvent} :
    e.mentions (needleOf filter) = true ↔ Mentions filter e := by
  simp only [TrackingEvent.mentions, Bool.or_eq_true, occursIn_iff_infix, needleOf, Mentions]

/-! ## Cutting a sorted list -/

/-- A list in strict order, cut at the first item of a kind, keeps the items from the least of
that kind on. -/
theorem dropWhile_of_pairwise_lt {α κ : Type} [LinearOrder κ] {key : α → κ} {l : List α}
    (sorted : l.Pairwise fun i j => key i < key j) (p : α → Bool) :
    (l.dropWhile (fun i => !p i) = [] ∧ ∀ j ∈ l, p j = false) ∨
      ∃ k ∈ l, p k = true ∧ (∀ j ∈ l, p j = true → key k ≤ key j) ∧
        ∀ j, j ∈ l.dropWhile (fun i => !p i) ↔ j ∈ l ∧ key k ≤ key j := by
  induction l with
  | nil => exact .inl ⟨rfl, by simp⟩
  | cons a l ih =>
    obtain ⟨after, tail⟩ := List.pairwise_cons.1 sorted
    cases hit : p a with
    | true =>
      have first (j : α) (member : j ∈ a :: l) : key a ≤ key j := by
        rcases List.mem_cons.1 member with rfl | member
        · exact le_rfl
        · exact (after j member).le
      refine .inr ⟨a, List.mem_cons_self, hit, fun j member _ => first j member, fun j => ?_⟩
      rw [List.dropWhile_cons_of_neg (by simp [hit])]
      exact ⟨fun member => ⟨member, first j member⟩, fun h => h.1⟩
    | false =>
      rw [List.dropWhile_cons_of_pos (by simp [hit])]
      rcases ih tail with ⟨none, misses⟩ | ⟨k, member, hits, least, kept⟩
      · exact .inl ⟨none, List.forall_mem_cons.2 ⟨hit, misses⟩⟩
      · refine .inr ⟨k, List.mem_cons_of_mem a member, hits, ?_, fun j => ?_⟩
        · intro j hj hjp
          rcases List.mem_cons.1 hj with rfl | hj
          · simp [hit] at hjp
          · exact least j hj hjp
        · -- The item in front comes before the least match, so it is none of those kept.
          rw [kept, List.mem_cons]
          constructor
          · rintro ⟨hj, le⟩
            exact ⟨.inr hj, le⟩
          · rintro ⟨rfl | hj, le⟩
            · exact absurd le (not_le_of_gt (after k member))
            · exact ⟨hj, le⟩

/-! ## Histories -/

/-- The trail from the event at `k` on: every event that does not come before it, once, the newest
first. -/
def HistoryFrom (events : List TrackingEvent) (k : Fin events.length)
    (kept : List TrackingEvent) : Prop :=
  ∃ places : List (Fin events.length),
    places.Pairwise (fun i j => chronology events j < chronology events i) ∧
    (∀ j, j ∈ places ↔ chronology events k ≤ chronology events j) ∧
    kept = places.map fun j => events[j]

/-- A history ends with the event that it goes back to. -/
theorem HistoryFrom.getLast? {events kept : List TrackingEvent} {k : Fin events.length}
    (h : HistoryFrom events k kept) : kept.getLast? = some events[k] := by
  obtain ⟨places, newest, members, rfl⟩ := h
  have hk : k ∈ places := (members k).2 le_rfl
  rcases List.eq_nil_or_concat places with rfl | ⟨front, last, rfl⟩
  · simp at hk
  · rw [List.concat_eq_append] at *
    rw [List.pairwise_append] at newest
    have atEnd : chronology events k ≤ chronology events last := (members last).1 (by simp)
    rcases List.mem_append.1 hk with inFront | isLast
    · have later := newest.2.2 k inFront last (by simp)
      exact absurd atEnd (not_le_of_gt later)
    · simp [List.mem_singleton.1 isLast]

theorem trimEvents_eq_map (filter : Text) {events : List TrackingEvent}
    (agree : ClocksAgree events) :
    trimEvents (needleOf filter) events =
      ((placesInOrder events).dropWhile fun i =>
        !(events[i].mentions (needleOf filter))).reverse.map fun i => events[i] := by
  rw [trimEvents, sortEvents_eq_map agree, List.dropWhile_map, List.map_reverse]
  rfl

/-- A phrase cuts the trail to nothing if no event mentions it, and otherwise back to the earliest
event that does. -/
theorem trimEvents_history (filter : Text) {events : List TrackingEvent}
    (agree : ClocksAgree events) :
    (trimEvents (needleOf filter) events = [] ∧
        ∀ j : Fin events.length, ¬Mentions filter events[j]) ∨
      ∃ k : Fin events.length, Mentions filter events[k] ∧
        (∀ j : Fin events.length, Mentions filter events[j] →
          chronology events k ≤ chronology events j) ∧
        HistoryFrom events k (trimEvents (needleOf filter) events) := by
  have sorted := pairwise_placesInOrder events
  rw [trimEvents_eq_map filter agree]
  rcases dropWhile_of_pairwise_lt sorted fun i => events[i].mentions (needleOf filter) with
    ⟨none, misses⟩ | ⟨k, -, hit, least, kept⟩
  · refine .inl ⟨by rw [none]; rfl, fun j mention => ?_⟩
    have miss := misses j (mem_placesInOrder events j)
    rw [mentions_iff.2 mention] at miss
    exact absurd miss (by simp)
  · refine .inr ⟨k, mentions_iff.1 hit, fun j mention => ?_, _, ?_, fun j => ?_, rfl⟩
    · exact least j (mem_placesInOrder events j) (mentions_iff.2 mention)
    · rw [List.pairwise_reverse]
      exact sorted.sublist (List.dropWhile_sublist _)
    · rw [List.mem_reverse, kept]
      exact and_iff_right (mem_placesInOrder events j)

/-- Behind a phrase only the events count and not their order, if no two are of one instant. -/
theorem filterEvents_perm {filter : Text} (notBlank : ∃ c ∈ filter, isBlank c = false)
    {events events' : List TrackingEvent} (agree : ClocksAgree events)
    (perm : events'.Perm events) (distinct : DistinctInstants events) :
    filterEvents filter events' = filterEvents filter events := by
  have needle : needleOf filter ≠ [] := needleOf_ne_nil notBlank
  rw [filterEvents, filterEvents, if_neg needle, if_neg needle, trimEvents, trimEvents,
    sortEvents_perm agree perm distinct]

/-- A filter sees the dates and the descriptions of events and nothing else. -/
theorem filterEvents_map {f : TrackingEvent → TrackingEvent} (dates : ∀ e, (f e).date = e.date)
    (words : ∀ needle e, (f e).mentions needle = e.mentions needle) (filter : Text)
    (events : List TrackingEvent) :
    filterEvents filter (events.map f) = (filterEvents filter events).map f := by
  unfold filterEvents
  split
  · rfl
  · have unseen : (fun e : TrackingEvent => !e.mentions (needleOf filter)) ∘ f =
        fun e => !e.mentions (needleOf filter) := by
      funext e
      show (!(f e).mentions (needleOf filter)) = _
      rw [words]
    rw [trimEvents, trimEvents, sortEvents_map dates, List.dropWhile_map, unseen,
      List.map_reverse]

theorem filterEvents_subset (filter : Text) (events : List TrackingEvent) :
    filterEvents filter events ⊆ events := by
  intro e member
  unfold filterEvents at member
  split at member
  · exact member
  · rw [trimEvents, List.mem_reverse] at member
    exact sortEvents_subset events false ((List.dropWhile_suffix _).mem member)

/-! ## What a filter leaves -/

/-- What a phrase should leave of a trail: nothing if no event mentions it, and otherwise the trail
from the earliest event on that does. -/
def KeepsHistory (phrase : Text) (events kept : List TrackingEvent) : Prop :=
  (kept = [] ∧ ∀ j : Fin events.length, ¬Mentions phrase events[j]) ∨
    ∃ k : Fin events.length, Mentions phrase events[k] ∧
      (∀ j : Fin events.length, Mentions phrase events[j] →
        chronology events k ≤ chronology events j) ∧
      HistoryFrom events k kept ∧ kept.getLast? = some events[k]

theorem filterEvents_keepsHistory {phrase : Text} (notBlank : ∃ c ∈ phrase, isBlank c = false)
    {events : List TrackingEvent} (agree : ClocksAgree events) :
    KeepsHistory phrase events (filterEvents phrase events) := by
  rw [filterEvents, if_neg (needleOf_ne_nil notBlank)]
  rcases trimEvents_history phrase agree with nothing | ⟨k, hit, least, history⟩
  · exact .inl nothing
  · exact .inr ⟨k, hit, least, history, history.getLast?⟩

/-- Whatever the clocks, a phrase leaves nothing exactly when no event mentions it. -/
theorem filterEvents_eq_nil_iff {phrase : Text} (notBlank : ∃ c ∈ phrase, isBlank c = false)
    (events : List TrackingEvent) :
    filterEvents phrase events = [] ↔ ∀ e ∈ events, ¬Mentions phrase e := by
  rw [filterEvents, if_neg (needleOf_ne_nil notBlank), trimEvents, List.reverse_eq_nil_iff,
    List.dropWhile_eq_nil_iff]
  simp only [Bool.not_eq_true', ← Bool.not_eq_true, mentions_iff,
    (perm_sortEvents events false).mem_iff]

/-- A trail of two events that a phrase mentions stands behind it with the later one in front. -/
theorem filterEvents_pair {phrase : Text} (notBlank : ∃ c ∈ phrase, isBlank c = false)
    {a b : TrackingEvent} (ha : Mentions phrase a) (hb : Mentions phrase b) :
    filterEvents phrase [a, b] = if b.date.isBefore a.date then [a, b] else [b, a] := by
  rw [filterEvents, if_neg (needleOf_ne_nil notBlank), trimEvents, sortEvents,
    if_neg Bool.false_ne_true, sortOldestFirst_pair]
  split
  · rw [List.dropWhile_cons_of_neg (by simp [mentions_iff.2 hb])]
    rfl
  · rw [List.dropWhile_cons_of_neg (by simp [mentions_iff.2 ha])]
    rfl

/-- A stop at a depot, of two kinds that are told apart by what they say. -/
def depotScan (again : Bool) (date : Moment) : TrackingEvent :=
  { description := if again then "Depot again".toList else "At depot".toList, date }

theorem mentions_depotScan (again : Bool) (date : Moment) :
    Mentions "depot".toList (depotScan again date) := by
  have words : fold (trim "depot".toList) <:+:
      fold (if again then "Depot again".toList else "At depot".toList) := by
    cases again <;> decide +kernel
  exact .inl words

theorem depotScan_ne (date other : Moment) : depotScan false date ≠ depotScan true other := by
  intro same
  have words : "At depot".toList = "Depot again".toList :=
    congrArg TrackingEvent.description same
  exact absurd words (by decide)

/-- A phrase cuts every trail with these dates back to its earliest match only if their clocks
agree. -/
theorem clocksAgree_of_keepsHistory {events : List TrackingEvent}
    (keeps : ∀ feed : List TrackingEvent, (∀ e ∈ feed, e.date ∈ events.map (·.date)) →
      ∀ phrase : Text, (∃ c ∈ phrase, isBlank c = false) →
        KeepsHistory phrase feed (filterEvents phrase feed)) : ClocksAgree events := by
  intro e he e' he'
  -- A trail of these two dates, in which the phrase finds both events.
  have notBlank : ∃ c ∈ "depot".toList, isBlank c = false := ⟨'d', by decide, by decide⟩
  have mentioned (again : Bool) (date : Moment) := mentions_depotScan again date
  have kept := keeps [depotScan false e'.date, depotScan true e.date] (by
    simp only [List.mem_cons, List.not_mem_nil, or_false, forall_eq_or_imp, forall_eq]
    exact ⟨List.mem_map.2 ⟨e', he', rfl⟩, List.mem_map.2 ⟨e, he, rfl⟩⟩) _ notBlank
  rw [filterEvents_pair notBlank (mentioned _ _) (mentioned _ _)] at kept
  rcases kept with ⟨-, misses⟩ | ⟨k, -, least, -, last⟩
  · exact absurd (mentioned false e'.date) (misses ⟨0, Nat.zero_lt_two⟩)
  have front := not_lt.2 (least ⟨0, Nat.zero_lt_two⟩ (mentioned false e'.date))
  have back := not_lt.2 (least ⟨1, Nat.one_lt_two⟩ (mentioned true e.date))
  rw [chronology_lt_iff] at front back
  change List.getLast? (if e.date.isBefore e'.date = true then _ else _) = _ at last
  rcases k with ⟨_ | _ | k, bound⟩
  · refine iff_of_false (fun before => ?_) fun earlier => back (.inl earlier)
    rw [if_pos before] at last
    exact depotScan_ne _ _ (Option.some.inj last).symm
  · have earlier : e.date.instant < e'.date.instant := by
      rw [not_or, not_and] at front
      exact lt_of_le_of_ne (not_lt.1 front.1) fun same => front.2 same.symm Nat.zero_lt_one
    refine iff_of_true ?_ earlier
    by_contra notBefore
    rw [if_neg notBefore] at last
    exact depotScan_ne _ _ (Option.some.inj last)
  · exact absurd bound (by simp)

/-- A blank filter, or none, leaves a trail as it is. Any other leaves nothing exactly when no event
mentions its phrase, and where the clocks of the trail agree it leaves the trail from the earliest
match on. Of all trails with these dates that holds only if their clocks agree. -/
theorem filterEvents_history (events : List TrackingEvent) :
    (∀ filter : Option Text,
      ∃ kept, (filterOf (filter.elim .null .str)).map (filterEvents · events) = .ok kept ∧
        ((∀ t ∈ filter, ∀ c ∈ t, isBlank c = true) → kept = events) ∧
        ∀ t ∈ filter, (∃ c ∈ t, isBlank c = false) →
          (kept = [] ↔ ∀ e ∈ events, ¬Mentions t e) ∧
          (ClocksAgree events → KeepsHistory t events kept)) ∧
    ((∀ feed : List TrackingEvent, (∀ e ∈ feed, e.date ∈ events.map (·.date)) →
        ∀ phrase : Text, (∃ c ∈ phrase, isBlank c = false) →
          KeepsHistory phrase feed (filterEvents phrase feed)) ↔ ClocksAgree events) := by
  refine ⟨fun filter => ?_, clocksAgree_of_keepsHistory, fun agree feed dated phrase notBlank => ?_⟩
  · cases filter with
    | none => exact ⟨events, rfl, fun _ => rfl, by simp⟩
    | some t =>
      refine ⟨filterEvents t events, rfl, ?_, ?_⟩
      · intro blank
        rw [filterEvents, if_pos (needleOf_eq_nil_iff.2 (blank t rfl))]
      · rintro t' ⟨⟩ notBlank
        exact ⟨filterEvents_eq_nil_iff notBlank events, filterEvents_keepsHistory notBlank⟩
  · exact filterEvents_keepsHistory notBlank (agree.of_dates dated)

/-! ## An hour that is shown twice -/

/-- The night in which the clocks of New York are set back from two to one. -/
def newYork : Option Text := some "America/New_York".toList

/-- Half past one, when the clock shows it first. -/
def halfPastOne : Moment :=
  { instant := 1762061400000000, offset := -14400000000, zone := newYork }

/-- Ten past one, forty minutes later. -/
def tenPastOneAgain : Moment :=
  { instant := 1762063800000000, offset := -18000000000, zone := newYork }

def handover (date : Moment) : TrackingEvent := { description := "Handed over".toList, date }

/-- The handover is later than the stop at the depot, and the clock shows an earlier time. It is lost
behind the stop. -/
theorem filterEvents_loses_later :
    halfPastOne.instant < tenPastOneAgain.instant ∧
      filterEvents "depot".toList [depotScan false halfPastOne, handover tenPastOneAgain] =
        [depotScan false halfPastOne] ∧
      ¬KeepsHistory "depot".toList [depotScan false halfPastOne, handover tenPastOneAgain]
        (filterEvents "depot".toList
          [depotScan false halfPastOne, handover tenPastOneAgain]) := by
  have shown : tenPastOneAgain.isBefore halfPastOne = true := by decide
  have silent : ¬Mentions "depot".toList (handover tenPastOneAgain) :=
    mt mentions_iff.2 (by decide +kernel)
  have lost : filterEvents "depot".toList [depotScan false halfPastOne, handover tenPastOneAgain] =
      [depotScan false halfPastOne] := by
    have needle : needleOf "depot".toList ≠ [] := by decide +kernel
    rw [filterEvents, if_neg needle, trimEvents, sortEvents, if_neg Bool.false_ne_true,
      sortOldestFirst_pair, if_pos (show (handover tenPastOneAgain).date.isBefore
        (depotScan false halfPastOne).date = true from shown)]
    decide +kernel
  refine ⟨by decide, lost, ?_⟩
  rw [lost]
  rintro (⟨nothing, -⟩ | ⟨k, hit, -, ⟨places, -, members, kept⟩, -⟩)
  · cases nothing
  · rcases k with ⟨_ | _ | k, bound⟩
    · have both : (1 : Fin 2) ∈ places ∧ (0 : Fin 2) ∈ places := by
        refine ⟨(members 1).2 ?_, (members 0).2 le_rfl⟩
        have later : halfPastOne.instant < tenPastOneAgain.instant := by decide
        exact le_of_lt (chronology_lt_iff.2 (.inl later))
      obtain ⟨place, rfl⟩ := List.length_eq_one_iff.1 (by
        have sizes := congrArg List.length kept
        simpa using sizes.symm)
      simp only [List.mem_singleton] at both
      exact absurd (both.1.trans both.2.symm) (by decide)
    · exact silent hit
    · exact absurd bound (by simp)

end ParcelStatus
