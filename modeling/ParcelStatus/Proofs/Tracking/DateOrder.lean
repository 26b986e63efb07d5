import ParcelStatus.Tracking.History
import Mathlib.Order.Basic

/-!
# The order of dates

Dates are compared by what a clock shows where they stand in one zone, and otherwise by their
instants. As long as both come to the same for the dates of a trail, sorting the trail puts its
events in the order of their instants, the oldest or the newest first, and events of one instant stay
as they stood.

* `pairwise_mergeSort_stable` — a stable sort keeps the order in which equals stood;
* `filter_mergeSort` — it leaves items that are equal for it in their order;
* `eq_of_pairwise_of_filter` — two sorted lists that agree on each class of equal items are one list;
* `StablyOrdered` — a feed in the order of a direction, ties as they came;
* `eq_mergeSort_iff` — sorting by instants gives the one list of that kind;
* `StablyOrdered.reverse` — the same for the other direction, of the feed turned round;
* `ClocksAgree` — the dates of a trail are compared as their instants are;
* `sortEvents_eq` — such a trail is sorted by instants, in both directions.
-/

namespace ParcelStatus

/-! ## Stable sorts -/

section Sorting

variable {α κ : Type} {le : α → α → Bool}

/-- Items that stood in the order `r` are in the order of the sort, and those that are equal for it
still in the order `r`. -/
theorem pairwise_mergeSort_stable
    (trans : ∀ a b c, le a b → le b c → le a c) (total : ∀ a b, le a b || le b a)
    {r : α → α → Prop} {l : List α} (h : l.Pairwise r) :
    (l.mergeSort le).Pairwise fun a b => le a b ∧ (le b a → r a b) := by
  induction l with
  | nil => simp
  | cons a l ih =>
    obtain ⟨before, tail⟩ := List.pairwise_cons.1 h
    obtain ⟨l₁, l₂, whole, rest, greater⟩ := List.mergeSort_cons trans total a l
    have sorted : (l₁ ++ a :: l₂).Pairwise fun x y => le x y :=
      whole ▸ List.pairwise_mergeSort trans total (a :: l)
    have stable := ih tail
    rw [rest, List.pairwise_append] at stable
    rw [List.pairwise_append, List.pairwise_cons] at sorted
    obtain ⟨-, ⟨after, -⟩, across⟩ := sorted
    rw [whole, List.pairwise_append, List.pairwise_cons]
    refine ⟨stable.1, ⟨?_, stable.2.1⟩, ?_⟩
    · intro b member
      have inTail : b ∈ l := by
        rw [← (List.mergeSort_perm l le).mem_iff, rest]
        exact List.mem_append_right l₁ member
      exact ⟨after b member, fun _ => before b inTail⟩
    · intro x hx y hy
      rcases List.mem_cons.1 hy with rfl | hy
      · have strict := greater x hx
        refine ⟨across x hx y List.mem_cons_self, fun back => ?_⟩
        simp [back] at strict
      · exact stable.2.2 x hx y hy

/-- Items that are in order both ways stand in a stable sort as they stood before. -/
theorem filter_mergeSort (trans : ∀ a b c, le a b → le b c → le a c)
    (total : ∀ a b, le a b || le b a) {p : α → Bool} (tied : ∀ a b, p a → p b → le a b)
    (l : List α) : (l.mergeSort le).filter p = l.filter p := by
  have ordered : (l.filter p).Pairwise fun a b => le a b := by
    refine List.pairwise_of_forall_mem_list fun a ha b hb => ?_
    exact tied a b (List.mem_filter.1 ha).2 (List.mem_filter.1 hb).2
  have within : (l.filter p).Sublist (l.mergeSort le) :=
    List.sublist_mergeSort trans total ordered List.filter_sublist
  -- The sort holds no more items of the kind, so those that it holds are these.
  have kept : (l.filter p).Sublist ((l.mergeSort le).filter p) := by
    have again := within.filter p
    simpa only [List.filter_filter, Bool.and_self] using again
  have count : (l.filter p).length = ((l.mergeSort le).filter p).length :=
    ((List.mergeSort_perm l le).filter p).length_eq.symm
  exact (kept.eq_of_length count).symm

variable [DecidableEq κ] {key : α → κ}

theorem mem_iff_of_filter {l m : List α}
    (same : ∀ k, l.filter (key · = k) = m.filter (key · = k)) (a : α) : a ∈ l ↔ a ∈ m := by
  have here : a ∈ l.filter (key · = key a) ↔ a ∈ m.filter (key · = key a) := by rw [same]
  simpa using here

/-- Two sorted lists are one list if they agree on the items of each key, and only items of one key
are in order both ways. -/
theorem eq_of_pairwise_of_filter (refl : ∀ a, le a a)
    (antisymm : ∀ a b, le a b → le b a → key a = key b) {l m : List α}
    (hl : l.Pairwise fun a b => le a b) (hm : m.Pairwise fun a b => le a b)
    (same : ∀ k, l.filter (key · = k) = m.filter (key · = k)) : l = m := by
  have atFront {a b : α} {l : List α} (sorted : (a :: l).Pairwise fun a b => le a b)
      (member : b ∈ a :: l) : le a b := by
    rcases List.mem_cons.1 member with rfl | later
    · exact refl b
    · exact (List.pairwise_cons.1 sorted).1 b later
  induction l generalizing m with
  | nil =>
    cases m with
    | nil => rfl
    | cons b m => simpa using mem_iff_of_filter same b
  | cons a l ih =>
    cases m with
    | nil => simpa using mem_iff_of_filter same a
    | cons b m =>
      -- Each list has the item in front of the other, so the two in front are of one key.
      have ab : le a b := atFront hl ((mem_iff_of_filter same b).2 List.mem_cons_self)
      have ba : le b a := atFront hm ((mem_iff_of_filter same a).1 List.mem_cons_self)
      have tie : key b = key a := antisymm b a ba ab
      obtain rfl : a = b := by
        have first := same (key a)
        simp only [List.filter_cons, tie, decide_true, if_true, List.cons.injEq] at first
        exact first.1
      have rest (k : κ) : l.filter (key · = k) = m.filter (key · = k) := by
        have whole := same k
        simp only [List.filter_cons] at whole
        split at whole
        · exact (List.cons.inj whole).2
        · exact whole
      rw [ih (List.pairwise_cons.1 hl).2 (List.pairwise_cons.1 hm).2 rest]

/-- Only the comparisons of the items of a list matter to its sort. -/
theorem mergeSort_congr {l : List α} {other : α → α → Bool}
    (same : ∀ a ∈ l, ∀ b ∈ l, le a b = other a b) : l.mergeSort le = l.mergeSort other := by
  have mapped := List.map_mergeSort (f := id) same
  rwa [List.map_id, List.map_id] at mapped

end Sorting

/-! ## Both directions -/

/-- The first event is not later than the second. -/
def leInstant (a b : TrackingEvent) : Bool := a.date.instant ≤ b.date.instant

theorem leInstant_trans (a b c : TrackingEvent) (hab : leInstant a b) (hbc : leInstant b c) :
    leInstant a c := by
  simp only [leInstant, decide_eq_true_eq] at *
  omega

theorem leInstant_total (a b : TrackingEvent) : (leInstant a b || leInstant b a) = true := by
  simp only [leInstant, Bool.or_eq_true, decide_eq_true_eq]
  omega

/-- The first event may stand before the second: it is not later, or, with the newest event first, not
earlier. -/
def inDirection (newestFirst : Bool) (a b : TrackingEvent) : Bool :=
  if newestFirst then leInstant b a else leInstant a b

theorem inDirection_not (newestFirst : Bool) (a b : TrackingEvent) :
    inDirection (!newestFirst) a b = inDirection newestFirst b a := by
  cases newestFirst <;> rfl

theorem inDirection_trans (newestFirst : Bool) (a b c : TrackingEvent)
    (hab : inDirection newestFirst a b) (hbc : inDirection newestFirst b c) :
    inDirection newestFirst a c := by
  cases newestFirst with
  | true => exact leInstant_trans c b a hbc hab
  | false => exact leInstant_trans a b c hab hbc

theorem inDirection_total (newestFirst : Bool) (a b : TrackingEvent) :
    (inDirection newestFirst a b || inDirection newestFirst b a) = true := by
  cases newestFirst with
  | true => exact leInstant_total b a
  | false => exact leInstant_total a b

theorem inDirection_of_tie (newestFirst : Bool) {a b : TrackingEvent}
    (tie : a.date.instant = b.date.instant) : inDirection newestFirst a b = true := by
  cases newestFirst <;> simp [inDirection, leInstant, tie]

theorem tie_of_inDirection {newestFirst : Bool} {a b : TrackingEvent}
    (hab : inDirection newestFirst a b) (hba : inDirection newestFirst b a) :
    a.date.instant = b.date.instant := by
  cases newestFirst with
  | true =>
    simp only [inDirection, leInstant, if_true, decide_eq_true_eq] at hab hba
    omega
  | false =>
    simp only [inDirection, leInstant, Bool.false_eq_true, if_false, decide_eq_true_eq] at hab hba
    omega

/-- The events of a feed in the order of their instants, the oldest or the newest first. -/
structure StablyOrdered (newestFirst : Bool) (feed sorted : List TrackingEvent) : Prop where
  /-- The same events, each as often. -/
  perm : sorted.Perm feed
  ordered : sorted.Pairwise fun a b => inDirection newestFirst a b
  /-- The events of one instant stand as in the feed. -/
  stable : ∀ instant,
    sorted.filter (·.date.instant = instant) = feed.filter (·.date.instant = instant)

/-- Only the instants of the feed have to be looked at. -/
theorem stablyOrdered_iff {newestFirst : Bool} {feed sorted : List TrackingEvent} :
    StablyOrdered newestFirst feed sorted ↔
      sorted.Perm feed ∧ (sorted.Pairwise fun a b => inDirection newestFirst a b) ∧
        (feed.map (·.date.instant)).all fun instant =>
          sorted.filter (·.date.instant = instant) = feed.filter (·.date.instant = instant) := by
  constructor
  · rintro ⟨perm, ordered, stable⟩
    exact ⟨perm, ordered, List.all_eq_true.2 fun instant _ => decide_eq_true (stable instant)⟩
  · rintro ⟨perm, ordered, stable⟩
    refine ⟨perm, ordered, fun instant => ?_⟩
    by_cases inFeed : instant ∈ feed.map (·.date.instant)
    · exact of_decide_eq_true (List.all_eq_true.1 stable instant inFeed)
    · have absent (l : List TrackingEvent) (within : l ⊆ feed) :
          l.filter (·.date.instant = instant) = [] := by
        refine List.filter_eq_nil_iff.2 fun e member same => inFeed ?_
        exact List.mem_map.2 ⟨e, within member, of_decide_eq_true same⟩
      rw [absent sorted perm.subset, absent feed (List.Subset.refl feed)]

instance (newestFirst : Bool) (feed sorted : List TrackingEvent) :
    Decidable (StablyOrdered newestFirst feed sorted) :=
  decidable_of_iff _ stablyOrdered_iff.symm

theorem stablyOrdered_mergeSort (newestFirst : Bool) (feed : List TrackingEvent) :
    StablyOrdered newestFirst feed (feed.mergeSort (inDirection newestFirst)) := by
  have trans := inDirection_trans newestFirst
  have total := inDirection_total newestFirst
  refine ⟨List.mergeSort_perm feed _, List.pairwise_mergeSort trans total feed, fun instant => ?_⟩
  refine filter_mergeSort trans total (fun a b ha hb => ?_) feed
  exact inDirection_of_tie newestFirst ((of_decide_eq_true ha).trans (of_decide_eq_true hb).symm)

/-- Sorting by instants gives the one list that is stably ordered. -/
theorem eq_mergeSort_iff {newestFirst : Bool} {feed sorted : List TrackingEvent} :
    sorted = feed.mergeSort (inDirection newestFirst) ↔ StablyOrdered newestFirst feed sorted := by
  have sort := stablyOrdered_mergeSort newestFirst feed
  constructor
  · rintro rfl
    exact sort
  · intro other
    have refl (a : TrackingEvent) : inDirection newestFirst a a := inDirection_of_tie newestFirst rfl
    refine eq_of_pairwise_of_filter refl (fun _ _ => tie_of_inDirection) other.ordered sort.ordered
      fun instant => ?_
    rw [other.stable, sort.stable]

/-- A sorted trail that is turned round is the feed turned round, sorted in the other direction. -/
theorem StablyOrdered.reverse {newestFirst : Bool} {feed sorted : List TrackingEvent}
    (h : StablyOrdered newestFirst feed sorted) :
    StablyOrdered (!newestFirst) feed.reverse sorted.reverse where
  perm := (List.reverse_perm sorted).trans (h.perm.trans (List.reverse_perm feed).symm)
  ordered := by
    rw [List.pairwise_reverse]
    exact h.ordered.imp fun inOrder => (inDirection_not _ _ _).trans inOrder
  stable instant := by rw [List.filter_reverse, List.filter_reverse, h.stable]

/-! ## Clocks -/

/-- What clocks of one lead show is in the order of the instants. -/
theorem Moment.isBefore_iff_of_offset {a b : Moment}
    (steady : a.zone.isSome → a.zone = b.zone → a.offset = b.offset) :
    a.isBefore b = true ↔ a.instant < b.instant := by
  unfold Moment.isBefore Moment.shownTime
  split
  · rename_i oneZone
    rw [Bool.and_eq_true, decide_eq_true_eq] at oneZone
    have lead := steady oneZone.1 oneZone.2
    rw [decide_eq_true_eq]
    omega
  · rw [decide_eq_true_eq]

/-- The dates of the trail are compared as their instants are. -/
def ClocksAgree (events : List TrackingEvent) : Prop :=
  ∀ a ∈ events, ∀ b ∈ events,
    (a.date.isBefore b.date = true ↔ a.date.instant < b.date.instant)

instance (events : List TrackingEvent) : Decidable (ClocksAgree events) :=
  inferInstanceAs (Decidable (∀ a ∈ events, ∀ b ∈ events,
    (a.date.isBefore b.date = true ↔ a.date.instant < b.date.instant)))

variable {events : List TrackingEvent}

/-- The clocks of a trail agree when none of its zones was set forward or back between its events. -/
theorem clocksAgree_of_steady
    (steady : ∀ a ∈ events, ∀ b ∈ events, a.date.zone.isSome → a.date.zone = b.date.zone →
      a.date.offset = b.date.offset) : ClocksAgree events :=
  fun a ha b hb => Moment.isBefore_iff_of_offset (steady a ha b hb)

/-- Without zones there is nothing to disagree about. -/
theorem clocksAgree_of_zoneless (zoneless : ∀ e ∈ events, e.date.zone = none) :
    ClocksAgree events := by
  refine clocksAgree_of_steady fun a ha _ _ zoned => ?_
  rw [zoneless a ha] at zoned
  cases zoned

/-- Only the dates of a trail matter. -/
theorem ClocksAgree.of_dates {feed : List TrackingEvent} (agree : ClocksAgree events)
    (dated : ∀ e ∈ feed, e.date ∈ events.map (·.date)) : ClocksAgree feed := by
  intro a ha b hb
  obtain ⟨a', ha', sameA⟩ := List.mem_map.1 (dated a ha)
  obtain ⟨b', hb', sameB⟩ := List.mem_map.1 (dated b hb)
  rw [← sameA, ← sameB]
  exact agree a' ha' b' hb'

theorem ClocksAgree.subset {part : List TrackingEvent} (agree : ClocksAgree events)
    (within : part ⊆ events) : ClocksAgree part :=
  agree.of_dates fun _ member => List.mem_map_of_mem (within member)

/-! ## Sorted trails -/

theorem perm_sortOldestFirst (events : List TrackingEvent) :
    (sortOldestFirst events).Perm events :=
  List.mergeSort_perm events _

/-- Sorting loses no event and brings none in. -/
theorem perm_sortEvents (events : List TrackingEvent) (newestFirst : Bool) :
    (sortEvents events newestFirst).Perm events := by
  cases newestFirst with
  | true =>
    exact (List.reverse_perm _).trans
      ((perm_sortOldestFirst _).trans (List.reverse_perm events))
  | false => exact perm_sortOldestFirst events

/-- Of two events the second one goes in front when its date comes before that of the first. -/
theorem sortOldestFirst_pair (a b : TrackingEvent) :
    sortOldestFirst [a, b] = if b.date.isBefore a.date then [b, a] else [a, b] := by
  cases before : b.date.isBefore a.date <;>
    simp [sortOldestFirst, List.mergeSort, List.MergeSort.Internal.splitInTwo, before]

theorem sortOldestFirst_eq (agree : ClocksAgree events) :
    sortOldestFirst events = events.mergeSort (inDirection false) := by
  refine mergeSort_congr fun a ha b hb => ?_
  have same := agree b hb a ha
  rw [Bool.eq_iff_iff, Bool.not_eq_true', ← Bool.not_eq_true, same]
  simp [inDirection, leInstant]

theorem sortEvents_eq (agree : ClocksAgree events) (newestFirst : Bool) :
    sortEvents events newestFirst = events.mergeSort (inDirection newestFirst) := by
  cases newestFirst with
  | false => exact sortOldestFirst_eq agree
  | true =>
    have turned : ClocksAgree events.reverse := agree.subset (List.reverse_subset.2 fun _ h => h)
    have sorted := (stablyOrdered_mergeSort false events.reverse).reverse
    rw [List.reverse_reverse, ← sortOldestFirst_eq turned] at sorted
    exact eq_mergeSort_iff.2 sorted

theorem stablyOrdered_sortEvents (agree : ClocksAgree events) (newestFirst : Bool) :
    StablyOrdered newestFirst events (sortEvents events newestFirst) := by
  rw [sortEvents_eq agree]
  exact stablyOrdered_mergeSort newestFirst events

end ParcelStatus
