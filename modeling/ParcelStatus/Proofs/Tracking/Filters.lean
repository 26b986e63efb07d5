import ParcelStatus.Proofs.Tracking.Chronology

/-!
# Filters behind filters

What mentions a phrase mentions every part of it, so a filter with a longer phrase never goes
further back than one with a part of it. Behind another filter a trail stands with its newest event
first. To a second filter that makes no difference as long as its clocks agree and no two events are
of one instant; those that are not told apart come out of the first one turned round, and sorting
leaves them so.

* `mentions_of_part` — an event that mentions a phrase mentions its parts;
* `dropWhile_dropWhile` — a cut behind one that goes no further is the cut itself;
* `trimEvents_front` — the longer phrase keeps a front part of what its part keeps;
* `sortEvents_trimEvents` — a trimmed trail, sorted again, is the end of the sorted trail;
* `narrower_filters` — both facts for the filters of requests;
* `filter_twice_in_repeated_hour` — two events that are turned round by every filter.
-/

namespace ParcelStatus

open Text

/-! ## Parts of a phrase -/

theorem mentions_of_part {part phrase : Text} (within : part <:+: phrase) {e : TrackingEvent}
    (mention : e.mentions phrase = true) : e.mentions part = true := by
  simp only [TrackingEvent.mentions, Bool.or_eq_true, occursIn_iff_infix] at mention ⊢
  rcases mention with described | excepted
  · exact .inl (within.trans described)
  · exact .inr (within.trans excepted)

/-! ## Two cuts -/

/-- Of two cuts the first has no effect if the second goes at least as far. -/
theorem dropWhile_dropWhile {α : Type} {p q : α → Bool} (further : ∀ a, p a = true → q a = true)
    (l : List α) : (l.dropWhile p).dropWhile q = l.dropWhile q := by
  induction l with
  | nil => rfl
  | cons a l ih =>
    cases drop : p a with
    | true => rw [List.dropWhile_cons_of_pos drop, ih, List.dropWhile_cons_of_pos (further a drop)]
    | false => rw [List.dropWhile_cons_of_neg (by simp [drop])]

/-- What a phrase passes over, every longer one does. -/
theorem passed_of_part {part phrase : Text} (within : part <:+: phrase) (e : TrackingEvent)
    (passed : (!e.mentions part) = true) : (!e.mentions phrase) = true := by
  rw [Bool.not_eq_true', ← Bool.not_eq_true] at passed ⊢
  exact fun mention => passed (mentions_of_part within mention)

/-! ## Trimmed trails -/

variable {part phrase : Text} {events : List TrackingEvent}

theorem trimEvents_front (within : part <:+: phrase) (events : List TrackingEvent) :
    trimEvents phrase events <+: trimEvents part events := by
  rw [trimEvents, trimEvents, List.reverse_prefix,
    ← dropWhile_dropWhile (passed_of_part within) (sortEvents events false)]
  exact List.dropWhile_suffix _

/-- A trail in order stays as it is. -/
theorem sortEvents_of_pairwise (agree : ClocksAgree events)
    (sorted : events.Pairwise fun a b => leInstant a b) : sortEvents events false = events := by
  rw [sortEvents_eq agree]
  exact List.mergeSort_of_pairwise sorted

theorem sortEvents_trimEvents (agree : ClocksAgree events) (distinct : DistinctInstants events)
    (part : Text) :
    sortEvents (trimEvents part events) false =
      (sortEvents events false).dropWhile fun e => !e.mentions part := by
  have permSort : (sortEvents events false).Perm events := perm_sortEvents events false
  have kept : ((sortEvents events false).dropWhile fun e => !e.mentions part).Sublist
      (sortEvents events false) := List.dropWhile_sublist _
  have distinctKept :
      DistinctInstants ((sortEvents events false).dropWhile fun e => !e.mentions part) := by
    have sorted : DistinctInstants (sortEvents events false) := (permSort.map _).nodup_iff.2 distinct
    exact List.Nodup.sublist (kept.map _) sorted
  have agreeKept : ClocksAgree ((sortEvents events false).dropWhile fun e => !e.mentions part) :=
    agree.subset fun _ member => permSort.subset (kept.subset member)
  have turned : (trimEvents part events).Perm
      ((sortEvents events false).dropWhile fun e => !e.mentions part) := List.reverse_perm _
  rw [sortEvents_perm agreeKept turned distinctKept]
  exact sortEvents_of_pairwise agreeKept ((pairwise_sortEvents agree).sublist kept)

/-- Behind the filter of a part, a phrase finds what it finds in the whole trail. -/
theorem trimEvents_trimEvents (agree : ClocksAgree events) (distinct : DistinctInstants events)
    (within : part <:+: phrase) :
    trimEvents phrase (trimEvents part events) = trimEvents phrase events := by
  rw [trimEvents, sortEvents_trimEvents agree distinct, dropWhile_dropWhile (passed_of_part within),
    ← trimEvents]

/-! ## Filters -/

theorem filterEvents_of_word {filter : Text} (word : fold (trim filter) ≠ [])
    (events : List TrackingEvent) :
    filterEvents filter events = trimEvents (fold (trim filter)) events :=
  if_neg word

/-- The events behind a filter are the first of those behind a filter with a part of its phrase. If
the clocks of a trail agree and no two of its events are of one instant, the narrower filter can also
be applied to what the wider one leaves, and any filter a second time. -/
theorem narrower_filters {wide narrow : Text} (word : fold (trim wide) ≠ [])
    (within : fold (trim wide) <:+: fold (trim narrow)) (events : List TrackingEvent) :
    filterEvents narrow events <+: filterEvents wide events ∧
      (ClocksAgree events → DistinctInstants events →
        filterEvents narrow (filterEvents wide events) = filterEvents narrow events ∧
          ∀ filter, filterEvents filter (filterEvents filter events) =
            filterEvents filter events) := by
  have wordNarrow : fold (trim narrow) ≠ [] := by
    intro empty
    rw [empty, List.infix_nil] at within
    exact word within
  rw [filterEvents_of_word word, filterEvents_of_word wordNarrow]
  refine ⟨trimEvents_front within events, fun agree distinct => ⟨?_, fun filter => ?_⟩⟩
  · rw [filterEvents_of_word wordNarrow, trimEvents_trimEvents agree distinct within]
  · by_cases blank : fold (trim filter) = []
    · exact if_pos blank
    · rw [filterEvents_of_word blank, filterEvents_of_word blank,
        trimEvents_trimEvents agree distinct List.infix_rfl]

/-- A stop at a hub, and another one that was late. -/
def hubScan : TrackingEvent := { description := "Hub scan".toList, date := { instant := 1 } }

def lateAtHub : TrackingEvent :=
  { description := "Left".toList, exceptionDescription := "late at HUB".toList,
    date := { instant := 2 } }

def handedOver : TrackingEvent := { description := "Delivered".toList, date := { instant := 3 } }

/-- The trail of the three, out of order. -/
def hubTrail : List TrackingEvent := [handedOver, hubScan, lateAtHub]

theorem clocksAgree_hubTrail : ClocksAgree hubTrail :=
  clocksAgree_of_zoneless (by decide)

theorem distinct_hubTrail : DistinctInstants hubTrail := by
  unfold DistinctInstants
  decide

theorem sortEvents_hubTrail : sortEvents hubTrail false = [hubScan, lateAtHub, handedOver] := by
  have perm : [hubScan, lateAtHub, handedOver].Perm hubTrail := by decide
  rw [← sortEvents_perm clocksAgree_hubTrail perm distinct_hubTrail]
  exact sortEvents_of_pairwise (clocksAgree_hubTrail.subset perm.subset) (by decide)

/-- The filter of the late stop leaves the first two of the three events that the hub leaves. -/
theorem narrower_filters_of_hub :
    fold (trim " Hub".toList) ≠ [] ∧ fold (trim " Hub".toList) <:+: fold (trim "At hub ".toList) ∧
      ClocksAgree hubTrail ∧ DistinctInstants hubTrail ∧
      filterEvents " Hub".toList hubTrail = [handedOver, lateAtHub, hubScan] ∧
      [handedOver, lateAtHub] <+: filterEvents " Hub".toList hubTrail ∧
      filterEvents "At hub ".toList [handedOver, lateAtHub, hubScan] = [handedOver, lateAtHub] := by
  have word : fold (trim " Hub".toList) ≠ [] := by decide +kernel
  have within : fold (trim " Hub".toList) <:+: fold (trim "At hub ".toList) := by decide +kernel
  have wide : filterEvents " Hub".toList hubTrail = [handedOver, lateAtHub, hubScan] := by
    rw [filterEvents_of_word word, trimEvents, sortEvents_hubTrail]
    decide +kernel
  have narrow : filterEvents "At hub ".toList hubTrail = [handedOver, lateAtHub] := by
    rw [filterEvents_of_word (by decide +kernel), trimEvents, sortEvents_hubTrail]
    decide +kernel
  obtain ⟨front, again⟩ := narrower_filters word within hubTrail
  have behind := (again clocksAgree_hubTrail distinct_hubTrail).1
  rw [narrow] at front behind
  rw [wide] at behind
  exact ⟨word, within, clocksAgree_hubTrail, distinct_hubTrail, wide, front, behind⟩

/-- Half past one in the same night as before, when the clock shows it again. -/
def halfPastOneAgain : Moment :=
  { instant := 1762065000000000, offset := -18000000000, zone := newYork }

/-- Two stops an hour apart at which the clock showed one time: they are not told apart, so a filter
turns them round, and the next one turns them round again. -/
theorem filter_twice_in_repeated_hour :
    DistinctInstants [depotScan false halfPastOne, depotScan true halfPastOneAgain] ∧
      filterEvents "depot".toList [depotScan false halfPastOne, depotScan true halfPastOneAgain] =
        [depotScan true halfPastOneAgain, depotScan false halfPastOne] ∧
      filterEvents "depot".toList
          (filterEvents "depot".toList
            [depotScan false halfPastOne, depotScan true halfPastOneAgain]) ≠
        filterEvents "depot".toList
          [depotScan false halfPastOne, depotScan true halfPastOneAgain] := by
  have notBlank : ∃ c ∈ "depot".toList, isBlank c = false := ⟨'d', by decide, by decide⟩
  have first : Mentions "depot".toList (depotScan false halfPastOne) := mentions_depotScan false _
  have second : Mentions "depot".toList (depotScan true halfPastOneAgain) :=
    mentions_depotScan true _
  have once : filterEvents "depot".toList
      [depotScan false halfPastOne, depotScan true halfPastOneAgain] =
        [depotScan true halfPastOneAgain, depotScan false halfPastOne] :=
    (filterEvents_pair notBlank first second).trans (if_neg (by decide))
  have twice : filterEvents "depot".toList
      [depotScan true halfPastOneAgain, depotScan false halfPastOne] =
        [depotScan false halfPastOne, depotScan true halfPastOneAgain] :=
    (filterEvents_pair notBlank second first).trans (if_neg (by decide))
  have distinct : DistinctInstants
      [depotScan false halfPastOne, depotScan true halfPastOneAgain] := by
    unfold DistinctInstants
    decide
  refine ⟨distinct, once, ?_⟩
  rw [once, twice]
  exact fun same => depotScan_ne _ _ (List.cons.inj same).1

end ParcelStatus
