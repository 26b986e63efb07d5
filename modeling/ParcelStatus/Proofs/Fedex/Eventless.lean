import ParcelStatus.Proofs.Fedex.Decision

/-!
# Results without events

Among results that are no deliveries, one without events is chosen by the start of 1970. An event may
have that very date, for want of one that can be read, or an earlier one. So a result without events
gives way to later dates only, and at the same date to the results in front of it.

* `HasEvent`, `hasEvent_iff` — results with an event;
* `Outranks` — a result that leads with a late enough date for its place;
* `pick_hasEvent_iff` — when a result with an event is chosen;
* `pick_passes_over_events` — results with events that are passed over.
-/

namespace ParcelStatus.Fedex

open Outcome

/-- Among the scan events of the result stands an object. -/
def HasEvent (result : Members) : Prop :=
  ∃ items, Json.get result "scanEvents" = .arr items ∧ ∃ event, .obj event ∈ items

theorem hasEvent_iff {result : Members} : HasEvent result ↔ eventMembers result ≠ [] := by
  unfold HasEvent eventMembers
  cases Json.get result "scanEvents" with
  | arr items =>
    constructor
    · rintro ⟨_, ⟨⟩, event, inside⟩
      exact List.ne_nil_of_mem (List.mem_filterMap.2 ⟨.obj event, inside, rfl⟩)
    · intro some_
      obtain ⟨event, inside⟩ := List.exists_mem_of_ne_nil _ some_
      obtain ⟨item, inside, is⟩ := List.mem_filterMap.1 inside
      cases item with
      | obj members => exact ⟨items, rfl, members, inside⟩
      | _ => cases is
  | _ => simp [Json.objects]

/-- A result without events counts as one of the start of 1970. -/
theorem leadingInstant_of_no_event [Present] {result : Members} (bare : ¬HasEvent result) :
    leadingInstant result = Moment.epoch.instant := by
  rw [hasEvent_iff, not_not] at bare
  rw [leadingInstant, leadingDate, bare]

/-- The result leads with a later date than the start of 1970 if one without events stands in front
of it, and with no earlier one if one stands behind it. -/
structure Outranks [Present] (before : List Members) (result : Members) (after : List Members) :
    Prop where
  before : ∀ q ∈ before, ¬HasEvent q → Moment.epoch.instant < leadingInstant result
  after : ∀ q ∈ after, ¬HasEvent q → Moment.epoch.instant ≤ leadingInstant result

/-- The first of those that lead with the latest date outranks the results without events. -/
theorem LeadsFirst.outranks [Present] {before after : List Members} {result : Members}
    (leads : LeadsFirst before result after) : Outranks before result after := by
  constructor
  · intro q member bare
    rw [← leadingInstant_of_no_event bare]
    exact leads.earlier q member
  · intro q member bare
    rw [← leadingInstant_of_no_event bare]
    exact leads.others q member

/-- What leads with the latest date has an event, if any result outranks those without. -/
theorem LeadsFirst.hasEvent [Present] {before after front behind : List Members}
    {chosen result : Members} (leads : LeadsFirst before chosen after)
    (same : before ++ chosen :: after = front ++ result :: behind) (event : HasEvent result)
    (outranks : Outranks front result behind) : HasEvent chosen := by
  by_contra bare
  have instant := leadingInstant_of_no_event bare
  -- The choice stands in front of the other result, is that result, or stands behind it.
  rcases List.append_eq_append_iff.1 same with ⟨between, rfl, rest⟩ | ⟨between, rfl, rest⟩
  · cases between with
    | nil =>
      obtain rfl : chosen = result := (List.cons.inj rest).1
      exact bare event
    | cons first between =>
      obtain rfl : chosen = first := (List.cons.inj rest).1
      have late := outranks.before chosen (List.mem_append_right _ List.mem_cons_self) bare
      have latest := leads.latest result (same ▸ List.mem_append_cons_self)
      omega
  · cases between with
    | nil =>
      obtain rfl : result = chosen := (List.cons.inj rest).1
      exact bare event
    | cons first between =>
      obtain ⟨rfl, rfl⟩ := List.cons.inj rest
      have late := outranks.after chosen List.mem_append_cons_self bare
      have earlier := leads.earlier result (List.mem_append_right _ List.mem_cons_self)
      omega

/-- The date of the first event of the result, if there is one, can be a date. -/
def LeadsDatably [Present] (result : Members) : Prop :=
  ∀ event ∈ (eventMembers result).head?, Datable (dateValue event)

theorem leadingDate_returns_iff [Present] {result : Members} :
    (∃ m, leadingDate result = .ok m) ↔ LeadsDatably result := by
  rw [(leadingDate_restsOn result).returns_iff, LeadsDatably]
  cases eventMembers result <;> simp

theorem leadingDates_return [Present] {results : List Members}
    (datable : ∀ r ∈ results, LeadsDatably r) : ∃ dates, results.mapM leadingDate = .ok dates := by
  rw [← fault?_eq_none_iff, fault?_mapM, List.findSome?_eq_none_iff]
  intro r member
  exact fault?_eq_none_iff.2 (leadingDate_returns_iff.2 (datable r member))

theorem leadsDatably_of_mapM [Present] {results : List Members} {dates : List Moment}
    (read : results.mapM leadingDate = .ok dates) : ∀ r ∈ results, LeadsDatably r := by
  intro r member
  obtain ⟨i, there⟩ := List.mem_iff_getElem?.1 member
  obtain ⟨m, -, reads⟩ := getElem?_of_mapM read there
  exact leadingDate_returns_iff.1 ⟨m, reads⟩

/-- Among results that are no deliveries, some of which have an event, one with an event is chosen
exactly when every first event can be dated and one of those results outranks all results without. -/
theorem pick_hasEvent_iff [Present] {results : List Members} (open_ : ∀ r ∈ results, ¬IsDelivery r)
    (some_ : ∃ r ∈ results, HasEvent r) :
    (∃ chosen ∈ results, pick results = .ok chosen ∧ HasEvent chosen) ↔
      (∀ r ∈ results, LeadsDatably r) ∧
      ∃ before r after, results = before ++ r :: after ∧ HasEvent r ∧ Outranks before r after := by
  have nonempty : results ≠ [] := by
    obtain ⟨r, member, -⟩ := some_
    exact List.ne_nil_of_mem member
  have undelivered : ∀ r ∈ results, isDelivered r = false := by
    intro r member
    exact isDelivered_eq_false_iff.2 (open_ r member)
  constructor
  · rintro ⟨chosen, member, picked, event⟩
    obtain ⟨dates, read⟩ := dates_of_pick undelivered picked
    obtain ⟨before, after, split, delivery | ⟨-, leads⟩⟩ := pick_cases nonempty picked
    · exact absurd delivery.delivery (open_ chosen member)
    · exact ⟨leadsDatably_of_mapM read, before, chosen, after, split, event, leads.outranks⟩
  · rintro ⟨datable, front, r, behind, split, event, outranks⟩
    obtain ⟨dates, read⟩ := leadingDates_return datable
    obtain ⟨before, chosen, after, whole, leads, picked⟩ := pick_latest nonempty undelivered read
    refine ⟨chosen, whole ▸ List.mem_append_cons_self, picked, ?_⟩
    exact leads.hasEvent (whole.symm.trans split) event outranks

/-- A result with one event, of the date that is given. -/
def resultDated (date : Json) : Members :=
  [("scanEvents".toList, .arr [.obj [("date".toList, date)]])]

attribute [local instance] Present.sample

/-- A result without events between two that lead with the start of 1970 and with an earlier date:
the first of them is chosen, since it stands in front. -/
theorem pick_hasEvent_at_epoch :
    ∃ chosen ∈ [resultDated .null, [], resultDated (.int (-1))],
      pick [resultDated .null, [], resultDated (.int (-1))] = .ok chosen ∧ HasEvent chosen := by
  have event (date : Json) : HasEvent (resultDated date) := ⟨_, rfl, _, List.mem_cons_self⟩
  have open_ : ∀ r ∈ [resultDated .null, [], resultDated (.int (-1))], ¬IsDelivery r := by
    decide +kernel
  refine (pick_hasEvent_iff open_ ⟨_, List.mem_cons_self, event _⟩).2 ⟨?_, [], _, _, rfl, event _, ?_⟩
  · intro r member
    rw [← leadingDate_returns_iff, ← fault?_eq_none_iff]
    revert r
    decide +kernel
  · constructor
    · intro q member
      cases member
    · intro q member bare
      decide +kernel

/-- A result without events, and behind it two whose events have no date and one before 1970. -/
def passedOver : List Members :=
  [[], resultDated .null, resultDated (.str "1969-12-31".toList)]

/-- The result without events is chosen. -/
theorem pick_passes_over_events :
    (∀ r ∈ passedOver, ¬IsDelivery r) ∧ (∃ r ∈ passedOver, HasEvent r) ∧
      ¬∃ chosen ∈ passedOver, pick passedOver = .ok chosen ∧ HasEvent chosen := by
  refine ⟨by decide +kernel, ⟨_, .tail _ List.mem_cons_self, _, rfl, _, List.mem_cons_self⟩, ?_⟩
  rintro ⟨chosen, -, picked, event⟩
  obtain ⟨place, index, rfl⟩ := map_eq_ok_iff.1 picked
  have first : (pickIndex passedOver).toOption = some (some 0) := by decide +kernel
  rw [index] at first
  cases first
  exact hasEvent_iff.1 event rfl

end ParcelStatus.Fedex
