import ParcelStatus.Proofs.Outcome
import ParcelStatus.Proofs.Tracking.Latest

/-!
# The track result that decides

Of the results of a body the first delivered one decides, else the first of those that lead with
the latest date. Both choices are by place, but a place matters only where several results would
do.

* `split_firstMaximum` — the search for a maximum ends at the first one;
* `pick_delivered`, `pick_latest` — what is known of the result that is chosen;
* `Decisive`, `pick_perm` — results whose order has no part in the choice.
-/

namespace ParcelStatus.Fedex

open Outcome

/-! ## The first of the greatest numbers -/

theorem exists_split_firstMaximum {best : Int} {front behind : List Int} (ns : List Int)
    (earlier : ∀ m ∈ front, m < best) (others : ∀ m ∈ behind, m ≤ best) :
    ∃ front' n behind', front ++ best :: behind ++ ns = front' ++ n :: behind' ∧
      front'.length = firstMaximum best front.length (front ++ best :: behind).length ns ∧
      (∀ m ∈ front', m < n) ∧ ∀ m ∈ behind', m ≤ n := by
  -- The numbers that are done stand around the first greatest of them; each step moves one over.
  induction ns generalizing best front behind with
  | nil => exact ⟨front, best, behind, List.append_nil _, rfl, earlier, others⟩
  | cons n ns ih =>
    rw [firstMaximum]
    by_cases greater : best < n
    · rw [if_pos greater]
      have smaller : ∀ m ∈ front ++ best :: behind, m < n := by
        intro m member
        rcases List.mem_append.1 member with inFront | rest
        · exact (earlier m inFront).trans greater
        · rcases List.mem_cons.1 rest with rfl | inBehind
          · exact greater
          · exact (others m inBehind).trans_lt greater
      simpa [Nat.add_assoc] using ih smaller (List.forall_mem_nil _)
    · rw [if_neg greater]
      have within : ∀ m ∈ behind ++ [n], m ≤ best := by
        intro m member
        rcases List.mem_append.1 member with inBehind | new
        · exact others m inBehind
        · rw [List.mem_singleton.1 new]
          exact not_lt.1 greater
      simpa [Nat.add_assoc] using ih earlier within

/-- The search for the greatest number ends at the first one that no other exceeds. -/
theorem split_firstMaximum (n : Int) (ns : List Int) :
    ∃ front m behind, n :: ns = front ++ m :: behind ∧ front.length = firstMaximum n 0 1 ns ∧
      (∀ k ∈ front, k < m) ∧ ∀ k ∈ behind, k ≤ m :=
  @exists_split_firstMaximum n [] [] ns (List.forall_mem_nil _) (List.forall_mem_nil _)

/-! ## The choice -/

theorem pick_of_pickIndex [Present] {before after : List Members} {chosen : Members}
    (place : pickIndex (before ++ chosen :: after) = .ok (some before.length)) :
    pick (before ++ chosen :: after) = .ok chosen := by
  simp [pick, place]

/-- The first delivered result is chosen if there is one. -/
theorem pick_delivered [Present] {results : List Members}
    (delivered : ∃ r ∈ results, isDelivered r = true) :
    ∃ before chosen after, results = before ++ chosen :: after ∧
      (∀ r ∈ before, isDelivered r = false) ∧ isDelivered chosen = true ∧
      pick results = .ok chosen := by
  obtain ⟨r, member, hit⟩ := delivered
  cases found : results.find? isDelivered with
  | none => exact absurd hit (List.find?_eq_none.1 found r member)
  | some chosen =>
    obtain ⟨hit, before, after, rfl, misses⟩ := List.find?_eq_some_iff_append.1 found
    simp only [Bool.not_eq_true'] at misses
    refine ⟨before, chosen, after, rfl, misses, hit, pick_of_pickIndex ?_⟩
    have none : before.findIdx? isDelivered = none := List.findIdx?_eq_none_iff.2 misses
    have place : (before ++ chosen :: after).findIdx? isDelivered = some before.length := by
      simp [List.findIdx?_append, none, List.findIdx?_cons, hit]
    rw [pickIndex, place]

/-- The instant of the first event of a result. -/
def leadingInstant [Present] (result : Members) : Int :=
  match leadingDate result with
  | .ok m => m.instant
  | .error _ => 0

theorem instants_eq_map [Present] {results : List Members} {dates : List Moment}
    (read : results.mapM leadingDate = .ok dates) :
    dates.map (·.instant) = results.map leadingInstant := by
  rw [mapM_eq_ok_iff] at read
  induction read with
  | nil => rfl
  | cons first _ ih => rw [List.map_cons, List.map_cons, ih, leadingInstant, first]

/-- The result leads with a later date than any in front of it, and with no earlier one than those
behind it. -/
structure LeadsFirst [Present] (before : List Members) (chosen : Members) (after : List Members) :
    Prop where
  earlier : ∀ r ∈ before, leadingInstant r < leadingInstant chosen
  others : ∀ r ∈ after, leadingInstant r ≤ leadingInstant chosen

theorem LeadsFirst.latest [Present] {before after : List Members} {chosen : Members}
    (leads : LeadsFirst before chosen after) :
    ∀ r ∈ before ++ chosen :: after, leadingInstant r ≤ leadingInstant chosen := by
  intro r member
  rcases List.mem_append.1 member with inFront | rest
  · exact (leads.earlier r inFront).le
  · rcases List.mem_cons.1 rest with rfl | behind
    · exact le_rfl
    · exact leads.others r behind

/-- Without a delivery, the first of the results that lead with the latest date is chosen. -/
theorem pick_latest [Present] {results : List Members} {dates : List Moment}
    (nonempty : results ≠ [])
    (open_ : ∀ r ∈ results, isDelivered r = false) (read : results.mapM leadingDate = .ok dates) :
    ∃ before chosen after, results = before ++ chosen :: after ∧
      LeadsFirst before chosen after ∧ pick results = .ok chosen := by
  have noDelivery : results.findIdx? isDelivered = none := List.findIdx?_eq_none_iff.2 open_
  have instants := instants_eq_map read
  cases dates with
  | nil => exact absurd (List.map_eq_nil_iff.1 instants.symm) nonempty
  | cons d ds =>
    have index : pickIndex results =
        .ok (some (firstMaximum d.instant 0 1 (ds.map (·.instant)))) := by
      simp [pickIndex, noDelivery, read]
    obtain ⟨front, n, behind, split, place, earlier, others⟩ :=
      split_firstMaximum d.instant (ds.map (·.instant))
    rw [List.map_cons, split] at instants
    -- The split of the instants is one of the results.
    obtain ⟨before, rest, rfl, rfl, behindIt⟩ := List.map_eq_append_iff.1 instants.symm
    obtain ⟨chosen, after, rfl, rfl, rfl⟩ := List.map_eq_cons_iff.1 behindIt
    rw [← place, List.length_map] at index
    refine ⟨before, chosen, after, rfl, ⟨?_, ?_⟩, pick_of_pickIndex index⟩
    · intro r member
      exact earlier _ (List.mem_map_of_mem member)
    · intro r member
      exact others _ (List.mem_map_of_mem member)

/-! ## Results in another order -/

/-- One result is delivered and no other; or none is, and one alone leads with the latest date. -/
def Decisive [Present] (results : List Members) : Prop :=
  results.countP isDelivered = 1 ∨
    (∀ r ∈ results, isDelivered r = false) ∧
      ∃ dates, results.mapM leadingDate = .ok dates ∧ SoleMaximum (dates.map (·.instant))

theorem Decisive.ne_nil [Present] {results : List Members} (decisive : Decisive results) :
    results ≠ [] := by
  rintro rfl
  rcases decisive with once | ⟨-, dates, read, n, once, -⟩
  · simp at once
  · cases read
    simp at once

theorem pick_perm [Present] {results results' : List Members} (perm : results'.Perm results)
    (decisive : Decisive results) : pick results' = pick results := by
  have nonempty : results ≠ [] := decisive.ne_nil
  rcases decisive with once | ⟨open_, dates, read, sole⟩
  · -- In both orders the choice is a delivered result, and there is one of those only.
    have delivered : ∃ r ∈ results, isDelivered r = true := List.countP_pos_iff.1 (by omega)
    obtain ⟨r, member, hit⟩ := delivered
    obtain ⟨_, a, _, rfl, -, hitA, pickA⟩ := pick_delivered ⟨r, perm.mem_iff.2 member, hit⟩
    obtain ⟨_, b, _, rfl, -, hitB, pickB⟩ := pick_delivered ⟨r, member, hit⟩
    have ha := perm.mem_iff.1 (List.mem_append_cons_self (a := a))
    rw [pickA, pickB, eq_of_countP_eq_one once ha List.mem_append_cons_self hitA hitB]
  · -- In both orders the choice leads with a date that no other result exceeds.
    obtain ⟨dates', read', -⟩ := mapM_perm perm read
    have nonempty' : results' ≠ [] := fun empty => nonempty (List.nil_perm.1 (empty ▸ perm))
    have open_' (r : Members) (member : r ∈ results') : isDelivered r = false :=
      open_ r (perm.mem_iff.1 member)
    obtain ⟨_, a, _, rfl, leadsA, pickA⟩ := pick_latest nonempty' open_' read'
    obtain ⟨_, b, _, rfl, leadsB, pickB⟩ := pick_latest nonempty open_ read
    rw [instants_eq_map read] at sole
    have same : a = b := sole.eq (perm.mem_iff.1 List.mem_append_cons_self)
      List.mem_append_cons_self (fun r member => leadsA.latest r (perm.mem_iff.2 member))
      leadsB.latest
    rw [pickA, pickB, same]

end ParcelStatus.Fedex
