import ParcelStatus.Tracking.Reconciliation
import ParcelStatus.Proofs.Tracking.Chronology

/-!
# The latest of several

A choice of what is latest does not depend on the order of the candidates, as long as the greatest
instant belongs to one of them only.

* `SoleMaximum` — one of the numbers is above all the others;
* `SoleMaximum.eq` — two candidates with the greatest number are one;
* `newestEvent?_eq_some`, `newestEvent?_perm` — the newest event of a trail.
-/

namespace ParcelStatus

variable {α : Type}

/-! ## Sole maxima -/

theorem eq_of_countP_eq_one {p : α → Bool} {l : List α} (once : l.countP p = 1) {a b : α}
    (ha : a ∈ l) (hb : b ∈ l) (pa : p a = true) (pb : p b = true) : a = b := by
  rw [List.countP_eq_length_filter, List.length_eq_one_iff] at once
  obtain ⟨d, only⟩ := once
  have isOnly {c : α} (hc : c ∈ l) (pc : p c = true) : c = d := by
    have kept : c ∈ l.filter p := List.mem_filter.2 ⟨hc, pc⟩
    rw [only] at kept
    exact List.mem_singleton.1 kept
  rw [isOnly ha pa, isOnly hb pb]

/-- The greatest number stands in the list once. -/
def SoleMaximum (ns : List Int) : Prop := ∃ n, ns.count n = 1 ∧ ∀ m ∈ ns, m ≤ n

/-- Two items that no other item exceeds are one, if the maximum is attained once. -/
theorem SoleMaximum.eq {key : α → Int} {l : List α} (sole : SoleMaximum (l.map key)) {a b : α}
    (ha : a ∈ l) (hb : b ∈ l) (topA : ∀ c ∈ l, key c ≤ key a) (topB : ∀ c ∈ l, key c ≤ key b) :
    a = b := by
  obtain ⟨n, once, above⟩ := sole
  have attained : n ∈ l.map key := List.count_pos_iff.1 (by omega)
  obtain ⟨c, hc, rfl⟩ := List.mem_map.1 attained
  have keyA : key a = key c := le_antisymm (above _ (List.mem_map_of_mem ha)) (topA c hc)
  have keyB : key b = key c := le_antisymm (above _ (List.mem_map_of_mem hb)) (topB c hc)
  rw [List.count_eq_countP, List.countP_map] at once
  exact eq_of_countP_eq_one once ha hb (by simp [keyA]) (by simp [keyB])

/-! ## The newest event -/

theorem newestEvent?_eq_none_iff {events : List TrackingEvent} :
    newestEvent? events = none ↔ events = [] := by
  have perm : (sortEvents events true).Perm events := perm_sortEvents events true
  rw [newestEvent?, List.head?_eq_none_iff]
  constructor
  · intro empty
    rw [empty] at perm
    exact perm.nil_eq.symm
  · intro empty
    rw [empty] at perm ⊢
    exact perm.eq_nil

theorem newestEvent?_eq_some {events : List TrackingEvent} (agree : ClocksAgree events)
    {e : TrackingEvent} (newest : newestEvent? events = some e) :
    e ∈ events ∧ ∀ e' ∈ events, e'.date.instant ≤ e.date.instant := by
  have perm : (sortEvents events true).Perm events := perm_sortEvents events true
  have sorted : (sortEvents events true).Pairwise fun a b => leInstant b a :=
    (stablyOrdered_sortEvents agree true).ordered
  rw [newestEvent?, List.head?_eq_some_iff] at newest
  obtain ⟨older, whole⟩ := newest
  rw [whole] at perm sorted
  refine ⟨perm.mem_iff.1 List.mem_cons_self, fun e' member => ?_⟩
  rcases List.mem_cons.1 (perm.mem_iff.2 member) with rfl | member
  · exact le_rfl
  · simpa [leInstant] using (List.pairwise_cons.1 sorted).1 e' member

theorem newestEvent?_perm {events events' : List TrackingEvent} (agree : ClocksAgree events)
    (perm : events'.Perm events)
    (sole : SoleMaximum (events.map fun e => e.date.instant)) :
    newestEvent? events' = newestEvent? events := by
  cases found : newestEvent? events with
  | none =>
    rw [newestEvent?_eq_none_iff] at found
    rw [found] at perm
    exact newestEvent?_eq_none_iff.2 perm.eq_nil
  | some e =>
    obtain ⟨inTrail, newest⟩ := newestEvent?_eq_some agree found
    cases found' : newestEvent? events' with
    | none =>
      rw [newestEvent?_eq_none_iff.1 found'] at perm
      rw [← perm.nil_eq] at inTrail
      exact absurd inTrail List.not_mem_nil
    | some e' =>
      obtain ⟨inTrail', newest'⟩ := newestEvent?_eq_some (agree.subset perm.subset) found'
      have same : e' = e := sole.eq (perm.mem_iff.1 inTrail') inTrail
        (fun c member => newest' c (perm.mem_iff.2 member)) newest
      rw [same]

end ParcelStatus
