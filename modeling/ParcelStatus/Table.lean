/-!
# Tables

A table is a list of keys with their values. A key keeps the place of its first assignment.

* `Table.assign` — the table with a value for a key;
* `Table.lookup_assign_self`, `Table.lookup_assign_of_ne` — an assignment is found under its own
  key, and leaves all other keys as they were;
* `Table.nodup_keys_assign` — no key comes twice into a table;
* `Table.lookup_eq_some_iff_mem` — where no key stands twice, a key is found with each value that
  stands beside it.
-/

namespace ParcelStatus.Table

variable {κ α : Type} [BEq κ]

/-- The table with a value for a key. -/
def assign (key : κ) (value : α) : List (κ × α) → List (κ × α)
  | [] => [(key, value)]
  | (k, v) :: r => if k == key then (k, value) :: r else (k, v) :: assign key value r

variable [LawfulBEq κ]

theorem lookup_assign_self (key : κ) (value : α) (t : List (κ × α)) :
    (assign key value t).lookup key = some value := by
  induction t with
  | nil => simp [assign]
  | cons p r ih =>
    obtain ⟨k, v⟩ := p
    by_cases h : k = key
    · simp [assign, h]
    · have h' : (key == k) = false := by simpa using Ne.symm h
      simp [assign, h, List.lookup_cons, h', ih]

theorem lookup_assign_of_ne {key other : κ} (value : α) (t : List (κ × α)) (h : other ≠ key) :
    (assign key value t).lookup other = t.lookup other := by
  have ho : (other == key) = false := by simpa using h
  induction t with
  | nil => simp [assign, List.lookup_cons, ho]
  | cons p r ih =>
    obtain ⟨k, v⟩ := p
    by_cases hk : k = key
    · subst hk
      simp [assign, List.lookup_cons, ho]
    · by_cases hok : other = k
      · simp [assign, hk, hok]
      · have h' : (other == k) = false := by simpa using hok
        simp [assign, hk, List.lookup_cons, h', ih]

theorem mem_keys_assign {key other : κ} (value : α) (t : List (κ × α)) :
    other ∈ (assign key value t).map Prod.fst → other = key ∨ other ∈ t.map Prod.fst := by
  induction t with
  | nil => simp [assign]
  | cons p r ih =>
    obtain ⟨k, v⟩ := p
    by_cases h : k = key
    · simp [assign, h]
    · simp only [assign, beq_iff_eq, h, if_false, List.map_cons, List.mem_cons]
      rintro (rfl | inside)
      · exact .inr (.inl rfl)
      · exact (ih inside).imp_right .inr

theorem nodup_keys_assign (key : κ) (value : α) {t : List (κ × α)}
    (distinct : (t.map Prod.fst).Nodup) : ((assign key value t).map Prod.fst).Nodup := by
  induction t with
  | nil => simp [assign]
  | cons p r ih =>
    obtain ⟨k, v⟩ := p
    rw [List.map_cons, List.nodup_cons] at distinct
    by_cases h : k = key
    · simp only [assign, beq_iff_eq, h, if_true, List.map_cons, List.nodup_cons]
      exact h ▸ distinct
    · simp only [assign, beq_iff_eq, h, if_false, List.map_cons, List.nodup_cons]
      refine ⟨fun inside => ?_, ih distinct.2⟩
      exact (mem_keys_assign value r inside).elim h distinct.1

theorem lookup_eq_some_iff_mem {t : List (κ × α)} (distinct : (t.map Prod.fst).Nodup) {key : κ}
    {value : α} : t.lookup key = some value ↔ (key, value) ∈ t := by
  rw [List.lookup_eq_some_iff]
  constructor
  · rintro ⟨front, behind, rfl, -⟩
    exact List.mem_append_right front List.mem_cons_self
  · intro member
    obtain ⟨front, behind, rfl⟩ := List.append_of_mem member
    refine ⟨front, behind, rfl, fun p before => ?_⟩
    -- The key stands behind the pairs in front, so none of them has it.
    rw [List.map_append, List.nodup_append] at distinct
    have other := distinct.2.2 p.1 (List.mem_map_of_mem before) key List.mem_cons_self
    simpa using other.symm

end ParcelStatus.Table
