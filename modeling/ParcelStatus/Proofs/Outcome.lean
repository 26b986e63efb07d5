import ParcelStatus.Log.Journal
import Mathlib.Data.List.Perm.Basic

/-!
# Outcomes

Work that may fail has a result or a fault. The equations here open one step of such work, and say
what becomes of a list when every item of it is worked on.

* `bind_eq_ok_iff`, `map_eq_ok_iff` — work succeeds when each of its steps does;
* `cases_of_map_eq` — work with the same outcome, as far as it is looked at;
* `fault?_mapM` — the first fault among the items of a list is the fault of the whole;
* `mapM_eq_ok_iff`, `mapM_perm` — a list is worked off when each item is, and its order only orders
  the results;
* `Journal.outcome_mapM` — entries that are written on the way have no part in the outcome;
* `Journal.entries_bind_of_ok`, `Journal.forall_entries_bind` — what joined work writes.
-/

namespace ParcelStatus.Outcome

variable {ε ε' α β γ : Type}

/-! ## Single steps -/

@[simp] theorem pure_eq (a : α) : (pure a : Except ε α) = .ok a := rfl

@[simp] theorem ok_bind (a : α) (f : α → Except ε β) : (Except.ok a >>= f) = f a := rfl

@[simp] theorem error_bind (e : ε) (f : α → Except ε β) :
    (Except.error e >>= f) = .error e := rfl

@[simp] theorem map_ok (f : α → β) (a : α) : (Except.ok a : Except ε α).map f = .ok (f a) := rfl

@[simp] theorem map_error (f : α → β) (e : ε) :
    (Except.error e : Except ε α).map f = .error e := rfl

@[simp] theorem mapError_ok (f : ε → ε') (a : α) :
    (Except.ok a : Except ε α).mapError f = .ok a := rfl

@[simp] theorem mapError_error (f : ε → ε') (e : ε) :
    (Except.error e : Except ε α).mapError f = .error (f e) := rfl

theorem bind_eq_ok_iff {x : Except ε α} {f : α → Except ε β} {b : β} :
    (x >>= f) = .ok b ↔ ∃ a, x = .ok a ∧ f a = .ok b := by
  cases x <;> simp

theorem map_eq_ok_iff {x : Except ε α} {f : α → β} {b : β} :
    x.map f = .ok b ↔ ∃ a, x = .ok a ∧ f a = b := by
  cases x <;> simp

theorem map_map (x : Except ε α) (f : α → β) (g : β → γ) : (x.map f).map g = x.map (g ∘ f) := by
  cases x <;> rfl

theorem mapError_eq_ok_iff {x : Except ε α} {f : ε → ε'} {a : α} :
    x.mapError f = .ok a ↔ x = .ok a := by
  cases x <;> simp

theorem toOption_map_eq_some_iff {x : Except ε α} {f : α → β} {b : β} :
    x.toOption.map f = some b ↔ ∃ a, x = .ok a ∧ f a = b := by
  cases x <;> simp [Except.toOption]

theorem cases_of_map_eq {x : Except ε α} {y : Except ε β} {f : α → γ} {g : β → γ}
    (same : x.map f = y.map g) :
    (∃ e, x = .error e ∧ y = .error e) ∨ ∃ a b, x = .ok a ∧ y = .ok b ∧ f a = g b := by
  cases x <;> cases y <;> simp_all

/-! ## Lists of work -/

theorem mapM_eq_ok_iff (f : α → Except ε β) (xs : List α) (ys : List β) :
    xs.mapM f = .ok ys ↔ List.Forall₂ (fun x y => f x = .ok y) xs ys := by
  induction xs generalizing ys with
  | nil => cases ys <;> simp
  | cons x xs ih =>
    simp only [List.mapM_cons, bind_eq_ok_iff]
    cases ys with
    | nil => simp
    | cons y ys =>
      simp only [List.forall₂_cons, ← ih]
      constructor
      · rintro ⟨y', first, ys', rest, same⟩
        cases same
        exact ⟨first, rest⟩
      · rintro ⟨first, rest⟩
        exact ⟨y, first, ys, rest, rfl⟩

theorem mapM_eq_ok_map {f : α → Except ε β} {g : α → β} {xs : List α}
    (each : ∀ x ∈ xs, f x = .ok (g x)) : xs.mapM f = .ok (xs.map g) := by
  rw [mapM_eq_ok_iff, List.forall₂_map_right_iff, List.forall₂_same]
  exact each

theorem exists_of_mem_mapM {f : α → Except ε β} {xs : List α} {ys : List β}
    (returns : xs.mapM f = .ok ys) {y : β} (member : y ∈ ys) : ∃ x ∈ xs, f x = .ok y := by
  obtain ⟨same, each⟩ := List.forall₂_iff_get.1 ((mapM_eq_ok_iff f xs ys).1 returns)
  obtain ⟨i, rfl⟩ := List.mem_iff_get.1 member
  have inFirst : (i : Nat) < xs.length := by
    rw [same]
    exact i.2
  exact ⟨xs.get ⟨i, inFirst⟩, List.get_mem xs _, each i inFirst i.2⟩

theorem getElem?_of_mapM {f : α → Except ε β} {xs : List α} {ys : List β}
    (returns : xs.mapM f = .ok ys) {i : Nat} {x : α} (there : xs[i]? = some x) :
    ∃ y, ys[i]? = some y ∧ f x = .ok y := by
  obtain ⟨same, each⟩ := List.forall₂_iff_get.1 ((mapM_eq_ok_iff f xs ys).1 returns)
  obtain ⟨inFirst, rfl⟩ := List.getElem?_eq_some_iff.1 there
  exact ⟨ys[i], List.getElem?_eq_getElem (same ▸ inFirst), each i inFirst (same ▸ inFirst)⟩

theorem mapM_perm {f : α → Except ε β} {xs xs' : List α} {ys : List β} (perm : xs'.Perm xs)
    (returns : xs.mapM f = .ok ys) : ∃ ys', xs'.mapM f = .ok ys' ∧ ys'.Perm ys := by
  rw [mapM_eq_ok_iff] at returns
  obtain ⟨ys', related, permuted⟩ := List.perm_comp_forall₂ perm returns
  exact ⟨ys', (mapM_eq_ok_iff f xs' ys').2 related, permuted⟩

/-- The fault of work that has no result. -/
def fault? : Except ε α → Option ε
  | .error e => some e
  | .ok _ => none

theorem fault?_eq_none_iff {x : Except ε α} : fault? x = none ↔ ∃ a, x = .ok a := by
  cases x <;> simp [fault?]

theorem fault?_eq_some_iff {x : Except ε α} {e : ε} : fault? x = some e ↔ x = .error e := by
  cases x <;> simp [fault?]

/-- Work with the same fault, or none, on results that are not told apart. -/
theorem map_eq_map_of_fault? {x : Except ε α} {y : Except ε β} (fails : fault? x = fault? y)
    {f : α → γ} {g : β → γ} (same : ∀ a b, f a = g b) : x.map f = y.map g := by
  cases x with
  | error e =>
    have fails' : y = .error e := fault?_eq_some_iff.1 fails.symm
    rw [fails']
    rfl
  | ok a =>
    obtain ⟨b, returns⟩ := fault?_eq_none_iff.1 fails.symm
    rw [returns, map_ok, map_ok, same a b]

theorem fault?_mapM (f : α → Except ε β) (xs : List α) :
    fault? (xs.mapM f) = xs.findSome? fun x => fault? (f x) := by
  induction xs with
  | nil => rfl
  | cons x xs ih =>
    rw [List.mapM_cons, List.findSome?_cons, ← ih]
    cases f x with
    | error e => rfl
    | ok y => cases xs.mapM f <;> rfl

end ParcelStatus.Outcome

/-! ## Journals -/

namespace ParcelStatus.Log.Journal

variable {ε ε' α β : Type}

@[simp] theorem outcome_ofExcept (x : Except ε α) : (ofExcept x).outcome = x := rfl

@[simp] theorem outcome_write (level : Int) (logger message : Text) :
    (write level logger message : Journal ε Unit).outcome = .ok () := rfl

@[simp] theorem outcome_mapError (f : ε → ε') (x : Journal ε α) :
    (x.mapError f).outcome = x.outcome.mapError f := rfl

theorem ofExcept_ok_bind (a : α) (f : α → Journal ε β) :
    (ofExcept (.ok a) >>= f) = f a := rfl

@[simp] theorem entries_ofExcept (x : Except ε α) : (ofExcept x).entries = [] := rfl

@[simp] theorem entries_mapError (f : ε → ε') (x : Journal ε α) :
    (x.mapError f).entries = x.entries := rfl

/-- Work behind work that has a result writes its entries behind those of the other. -/
theorem entries_bind_of_ok {x : Journal ε α} {a : α} (done : x.outcome = .ok a)
    (f : α → Journal ε β) : (x >>= f).entries = x.entries ++ (f a).entries := by
  show (Journal.bind x f).entries = _
  rw [Journal.bind, done]

theorem mem_entries_bind {x : Journal ε α} {e : Entry} (before : e ∈ x.entries)
    (f : α → Journal ε β) : e ∈ (x >>= f).entries := by
  show e ∈ (Journal.bind x f).entries
  unfold Journal.bind
  cases x.outcome with
  | error fault => exact before
  | ok a => exact List.mem_append_left _ before

/-- Work that writes entries of a kind only, before work that does so too. -/
theorem forall_entries_bind {p : Entry → Prop} {x : Journal ε α} {f : α → Journal ε β}
    (before : ∀ e ∈ x.entries, p e) (behind : ∀ a, ∀ e ∈ (f a).entries, p e) :
    ∀ e ∈ (x >>= f).entries, p e := by
  show ∀ e ∈ (Journal.bind x f).entries, p e
  unfold Journal.bind
  cases x.outcome with
  | error fault => exact before
  | ok a => exact List.forall_mem_append.2 ⟨before, behind a⟩

theorem outcome_mapM (f : α → Journal ε β) (xs : List α) :
    (xs.mapM f).outcome = xs.mapM fun x => (f x).outcome := by
  -- `mapM` runs on a list of results so far, so the induction is over every such list.
  have loop (done : List β) :
      (List.mapM.loop f xs done).outcome = List.mapM.loop (fun x => (f x).outcome) xs done := by
    induction xs generalizing done with
    | nil => rfl
    | cons x xs ih =>
      simp only [List.mapM.loop, outcome_bind]
      congr 1
      funext y
      exact ih (y :: done)
  exact loop []

end ParcelStatus.Log.Journal
