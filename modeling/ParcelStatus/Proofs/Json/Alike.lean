import ParcelStatus.Json.Basic
import Mathlib.Data.List.Forall2

/-!
# Values that are alike

Two values are alike when they are equal but for texts of members, at any depth. A relation says
under which names texts may differ, and how.

* `Alike`, `MemberAlike` — the relation on values, and on members of one name;
* `get_alike` — members of alike objects are alike;
* `objects_alike` — so are the objects of alike lists;
* `MemberAlike.alike` — under a name that the relation leaves alone, members are alike as values.
-/

namespace ParcelStatus.Json

/-- Members of one name whose values are alike, or are texts that may differ under this name. -/
inductive MemberAlike (R : Text → Text → Text → Prop) (P : Json → Json → Prop) :
    Text × Json → Text × Json → Prop where
  | text {k s t : Text} (differ : R k s t) : MemberAlike R P (k, .str s) (k, .str t)
  | value {k : Text} {v w : Json} (alike : P v w) : MemberAlike R P (k, v) (k, w)

/-- Values that are equal but for texts of members, where the relation holds between them. -/
inductive Alike (R : Text → Text → Text → Prop) : Json → Json → Prop where
  | same (v : Json) : Alike R v v
  | arr {vs ws : List Json} (items : List.Forall₂ (Alike R) vs ws) : Alike R (.arr vs) (.arr ws)
  | obj {ms ns : List (Text × Json)} (members : List.Forall₂ (MemberAlike R (Alike R)) ms ns) :
      Alike R (.obj ms) (.obj ns)

/-- Members of alike objects. -/
abbrev MembersAlike (R : Text → Text → Text → Prop) : (ms ns : List (Text × Json)) → Prop :=
  List.Forall₂ (MemberAlike R (Alike R))

variable {R : Text → Text → Text → Prop}

theorem MembersAlike.refl (ms : List (Text × Json)) : MembersAlike R ms ms :=
  List.forall₂_same.2 fun (_, v) _ => .value (.same v)

theorem objects_refl (v : Json) : List.Forall₂ (MembersAlike R) v.objects v.objects :=
  List.forall₂_same.2 fun ms _ => MembersAlike.refl ms

/-! ## Members -/

/-- A name is found in both objects or in neither. -/
theorem lookup_alike {ms ns : List (Text × Json)} (alike : MembersAlike R ms ns) (key : Text) :
    Option.Rel (fun v w => MemberAlike R (Alike R) (key, v) (key, w)) (lookup key ms)
      (lookup key ns) := by
  induction alike with
  | nil => exact .none
  | @cons m n ms ns first _ ih =>
    obtain ⟨k, v⟩ := m
    obtain ⟨l, w⟩ := n
    have same : k = l := by cases first <;> rfl
    subst same
    simp only [lookup]
    by_cases found : k = key
    · subst found
      simp only [if_pos]
      exact .some first
    · simp only [if_neg found]
      exact ih

theorem get_alike {ms ns : List (Text × Json)} (alike : MembersAlike R ms ns) (key : String) :
    MemberAlike R (Alike R) (key.toList, get ms key) (key.toList, get ns key) := by
  unfold get
  have related := lookup_alike alike key.toList
  cases found : lookup key.toList ms <;> cases found' : lookup key.toList ns <;>
    rw [found, found'] at related <;> cases related
  · exact .value (.same null)
  · assumption

theorem MemberAlike.alike {names : List Text} (named : ∀ k s t, R k s t → k ∈ names) {k : Text}
    {v w : Json} (member : MemberAlike R (Alike R) (k, v) (k, w)) (other : k ∉ names) :
    Alike R v w := by
  cases member with
  | text differ => exact absurd (named k _ _ differ) other
  | value alike => exact alike

/-! ## Lists -/

theorem objects_alike {v w : Json} (alike : Alike R v w) :
    List.Forall₂ (MembersAlike R) v.objects w.objects := by
  cases alike with
  | same => exact objects_refl v
  | obj _ => exact .nil
  | arr items =>
    refine List.rel_filterMap ?_ items
    intro v w alike
    cases alike with
    | obj members => exact .some members
    | arr _ => exact .none
    | same =>
      cases v with
      | obj ms => exact .some (MembersAlike.refl ms)
      | _ => exact .none

end ParcelStatus.Json
