import ParcelStatus.Json.Basic
import Mathlib.Data.List.Forall2

/-!
# Lists with strays

A list that should hold objects may hold anything. The values in it that are no objects are strays,
and a reader that looks at the objects only cannot tell whether they are there.

* `WithStrays` — a list with strays put in at any places;
* `MembersVary`, `ObjectVaries`, `ListVaries` — objects that differ under some names only, and lists
  of such objects with strays;
* `get_vary`, `get_of_fixed` — the members of objects that vary;
* `objects_vary` — a list keeps its objects, however many strays it gets.
-/

namespace ParcelStatus.Json

def isObject : Json → Bool
  | obj _ => true
  | _ => false

/-! ## Objects that vary -/

/-- How the value of a name may vary. -/
abbrev Variation := Text → Json → Json → Prop

/-- No value may vary. -/
def fixed : Variation := fun _ _ _ => False

/-- Members of the same names in the same order, whose values vary where their name lets them. -/
def MembersVary (Q : Variation) (ms ns : List (Text × Json)) : Prop :=
  List.Forall₂ (fun m n => m.1 = n.1 ∧ (m.2 = n.2 ∨ Q m.1 m.2 n.2)) ms ns

/-- The same value, or objects whose members vary. -/
inductive ObjectVaries (Q : Variation) : Json → Json → Prop where
  | same (v : Json) : ObjectVaries Q v v
  | members {ms ns : List (Text × Json)} (vary : MembersVary Q ms ns) :
      ObjectVaries Q (.obj ms) (.obj ns)

variable {Q : Variation}

theorem MembersVary.refl (ms : List (Text × Json)) : MembersVary Q ms ms :=
  List.forall₂_same.2 fun _ _ => ⟨rfl, .inl rfl⟩

theorem MembersVary.eq_of_fixed {ms ns : List (Text × Json)} (vary : MembersVary fixed ms ns) :
    ms = ns := by
  unfold MembersVary at vary
  induction vary with
  | nil => rfl
  | cons first _ ih =>
    obtain ⟨name, value | none⟩ := first
    · rw [Prod.ext name value, ih]
    · exact absurd none id

theorem lookup_vary {ms ns : List (Text × Json)} (vary : MembersVary Q ms ns) (key : Text) :
    lookup key ms = lookup key ns ∨
      ∃ v w, lookup key ms = some v ∧ lookup key ns = some w ∧ Q key v w := by
  unfold MembersVary at vary
  induction vary with
  | nil => exact .inl rfl
  | @cons m n ms ns first _ ih =>
    obtain ⟨k, v⟩ := m
    obtain ⟨l, w⟩ := n
    obtain ⟨rfl, values⟩ := first
    simp only [lookup]
    by_cases found : k = key
    · subst found
      simp only [if_pos]
      rcases values with rfl | varies
      · exact .inl rfl
      · exact .inr ⟨v, w, rfl, rfl, varies⟩
    · simp only [if_neg found]
      exact ih

theorem get_vary {ms ns : List (Text × Json)} (vary : MembersVary Q ms ns) (key : String) :
    get ms key = get ns key ∨ Q key.toList (get ms key) (get ns key) := by
  unfold get
  rcases lookup_vary vary key.toList with same | ⟨v, w, left, right, varies⟩
  · rw [same]
    exact .inl rfl
  · rw [left, right]
    exact .inr varies

theorem get_of_fixed {ms ns : List (Text × Json)} (vary : MembersVary Q ms ns) {key : String}
    (fixed : ∀ v w, ¬Q key.toList v w) : get ms key = get ns key :=
  (get_vary vary key).resolve_right (fixed _ _)

/-! ## Lists with strays -/

/-- The second list has the values of the first one, which may vary, and strays in between. -/
inductive WithStrays (P : Json → Json → Prop) : List Json → List Json → Prop where
  | nil : WithStrays P [] []
  | keep {v w : Json} {vs ws : List Json} (varies : P v w) (rest : WithStrays P vs ws) :
      WithStrays P (v :: vs) (w :: ws)
  | stray {w : Json} {vs ws : List Json} (stray : w.isObject = false)
      (rest : WithStrays P vs ws) : WithStrays P vs (w :: ws)

/-- The same value, or lists of objects that vary, the second one with strays. -/
inductive ListVaries (Q : Variation) : Json → Json → Prop where
  | same (v : Json) : ListVaries Q v v
  | strays {vs ws : List Json} (strays : WithStrays (ObjectVaries Q) vs ws) :
      ListVaries Q (.arr vs) (.arr ws)

theorem WithStrays.behind {P : Json → Json → Prop} {vs ws : List Json} (strays : List Json)
    (stray : ∀ w ∈ strays, w.isObject = false) (rest : WithStrays P vs ws) :
    WithStrays P vs (strays ++ ws) := by
  induction strays with
  | nil => exact rest
  | cons w strays ih =>
    exact .stray (stray w List.mem_cons_self) (ih fun w' inside => stray w' (.tail w inside))

theorem objects_of_stray {v : Json} (stray : v.isObject = false) (vs : List Json) :
    (arr (v :: vs)).objects = (arr vs).objects := by
  cases v with
  | obj ms => simp [isObject] at stray
  | _ => rfl

theorem WithStrays.objects {vs ws : List Json} (strays : WithStrays (ObjectVaries Q) vs ws) :
    List.Forall₂ (MembersVary Q) (arr vs).objects (arr ws).objects := by
  induction strays with
  | nil => exact .nil
  | @stray w vs ws stray rest ih =>
    rw [objects_of_stray stray]
    exact ih
  | @keep v w vs ws varies rest ih =>
    cases varies with
    | members vary => exact .cons vary ih
    | same =>
      -- What is kept is an object or a stray of the first list already.
      cases v with
      | obj ms => exact .cons (MembersVary.refl ms) ih
      | _ => exact ih

theorem objects_vary {v w : Json} (vary : ListVaries Q v w) :
    List.Forall₂ (MembersVary Q) v.objects w.objects := by
  cases vary with
  | strays strays => exact strays.objects
  | same => exact List.forall₂_same.2 fun ms _ => MembersVary.refl ms

/-- Strays alone leave the objects of a list as they are. -/
theorem objects_of_fixed {v w : Json} (vary : ListVaries fixed v w) : v.objects = w.objects := by
  have same : List.Forall₂ (· = ·) v.objects w.objects :=
    (objects_vary vary).imp fun _ _ => MembersVary.eq_of_fixed
  rwa [List.forall₂_eq_eq_eq] at same

end ParcelStatus.Json
