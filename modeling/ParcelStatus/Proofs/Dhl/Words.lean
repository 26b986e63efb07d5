import ParcelStatus.Dhl.Code
import ParcelStatus.Proofs.Text.Phrase
import Mathlib.Data.List.Infix

/-!
# Words around words

More words can only add phrases to a text. So the first rule that has a phrase in it can only move
up, and the denial of a delivery, which stands above the delivery, is never lost.

* `rulePlace` — the place of the first rule that has a phrase in a text;
* `statusOfText_eq` — the state of a text is the one at this place;
* `rulePlace_le_of_within` — a text around another has its first rule at the same place or above;
* `statusOfText_eq_noEntregado_iff`, `statusOfText_eq_entregado_iff` — the phrases that tell the
  first two states;
* `statusOfText_around` — what words around a text do to its state.
-/

namespace ParcelStatus.Dhl

open Text Status

/-! ## The first rule -/

/-- The place of the first rule that has a phrase in the text, the number of rules if none has. -/
def rulePlace (t : Text) : Nat := phraseRules.findIdx (applies (fold t))

/-- The state that the rule at a place tells; below all rules a shipment is taken to be under way. -/
def statusAt (place : Nat) : Status := (phraseRules[place]?.map (·.2)).getD pendiente

theorem statusOfText_eq (t : Text) : statusOfText t = statusAt (rulePlace t) := by
  unfold statusOfText statusAt rulePlace
  rw [List.find?_eq_getElem?_findIdx]
  cases phraseRules[phraseRules.findIdx (applies (fold t))]? <;> rfl

theorem applies_iff {folded : Text} {rule : List Text × Status} :
    applies folded rule = true ↔ ∃ phrase ∈ rule.1, phrase <:+: folded := by
  simp only [applies, List.any_eq_true, occursIn_iff_infix]

theorem rulePlace_le_of_within {s t : Text} (within : s <:+: t) : rulePlace t ≤ rulePlace s := by
  refine List.findIdx_le_findIdx fun rule _ applied => ?_
  obtain ⟨phrase, listed, stands⟩ := applies_iff.1 applied
  exact applies_iff.2 ⟨phrase, listed, stands.trans (fold_within within)⟩

/-! ## Delivered or not -/

/-- The phrase that denies a delivery. -/
def denialPhrase : Text := "no entregado".toList

/-- The phrase that tells a delivery, which the denial ends with. -/
def deliveryPhrase : Text := "entregado".toList

theorem statusAt_eq_noEntregado_iff {place : Nat} : statusAt place = noEntregado ↔ place = 0 := by
  rcases place with _ | _ | _ | _ | _ | below <;> simp [statusAt, phraseRules]

theorem statusAt_eq_entregado_iff {place : Nat} : statusAt place = entregado ↔ place = 1 := by
  rcases place with _ | _ | _ | _ | _ | below <;> simp [statusAt, phraseRules]

/-- The denial stands above the delivery, and both above all other rules. -/
theorem phraseRules_eq : phraseRules =
    ([denialPhrase], noEntregado) :: ([deliveryPhrase], entregado) :: phraseRules.drop 2 := rfl

theorem applies_single {folded phrase : Text} {s : Status} :
    applies folded ([phrase], s) = true ↔ phrase <:+: folded := by
  simp only [applies_iff, List.mem_singleton, exists_eq_left]

theorem rulePlace_eq_zero_iff {t : Text} : rulePlace t = 0 ↔ denialPhrase <:+: fold t := by
  rw [rulePlace, phraseRules_eq, List.findIdx_cons, ← applies_single (s := noEntregado)]
  cases applies (fold t) ([denialPhrase], noEntregado) <;> simp

theorem rulePlace_eq_one_iff {t : Text} :
    rulePlace t = 1 ↔ deliveryPhrase <:+: fold t ∧ ¬denialPhrase <:+: fold t := by
  rw [rulePlace, phraseRules_eq, List.findIdx_cons, List.findIdx_cons,
    ← applies_single (s := entregado), ← applies_single (s := noEntregado)]
  cases applies (fold t) ([denialPhrase], noEntregado) <;>
    cases applies (fold t) ([deliveryPhrase], entregado) <;> simp

theorem statusOfText_eq_noEntregado_iff {t : Text} :
    statusOfText t = noEntregado ↔ denialPhrase <:+: fold t := by
  rw [statusOfText_eq, statusAt_eq_noEntregado_iff, rulePlace_eq_zero_iff]

theorem statusOfText_eq_entregado_iff {t : Text} :
    statusOfText t = entregado ↔ deliveryPhrase <:+: fold t ∧ ¬denialPhrase <:+: fold t := by
  rw [statusOfText_eq, statusAt_eq_entregado_iff, rulePlace_eq_one_iff]

/-! ## Words in front and behind -/

theorem statusOfText_of_denied {s t : Text} (within : s <:+: t)
    (denied : statusOfText s = noEntregado) : statusOfText t = noEntregado := by
  rw [statusOfText_eq_noEntregado_iff] at denied ⊢
  exact denied.trans (fold_within within)

theorem statusOfText_of_delivered {s t : Text} (within : s <:+: t)
    (told : statusOfText s = entregado) :
    statusOfText t = entregado ∨ statusOfText t = noEntregado := by
  have stands : deliveryPhrase <:+: fold t :=
    (statusOfText_eq_entregado_iff.1 told).1.trans (fold_within within)
  by_cases denied : denialPhrase <:+: fold t
  · exact .inr (statusOfText_eq_noEntregado_iff.2 denied)
  · exact .inl (statusOfText_eq_entregado_iff.2 ⟨stands, denied⟩)

/-- A text tells a delivery when it has the phrase for one and no denial of it, in whatever case. The
rule that decides two texts put together stands at the place of the rule that decides one of them, or
above. So a denial stays one under any words in front and behind, and a delivery stays one or is
denied. -/
theorem statusOfText_around :
    (∀ t, statusOfText t = entregado ↔ deliveryPhrase <:+: fold t ∧ ¬denialPhrase <:+: fold t) ∧
      (∀ t, statusOfText t = statusAt (rulePlace t)) ∧
      (∀ a b, rulePlace (a ++ b) ≤ rulePlace a ∧ rulePlace (a ++ b) ≤ rulePlace b) ∧
      (∀ front t behind, statusOfText t = noEntregado →
        statusOfText (front ++ t ++ behind) = noEntregado) ∧
      ∀ front t behind, statusOfText t = entregado →
        statusOfText (front ++ t ++ behind) = entregado ∨
          statusOfText (front ++ t ++ behind) = noEntregado := by
  have inside (front t behind : Text) : t <:+: front ++ t ++ behind := List.infix_append _ _ _
  refine ⟨?_, statusOfText_eq, ?_, ?_, ?_⟩
  · intro t
    exact statusOfText_eq_entregado_iff
  · intro a b
    have front : a <:+: a ++ b := (List.prefix_append a b).isInfix
    have behind : b <:+: a ++ b := (List.suffix_append a b).isInfix
    exact ⟨rulePlace_le_of_within front, rulePlace_le_of_within behind⟩
  · intro front t behind
    exact statusOfText_of_denied (inside front t behind)
  · intro front t behind
    exact statusOfText_of_delivered (inside front t behind)

/-- A denial can come about where two texts meet, and no word for a delivery behind it undoes it. -/
theorem statusOfText_around_of_seam :
    statusOfText "ENTREGADO".toList = entregado ∧
      statusOfText ("Paquete NO ".toList ++ "ENTREGADO".toList ++ " hoy".toList) = noEntregado ∧
      statusOfText ("Ruta 7: ".toList ++ "Paquete NO ENTREGADO hoy".toList
        ++ ", entregado ayer".toList) = noEntregado := by
  obtain ⟨delivery, -, -, stays, changes⟩ := statusOfText_around
  have told : statusOfText "ENTREGADO".toList = entregado := (delivery _).2 (by decide +kernel)
  have denied : statusOfText ("Paquete NO ".toList ++ "ENTREGADO".toList ++ " hoy".toList) =
      noEntregado := by
    refine (changes _ _ _ told).resolve_left fun same => ((delivery _).1 same).2 ?_
    decide +kernel
  exact ⟨told, denied, stays "Ruta 7: ".toList _ ", entregado ayer".toList denied⟩

end ParcelStatus.Dhl
