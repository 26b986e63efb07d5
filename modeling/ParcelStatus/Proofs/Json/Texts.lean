import ParcelStatus.Json.Display

/-!
# Texts of values

When the text that stands for a value is empty, and how it begins.

* `shown_ne_nil` — a value is never shown by nothing;
* `textOrBlank_eq_nil_iff` — the text of a value is empty when the value is blank, and only then;
* `blankTexts`, `asText_mem_blankTexts` — the texts of all blank values.
-/

namespace ParcelStatus

open Text

/-! ## Written numbers -/

theorem Notation.writePositional_ne_nil (n : Notation) (digits : Text) (place : Int) :
    n.writePositional digits place ≠ [] := by
  unfold Notation.writePositional
  split
  · exact List.cons_ne_nil _ _
  · simp only
    split
    · -- Without any digits, the whole part is filled up with at least one zero.
      cases digits <;> simp [List.replicate_succ]
    · simp

theorem Notation.writeDecimal_ne_nil (n : Notation) (d : Decimal) : n.writeDecimal d ≠ [] := by
  unfold Notation.writeDecimal
  simp only
  split
  · exact n.writePositional_ne_nil _ _
  · simp [Notation.writeExponent]

theorem Notation.write_plain_ne_nil (x : Binary64) : Notation.plain.write x ≠ [] := by
  cases x with
  | nan => decide
  | infinite negative => cases negative <;> decide
  | finite negative m e =>
    simp only [Notation.write, ne_eq, List.append_eq_nil_iff, not_and]
    intro _
    split
    · exact Notation.plain.writePositional_ne_nil _ _
    · exact Notation.plain.writeDecimal_ne_nil _

theorem Text.ofNat_ne_nil (n : Nat) : Text.ofNat n ≠ [] := Nat.toDigits_ne_nil

theorem Text.ofInt_ne_nil (n : Int) : Text.ofInt n ≠ [] := by
  cases n with
  | ofNat n => exact Text.ofNat_ne_nil n
  | negSucc n => exact List.cons_ne_nil _ _

namespace Json

/-! ## Texts of values -/

theorem shown_ne_nil (v : Json) : v.shown ≠ [] := by
  cases v with
  | bool b => cases b <;> simp [shown]
  | int n => simpa [shown] using Text.ofInt_ne_nil n
  | float x => simpa [shown] using Notation.write_plain_ne_nil x
  | str t => simp [shown, quoted]
  | _ => simp [shown]

theorem asText_ne_nil_of_isTruthy {v : Json} (truthy : v.isTruthy = true) : v.asText ≠ [] := by
  cases v with
  | str t => simpa [isTruthy] using truthy
  | _ => exact shown_ne_nil _

theorem textOrBlank_eq_nil_iff {v : Json} : v.textOrBlank = [] ↔ v.isTruthy = false := by
  unfold textOrBlank
  cases truthy : v.isTruthy with
  | false => simp
  | true => simpa using asText_ne_nil_of_isTruthy truthy

theorem isTruthy_orElse (v w : Json) :
    (v.orElse w).isTruthy = (v.isTruthy || w.isTruthy) := by
  unfold orElse
  cases truthy : v.isTruthy <;> simp [truthy]

/-- The texts of the blank values. -/
def blankTexts : List Text :=
  ["None".toList, "False".toList, "0".toList, "0.0".toList, "-0.0".toList, [], "[]".toList,
   "\x7b\x7d".toList]

theorem asText_mem_blankTexts {v : Json} (blank : v.isTruthy = false) :
    v.asText ∈ blankTexts := by
  cases v with
  | null => decide
  | bool b =>
    cases b with
    | false => decide
    | true => simp [isTruthy] at blank
  | int n =>
    have zero : n = 0 := by simpa [isTruthy] using blank
    subst zero
    decide
  | float x =>
    cases x with
    | finite negative m e =>
      cases m with
      | zero =>
        -- The exponent of a zero is not written.
        cases negative with
        | false =>
          show "0.0".toList ∈ blankTexts
          decide
        | true =>
          show "-0.0".toList ∈ blankTexts
          decide
      | succ m => simp [isTruthy, Binary64.isZero] at blank
    | _ => simp [isTruthy, Binary64.isZero] at blank
  | str t =>
    have empty : t = [] := by simpa [isTruthy] using blank
    subst empty
    decide
  | arr items =>
    have empty : items = [] := by simpa [isTruthy] using blank
    subst empty
    decide
  | obj members =>
    have empty : members = [] := by simpa [isTruthy] using blank
    subst empty
    decide

end Json

end ParcelStatus
