import ParcelStatus.Number.Numeral
import ParcelStatus.Proofs.Text.Digits
import ParcelStatus.Proofs.Text.Words

/-!
# Written whole numbers

A row of digits behind a sign, or without one, is read as the number that it writes, unless it has
more digits than a whole number may have.

* `Writes` — the texts that write a whole number;
* `isBlank_of_isDecimal` — no digit of any script is a blank;
* `Writes.int` — such a text is read as its number.
-/

namespace ParcelStatus.Numeral

open Text

/-! ## Texts that write a number -/

/-- Digits that write the number, no more of them than a whole number may have. -/
structure Digits (t : Text) (n : Nat) : Prop where
  nonempty : t ≠ []
  short : t.length ≤ maxDigits
  value : digitsValue? t = some n

/-- The text writes the whole number in digits, with a sign or without. -/
inductive Writes : Text → Int → Prop where
  | plain {t : Text} {n : Nat} : Digits t n → Writes t n
  | positive {t : Text} {n : Nat} : Digits t n → Writes ('+' :: t) n
  | negative {t : Text} {n : Nat} : Digits t n → Writes ('-' :: t) (-n)

/-! ## Characters -/

theorem isBlank_of_zeros : ∀ z ∈ digitZeros, ∀ d < 10, isBlank (Char.ofNat (z + d)) = false := by
  decide +kernel

/-- A digit stands less than ten places behind the zero of its script. -/
theorem exists_zero_of_isDecimal {c : Char} (decimal : isDecimal c = true) :
    ∃ z ∈ digitZeros, z ≤ c.toNat ∧ c.toNat < z + 10 := by
  unfold isDecimal digitValue? at decimal
  split at decimal
  · split at decimal
    next digit =>
      simp only [Char.isDigit, Bool.and_eq_true, decide_eq_true_eq] at digit
      have bounds : 48 ≤ c.toNat ∧ c.toNat ≤ 57 := digit
      exact ⟨0x30, by decide, by omega, by omega⟩
    next => cases decimal
  · rw [Option.isSome_map, Option.isSome_iff_exists] at decimal
    obtain ⟨z, found⟩ := decimal
    have near := List.find?_some found
    simp only [Bool.and_eq_true, decide_eq_true_eq] at near
    exact ⟨z, List.mem_of_find?_eq_some found, near⟩

theorem isBlank_of_isDecimal {c : Char} (decimal : isDecimal c = true) : isBlank c = false := by
  obtain ⟨z, member, least, below⟩ := exists_zero_of_isDecimal decimal
  have solid := isBlank_of_zeros z member (c.toNat - z) (by omega)
  rwa [Nat.add_sub_cancel' least, Char.ofNat_toNat] at solid

/-! ## Reading -/

/-- A word has no blanks around it. -/
theorem body_of_word {t : Text} (word : Word t) : body t = t := by
  have kept {s : Text} (inner : ∀ c ∈ s, isBlank c = false) : s.dropWhile isMargin = s := by
    cases s with
    | nil => rfl
    | cons c s =>
      have first : isBlank c = false := inner c List.mem_cons_self
      exact List.dropWhile_cons_of_neg (by simp [isMargin, first])
  rw [body, kept word.solid, kept (by simpa using word.solid), List.reverse_reverse]

theorem dropUnderscores_of_decimal {t : Text} (decimal : ∀ c ∈ t, isDecimal c = true)
    (afterDigit : Bool) : dropUnderscores afterDigit t = some t := by
  induction t generalizing afterDigit with
  | nil => rfl
  | cons c t ih =>
    obtain ⟨first, rest⟩ := List.forall_mem_cons.1 decimal
    have notMark : c ≠ '_' := by
      rintro rfl
      exact absurd first (by decide)
    simp [dropUnderscores, ih rest]

namespace Digits

variable {t : Text} {n : Nat}

theorem decimal (digits : Digits t n) : ∀ c ∈ t, isDecimal c = true :=
  isDecimal_of_digitsValue? digits.value

theorem solid (digits : Digits t n) : ∀ c ∈ t, isBlank c = false :=
  fun c member => isBlank_of_isDecimal (digits.decimal c member)

/-- Digits behind a sign, or without one, are read as the number with this sign. -/
theorem int_eq (digits : Digits t n) {written : Text} {negative : Bool}
    (word : Word written) (parts : splitSign written = (negative, t)) :
    int written = .ok (if negative then -(n : Int) else n) := by
  have whole : (t.takeWhile fun c => isDecimal c || c = '_') = t :=
    List.takeWhile_eq_self_iff.2 fun c member => by simp [digits.decimal c member]
  have short : ¬maxDigits < t.length := Nat.not_lt.2 digits.short
  unfold int
  simp only [body_of_word word, parts, whole, dropUnderscores_of_decimal digits.decimal, short,
    digits.value, digits.nonempty, List.isEmpty_iff, ne_eq, not_true_eq_false, or_self, if_false]

end Digits

theorem Writes.word {t : Text} {n : Int} (writes : Writes t n) : Word t := by
  cases writes with
  | plain digits => exact ⟨digits.nonempty, digits.solid⟩
  | positive digits =>
    exact ⟨List.cons_ne_nil _ _, List.forall_mem_cons.2 ⟨by decide, digits.solid⟩⟩
  | negative digits =>
    exact ⟨List.cons_ne_nil _ _, List.forall_mem_cons.2 ⟨by decide, digits.solid⟩⟩

/-- A text that writes a number is read as this number. -/
theorem Writes.int {t : Text} {n : Int} (writes : Writes t n) : Numeral.int t = .ok n := by
  have word := writes.word
  cases writes with
  | plain digits =>
    have unsigned : splitSign t = (false, t) := by
      unfold splitSign
      split
      next => exact absurd (digits.decimal '-' List.mem_cons_self) (by decide)
      next => exact absurd (digits.decimal '+' List.mem_cons_self) (by decide)
      next => rfl
    exact digits.int_eq word unsigned
  | positive digits => exact digits.int_eq word rfl
  | negative digits => exact digits.int_eq word rfl

end ParcelStatus.Numeral
