import ParcelStatus.Text.Digit
import Mathlib.Tactic.IntervalCases

/-!
# Rows of digits

What rows of decimal digits write, and the rows that numbers are written as.

* `digitsValue?_isSome_iff` — a text writes a number when all its characters are digits;
* `digitsValue?_padZeros_ofNat` — the digits of a number write it, with zeros in front or without;
* `length_padZeros_ofNat` — a number below a power of ten fits into so many digits.
-/

namespace ParcelStatus.Text

theorem digitsValueFrom_append (n : Nat) (s t : Text) :
    digitsValueFrom n (s ++ t) = (digitsValueFrom n s).bind fun m => digitsValueFrom m t := by
  induction s generalizing n with
  | nil => rfl
  | cons c r ih =>
    rw [List.cons_append, digitsValueFrom, digitsValueFrom]
    cases digitValue? c with
    | none => rfl
    | some d => exact ih (10 * n + d)

theorem digitsValueFrom_isSome_iff (n : Nat) (t : Text) :
    (digitsValueFrom n t).isSome = true ↔ ∀ c ∈ t, isDecimal c = true := by
  induction t generalizing n with
  | nil => simp [digitsValueFrom]
  | cons c r ih =>
    rw [digitsValueFrom, List.forall_mem_cons, isDecimal]
    cases digitValue? c with
    | none => simp
    | some d => simp [ih]

theorem digitsValue?_isSome_iff (t : Text) :
    (digitsValue? t).isSome = true ↔ ∀ c ∈ t, isDecimal c = true :=
  digitsValueFrom_isSome_iff 0 t

theorem isDecimal_of_digitsValue? {t : Text} {n : Nat} (value : digitsValue? t = some n) :
    ∀ c ∈ t, isDecimal c = true :=
  (digitsValue?_isSome_iff t).1 (by simp [value])

/-! ## Digits of numbers -/

theorem digitValue?_digitChar {n : Nat} (digit : n < 10) :
    digitValue? n.digitChar = some n := by
  interval_cases n <;> decide

theorem digitsValue?_ofNat (n : Nat) : digitsValue? (ofNat n) = some n := by
  unfold digitsValue? ofNat
  induction n using Nat.strongRecOn with
  | _ n ih =>
    rw [Nat.toDigits_eq_if (by decide)]
    split
    · rename_i digit
      simp [digitsValueFrom, digitValue?_digitChar digit]
    · rename_i more
      have smaller : n / 10 < n := by omega
      have last : n % 10 < 10 := Nat.mod_lt n (by decide)
      have whole : 10 * (n / 10) + n % 10 = n := by omega
      rw [digitsValueFrom_append, ih (n / 10) smaller]
      simp [digitsValueFrom, digitValue?_digitChar last, whole]

theorem isDigit_of_mem_ofNat {n : Nat} {c : Char} (member : c ∈ ofNat n) : c.isDigit = true :=
  Nat.isDigit_of_mem_toDigits (by decide) (by decide) member

theorem digitsValue?_padZeros_ofNat (width n : Nat) :
    digitsValue? (padZeros width (ofNat n)) = some n := by
  have zeros (k : Nat) : digitsValueFrom 0 (List.replicate k '0') = some 0 := by
    induction k with
    | zero => rfl
    | succ k ih => exact ih
  rw [padZeros, digitsValue?, digitsValueFrom_append, zeros, Option.bind_some]
  exact digitsValue?_ofNat n

theorem isDigit_of_mem_padZeros_ofNat {width n : Nat} {c : Char}
    (member : c ∈ padZeros width (ofNat n)) : c.isDigit = true := by
  rcases List.mem_append.1 member with zero | digit
  · rw [List.eq_of_mem_replicate zero]
    decide
  · exact isDigit_of_mem_ofNat digit

theorem length_padZeros_ofNat {width n : Nat} (positive : 0 < width) (fits : n < 10 ^ width) :
    (padZeros width (ofNat n)).length = width := by
  have short : (ofNat n).length ≤ width := (Nat.length_toDigits_le_iff (by decide) positive).2 fits
  rw [padZeros, List.length_append, List.length_replicate]
  omega

end ParcelStatus.Text
