import ParcelStatus.Number.Shortest
import Mathlib.Algebra.Group.Nat.Defs
import Mathlib.Tactic.SplitIfs

/-!
# Whole numbers as binary numbers

A whole number of at most 53 bits is a number of the double format, so nothing of it is lost. It has
no more than sixteen digits, so keeping that many changes nothing either.

* `Binary64.ofRatio_whole` — the form of such a number;
* `Binary64.toInt?_ofInt` — it is read back;
* `Binary64.keepDigits_ofInt` — its digits are kept.
-/

namespace ParcelStatus.Binary64

theorem roundQuotient_one (n : Nat) : roundQuotient n 1 = n := by
  simp [roundQuotient, Nat.mod_one]

theorem scaleDown_neg (num k : Nat) : scaleDown num 1 (-k) = (num <<< k, 1) := by
  unfold scaleDown
  split_ifs with zero
  · obtain rfl : k = 0 := by omega
    rfl
  · rw [Int.neg_neg, Int.toNat_natCast]

/-- The shift that gives a positive number 53 bits. -/
def fillShift (n : Nat) : Nat := 52 - Nat.log2 n

section Fill

variable {n : Nat} (positive : n ≠ 0) (small : n < 2 * leastFull)

include positive small

theorem log2_le : Nat.log2 n ≤ 52 := by
  have below : Nat.log2 n < 53 := (Nat.log2_lt positive).2 small
  omega

theorem leastFull_le_fill : leastFull ≤ n <<< fillShift n := by
  rw [Nat.shiftLeft_eq]
  calc leastFull = 2 ^ Nat.log2 n * 2 ^ fillShift n := by
        rw [← Nat.pow_add, fillShift, Nat.add_sub_cancel' (log2_le positive small)]
        rfl
    _ ≤ n * 2 ^ fillShift n := Nat.mul_le_mul_right _ (Nat.log2_self_le positive)

theorem fill_lt : n <<< fillShift n < 2 * leastFull := by
  rw [Nat.shiftLeft_eq]
  calc n * 2 ^ fillShift n < 2 ^ (Nat.log2 n + 1) * 2 ^ fillShift n :=
        Nat.mul_lt_mul_of_pos_right Nat.lt_log2_self (Nat.two_pow_pos _)
    _ = 2 * leastFull := by
        rw [← Nat.pow_add, fillShift, Nat.add_right_comm,
          Nat.add_sub_cancel' (log2_le positive small)]
        rfl

theorem exponentOf_whole : exponentOf n 1 = -fillShift n := by
  have low := log2_le positive small
  have full := leastFull_le_fill positive small
  have guess : (Nat.log2 n : Int) - Nat.log2 1 - 52 = -(fillShift n : Int) := by
    have one : Nat.log2 1 = 0 := by decide
    rw [fillShift, one]
    omega
  have least : minExponent ≤ -(fillShift n : Int) := by
    have bound : fillShift n ≤ 52 := Nat.sub_le 52 _
    show (-1074 : Int) ≤ _
    omega
  unfold exponentOf
  rw [guess]
  simp only [scaleDown_neg]
  rw [Nat.one_mul, if_neg (Nat.not_lt.2 full), Int.max_eq_right least]

/-- A whole number of at most 53 bits fills the significand by zeros behind it. -/
theorem ofRatio_whole (negative : Bool) :
    ofRatio negative n 1 = .finite negative (n <<< fillShift n) (-fillShift n) := by
  have below : n <<< fillShift n ≠ 2 * leastFull := Nat.ne_of_lt (fill_lt positive small)
  have range : ¬maxExponent < -(fillShift n : Int) := by
    show ¬(971 : Int) < _
    omega
  unfold ofRatio
  rw [if_neg positive, exponentOf_whole positive small]
  simp only [scaleDown_neg, roundQuotient_one, if_neg below]
  exact if_neg range

end Fill

theorem ratio_neg (m k : Nat) : ratio m (-k) = (m, 1 <<< k) := by
  unfold ratio
  split_ifs with zero
  · obtain rfl : k = 0 := by omega
    simp
  · rw [Int.neg_neg, Int.toNat_natCast]

/-- A whole number of at most 53 bits is read back. -/
theorem toInt?_ofInt {n : Int} (small : n.natAbs < 2 * leastFull) :
    (ofInt n).toInt? = some n := by
  by_cases zero : n.natAbs = 0
  · obtain rfl := Int.natAbs_eq_zero.1 zero
    decide
  · unfold ofInt
    rw [ofRatio_whole zero small, toInt?, ratio_neg]
    dsimp only
    rw [Nat.one_shiftLeft, Nat.shiftLeft_eq, Nat.mul_mod_left, if_pos rfl]
    have whole : ((n.natAbs * 2 ^ fillShift n.natAbs : Nat) : Int) /
        ((2 ^ fillShift n.natAbs : Nat) : Int) = n.natAbs := by
      rw [← Int.natCast_ediv, Nat.mul_div_cancel _ (Nat.two_pow_pos _)]
    rw [whole]
    congr 1
    split_ifs with negative
    · have below := of_decide_eq_true negative
      omega
    · have above : ¬n < 0 := by simpa using negative
      omega

/-! ## Decimal digits -/

theorem roundQuotient_mul (n : Nat) {den : Nat} (positive : 0 < den) :
    roundQuotient (n * den) den = n := by
  have half : ¬(den < 2 * 0 ∨ 2 * 0 = den ∧ n % 2 = 1) := by omega
  unfold roundQuotient
  rw [Nat.mul_mod_left, Nat.mul_div_cancel n positive]
  exact if_neg half

/-- A decimal whose value is a whole number: in units below one, with a bound for the zeros that are to
be moved, or in whole units. -/
inductive IsWhole (n : Nat) : Nat → Decimal → Prop where
  | small {bound j : Nat} (enough : j < bound) : IsWhole n bound ⟨n * 10 ^ (j + 1), -(j + 1 : Nat)⟩
  | large {bound q i : Nat} (same : q * 10 ^ i = n) : IsWhole n bound ⟨q, i⟩

/-- One zero moved. -/
theorem IsWhole.next {n bound : Nat} {d : Decimal} (whole : IsWhole n (bound + 1) d)
    (zero : d.digits % 10 = 0) : IsWhole n bound ⟨d.digits / 10, d.exponent + 1⟩ := by
  cases whole with
  | @small j enough =>
    have digits : n * 10 ^ (j + 1) / 10 = n * 10 ^ j := by
      rw [Nat.pow_succ, ← Nat.mul_assoc, Nat.mul_div_cancel _ (by decide)]
    have exponent : -((j + 1 : Nat) : Int) + 1 = -(j : Int) := by omega
    show IsWhole n bound ⟨n * 10 ^ (j + 1) / 10, -((j + 1 : Nat) : Int) + 1⟩
    rw [digits, exponent]
    cases j with
    | zero =>
      have same : n * 10 ^ 0 * 10 ^ 0 = n := by rw [Nat.pow_zero, Nat.mul_one, Nat.mul_one]
      exact .large same
    | succ j => exact .small (Nat.lt_of_succ_lt_succ enough)
  | @large q i same =>
    have digits : q / 10 * 10 ^ (i + 1) = n := by
      rw [Nat.pow_succ, Nat.mul_comm (10 ^ i), ← Nat.mul_assoc,
        Nat.div_mul_cancel (Nat.dvd_of_mod_eq_zero zero), same]
    exact .large digits

/-- Zeros are moved until the units are whole ones, and further as long as there are any. -/
theorem stripZeros_whole {n : Nat} (positive : n ≠ 0) {bound : Nat} {d : Decimal}
    (whole : IsWhole n bound d) :
    ∃ q i : Nat, stripZeros bound d = ⟨q, i⟩ ∧ q * 10 ^ i = n := by
  induction bound generalizing d with
  | zero =>
    cases whole with
    | small enough => cases enough
    | large same => exact ⟨_, _, rfl, same⟩
  | succ bound ih =>
    unfold stripZeros
    split
    case isTrue zeros => exact ih (whole.next zeros.2)
    case isFalse solid =>
      cases whole with
      | @small j enough =>
        -- Zeros are left to be moved, so the search does not stop here.
        apply absurd _ solid
        rw [Nat.pow_succ, ← Nat.mul_assoc]
        refine ⟨?_, Nat.mul_mod_left _ 10⟩
        exact Nat.mul_ne_zero (Nat.mul_ne_zero positive (Nat.ne_of_gt (Nat.pow_pos (by decide))))
          (by decide)
      | large same => exact ⟨_, _, rfl, same⟩

theorem inUnits_neg (num den j : Nat) : inUnits num den (-j) = (num * 10 ^ j, den) := by
  unfold inUnits
  split_ifs with zero
  · obtain rfl : j = 0 := by omega
    show (num, den * 1) = (num * 1, den)
    rw [Nat.mul_one, Nat.mul_one]
  · rw [Int.neg_neg, Int.toNat_natCast]
    rfl

theorem digitCount_le {n : Nat} (small : n < 2 * leastFull) : digitCount n ≤ 16 := by
  apply (Nat.length_toDigits_le_iff (by decide) (by decide)).2
  apply Nat.lt_trans small
  decide

theorem digitCount_pos (n : Nat) : 0 < digitCount n :=
  List.length_pos_iff.2 Nat.toDigits_ne_nil

section Kept

variable {n : Nat} (positive : n ≠ 0) (small : n < 2 * leastFull)

include positive small

/-- Sixteen digits of a whole number: all of its own, with zeros behind them. -/
theorem significant_whole :
    ∃ q i : Nat, significant 16 (n <<< fillShift n) (-fillShift n) = ⟨q, i⟩ ∧ q * 10 ^ i = n := by
  have shift : 0 < 1 <<< fillShift n := by
    rw [Nat.one_shiftLeft]
    exact Nat.two_pow_pos _
  have scaled : n <<< fillShift n = n * 1 <<< fillShift n := by
    rw [Nat.one_shiftLeft, Nat.shiftLeft_eq]
  have place : leadingPlace (n <<< fillShift n) (1 <<< fillShift n) = (digitCount n : Int) - 1 := by
    have large : 1 <<< fillShift n ≤ n <<< fillShift n := by
      rw [scaled]
      exact Nat.le_mul_of_pos_left _ (Nat.pos_of_ne_zero positive)
    unfold leadingPlace
    rw [if_pos large, scaled, Nat.mul_div_cancel n shift]
  have some_ := digitCount_pos n
  have few := digitCount_le small
  obtain ⟨j, unit⟩ : ∃ j : Nat, digitCount n + j = 16 := ⟨16 - digitCount n, by omega⟩
  have exponent : (digitCount n : Int) - 1 - ((16 : Nat) : Int) + 1 = -(j : Int) := by omega
  have rounded : roundQuotient (n <<< fillShift n * 10 ^ j) (1 <<< fillShift n) = n * 10 ^ j := by
    rw [scaled, Nat.mul_right_comm, roundQuotient_mul _ shift]
  unfold significant
  simp only [ratio_neg, place, exponent, inUnits_neg, rounded]
  apply stripZeros_whole positive
  cases j with
  | zero =>
    have same : n * 10 ^ 0 * 10 ^ 0 = n := by rw [Nat.pow_zero, Nat.mul_one, Nat.mul_one]
    exact .large same
  | succ j =>
    have enough : j < 20 := by omega
    exact .small enough

theorem keepDigits_ofRatio (negative : Bool) :
    (ofRatio negative n 1).keepDigits 16 = ofRatio negative n 1 := by
  obtain ⟨q, i, digits, same⟩ := significant_whole positive small
  have filled : n <<< fillShift n ≠ 0 := by
    have full := leastFull_le_fill positive small
    have some_ : 0 < leastFull := by decide
    omega
  have large : q ≠ 0 := by
    rintro rfl
    rw [Nat.zero_mul] at same
    exact positive same.symm
  have power : 0 < 10 ^ i := Nat.pow_pos (by decide)
  have few : digitCount q ≤ 16 := by
    apply digitCount_le (Nat.lt_of_le_of_lt _ small)
    rw [← same]
    exact Nat.le_mul_of_pos_right q power
  have below : i < 16 := by
    have least : 10 ^ i < 10 ^ 16 :=
      calc 10 ^ i ≤ q * 10 ^ i := Nat.le_mul_of_pos_left _ (Nat.pos_of_ne_zero large)
        _ = n := same
        _ < 2 * leastFull := small
        _ < 10 ^ 16 := by decide
    exact (Nat.pow_lt_pow_iff_right (by decide)).1 least
  have notSmall : ¬(q = 0 ∨ (digitCount q : Int) + i < -400) := by omega
  have notLarge : ¬400 < (digitCount q : Int) + i := by omega
  rw [ofRatio_whole positive small, keepDigits, if_neg filled, digits]
  show ofDecimal negative q i = _
  unfold ofDecimal
  dsimp only
  rw [if_neg notSmall, if_neg notLarge, if_pos (Int.natCast_nonneg i), Int.toNat_natCast]
  show ofRatio negative (q * 10 ^ i) 1 = _
  rw [same, ofRatio_whole positive small]

end Kept

/-- Sixteen digits of a whole number of at most 53 bits are the number. -/
theorem keepDigits_ofInt {n : Int} (small : n.natAbs < 2 * leastFull) :
    (ofInt n).keepDigits 16 = ofInt n := by
  by_cases zero : n.natAbs = 0
  · unfold ofInt ofRatio
    rw [if_pos zero, keepDigits, if_pos rfl]
  · exact keepDigits_ofRatio zero small _

end ParcelStatus.Binary64
