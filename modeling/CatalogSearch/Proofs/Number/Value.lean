/-
**The exact values of numbers.**

Numbers are compared by their nearest doubles. The values of doubles are ordered as they are compared, and
rounding an integer to a double keeps the order, so of two numbers that are told apart the greater one is the
greater in value. Two integers that have one nearest double are not told apart.

* `Number.value` — what a number is worth, without rounding;
* `Binary64.units` — the magnitude in multiples of the least positive double, which is what makes values of
  doubles comparable as naturals: it grows with the magnitude;
* `Binary64.order_lt_iff` — doubles are ordered as their values are;
* `Rounding.roundQuotient_mono`, `Binary64.order_ofInt_mono` — rounding keeps the order;
* `Binary64.value_ofInt` — and keeps the value of an integer up to `2 ^ 53`;
* `Binary64.isWhole_of_value_eq` — a double that is worth an integer has no fraction, and is truncated to it.
-/

import CatalogSearch.Number.Basic
import Mathlib.Algebra.Order.Field.Rat
import Mathlib.Tactic.Linarith
import Mathlib.Tactic.Positivity

namespace CatalogSearch

/-- The value of a double: its significand, scaled by a power of two, with its sign. -/
def Binary64.value (x : Binary64) : ℚ :=
  (if x.negative then -1 else 1) * (x.significand * 2 ^ x.exponent)

/-- The value of a number. -/
def Number.value : Number → ℚ
  | .int n => n.val
  | .float x => x.value

theorem zpow_eq_div {b : ℚ} (nonzero : b ≠ 0) (z : ℤ) : b ^ z = b ^ z.toNat / b ^ (-z).toNat := by
  rw [← zpow_natCast_sub_natCast₀ nonzero, Int.toNat_sub_toNat_neg]

theorem cast_twoTo (k : ℕ) : ((twoTo k : ℕ) : ℚ) = 2 ^ k := Nat.cast_pow 2 k

/-! ### Rounding -/

namespace Rounding

variable {num other den : Nat}

theorem le_roundQuotient (num den : Nat) : num / den ≤ roundQuotient num den := by
  unfold roundQuotient
  grind

theorem roundQuotient_le (num den : Nat) : roundQuotient num den ≤ num / den + 1 := by
  unfold roundQuotient
  grind

@[simp] theorem roundQuotient_one (num : Nat) : roundQuotient num 1 = num := by
  simp [roundQuotient, Nat.mod_one]

/-- **Rounding keeps the order**: with one quotient the greater has the greater rest. -/
theorem roundQuotient_mono (le : num ≤ other) : roundQuotient num den ≤ roundQuotient other den := by
  rcases (Nat.div_le_div_right le : num / den ≤ other / den).lt_or_eq with less | same
  · have below := roundQuotient_le num den
    have above := le_roundQuotient other den
    omega
  · have rest : num % den ≤ other % den := by
      have first := Nat.div_add_mod num den
      have second := Nat.div_add_mod other den
      rw [same] at first
      omega
    simp only [roundQuotient, same]
    grind

theorem leadingExponent_one (positive : num ≠ 0) : leadingExponent num 1 = num.log2 := by
  have least : 1 * twoTo num.log2 ≤ num := by simpa using Nat.log2_self_le positive
  have one : Nat.log2 1 = 0 := rfl
  simp only [leadingExponent, one, Nat.cast_zero, sub_zero, Int.toNat_natCast, Int.toNat_neg_natCast]
  exact if_pos (least.trans (Nat.mul_one num).ge)

end Rounding

namespace Binary64

/-! ### The order of doubles -/

/-- The magnitude as a multiple of the least positive double. -/
def units (magnitude : Nat) : Nat :=
  (if magnitude / 2 ^ 52 = 0 then magnitude else 2 ^ 52 + magnitude % 2 ^ 52) *
    2 ^ (magnitude / 2 ^ 52 - 1)

/-- The next magnitude is worth more: its fraction is greater, or its exponent is. -/
theorem units_lt_succ (magnitude : Nat) : units magnitude < units (magnitude + 1) := by
  have whole := Nat.div_add_mod magnitude (2 ^ 52)
  by_cases last : magnitude % 2 ^ 52 + 1 = 2 ^ 52
  · -- the fraction starts again from zero, with a unit twice as large unless the magnitude was subnormal
    have exponent : (magnitude + 1) / 2 ^ 52 = magnitude / 2 ^ 52 + 1 := by omega
    have fraction : (magnitude + 1) % 2 ^ 52 = 0 := by omega
    unfold units
    rw [exponent, fraction, if_neg (Nat.succ_ne_zero _)]
    cases stored : magnitude / 2 ^ 52 with
    | zero =>
      show magnitude * 1 < (2 ^ 52 + 0) * 1
      omega
    | succ e =>
      rw [if_neg (Nat.succ_ne_zero e)]
      show (2 ^ 52 + magnitude % 2 ^ 52) * 2 ^ e < (2 ^ 52 + 0) * 2 ^ (e + 1)
      rw [pow_succ _ e]
      have power : 0 < 2 ^ e := Nat.two_pow_pos e
      nlinarith
  · have exponent : (magnitude + 1) / 2 ^ 52 = magnitude / 2 ^ 52 := by omega
    have fraction : (magnitude + 1) % 2 ^ 52 = magnitude % 2 ^ 52 + 1 := by omega
    unfold units
    rw [exponent, fraction]
    refine Nat.mul_lt_mul_of_pos_right ?_ (Nat.two_pow_pos _)
    split <;> omega

theorem units_strictMono : StrictMono units := strictMono_nat_of_lt_succ units_lt_succ

theorem units_zero : units 0 = 0 := rfl

/-- The bits that are kept behind an exponent are worth that many units of it, also when rounding up has given
them one bit more. -/
theorem units_assembled {k m : ℕ} (most : m ≤ 2 ^ 53) (least : 0 < k → 2 ^ 52 ≤ m) :
    units (k * 2 ^ 52 + m) = m * 2 ^ k := by
  by_cases short : m < 2 ^ 52
  · have zero : k = 0 := by omega
    have stored : m / 2 ^ 52 = 0 := Nat.div_eq_of_lt short
    rw [zero, zero_mul, zero_add, units, stored, if_pos rfl]
  by_cases carried : m = 2 ^ 53
  · have stored : (k * 2 ^ 52 + m) / 2 ^ 52 = k + 2 := by omega
    have fraction : (k * 2 ^ 52 + m) % 2 ^ 52 = 0 := by omega
    rw [units, stored, fraction, if_neg (by omega), carried, show k + 2 - 1 = k + 1 from rfl, pow_succ 2 k]
    omega
  · have stored : (k * 2 ^ 52 + m) / 2 ^ 52 = k + 1 := by omega
    have fraction : 2 ^ 52 + (k * 2 ^ 52 + m) % 2 ^ 52 = m := by omega
    rw [units, stored, if_neg (by omega), fraction, Nat.add_sub_cancel]

/-- The value of a double in multiples of the least positive one. -/
theorem value_eq (x : Binary64) :
    x.value = (if x.negative then -1 else 1) * (units x.magnitude / 2 ^ 1074) := by
  have scale : (2 : ℚ) ^ x.exponent = 2 ^ (x.magnitude / 2 ^ 52 - 1) / 2 ^ 1074 := by
    rw [← zpow_natCast_sub_natCast₀ two_ne_zero]
    congr 1
    show ((max (x.magnitude / 2 ^ 52) 1 : Nat) : ℤ) - 1075 = _
    omega
  have factor : x.significand =
      if x.magnitude / 2 ^ 52 = 0 then x.magnitude else 2 ^ 52 + x.magnitude % 2 ^ 52 := rfl
  rw [value, scale, units, ← factor, Nat.cast_mul, mul_div_assoc]
  push_cast
  rfl

theorem value_lt_iff {x y : Binary64} : x.value < y.value ↔
    (if x.negative then -(units x.magnitude : ℤ) else units x.magnitude) <
      if y.negative then -(units y.magnitude : ℤ) else units y.magnitude := by
  have unit : (0 : ℚ) < 2 ^ 1074 := by positivity
  have signed : ∀ z : Binary64, z.value =
      ((if z.negative then -(units z.magnitude : ℤ) else units z.magnitude : ℤ) : ℚ) / 2 ^ 1074 := by
    intro z
    rw [value_eq]
    cases z.negative <;> simp [neg_div]
  rw [signed x, signed y, div_lt_div_iff_of_pos_right unit, Int.cast_lt]

/-- **Doubles are ordered as their values are**: the magnitudes are, and only zero is worth nothing. -/
theorem order_lt_iff {x y : Binary64} : x.order < y.order ↔ x.value < y.value := by
  have less := units_strictMono.lt_iff_lt (a := x.magnitude) (b := y.magnitude)
  have greater := units_strictMono.lt_iff_lt (a := y.magnitude) (b := x.magnitude)
  have first := units_strictMono.lt_iff_lt (a := 0) (b := x.magnitude)
  have second := units_strictMono.lt_iff_lt (a := 0) (b := y.magnitude)
  rw [units_zero] at first second
  rw [value_lt_iff]
  unfold order
  cases x.negative <;> cases y.negative <;>
    simp only [if_true, if_false, Bool.false_eq_true] <;> omega

theorem order_eq_iff {x y : Binary64} : x.order = y.order ↔ x.value = y.value := by
  simp only [le_antisymm_iff, ← not_lt, order_lt_iff]

/-! ### The double nearest to an integer -/

/-- The binary digits of a natural that a double keeps, the leading one in the 53rd place. -/
def keptDigits (n : Nat) : Nat :=
  Rounding.roundQuotient (n * 2 ^ (52 - n.log2)) (2 ^ (n.log2 - 52))

/-- The magnitude of the double nearest to a natural. -/
def roundedMagnitude (n : Nat) : Nat := if n = 0 then 0 else (n.log2 + 1022) * 2 ^ 52 + keptDigits n

theorem scaled_bounds {n : Nat} (positive : n ≠ 0) :
    2 ^ 52 * 2 ^ (n.log2 - 52) ≤ n * 2 ^ (52 - n.log2) ∧
      n * 2 ^ (52 - n.log2) < 2 ^ 53 * 2 ^ (n.log2 - 52) := by
  have least := Nat.mul_le_mul_right (2 ^ (52 - n.log2)) (Nat.log2_self_le positive)
  have past := Nat.mul_lt_mul_of_pos_right (Nat.lt_log2_self (n := n)) (Nat.two_pow_pos (52 - n.log2))
  have low : n.log2 + (52 - n.log2) = 52 + (n.log2 - 52) := by omega
  have high : n.log2 + 1 + (52 - n.log2) = 53 + (n.log2 - 52) := by omega
  rw [← pow_add, low, pow_add] at least
  rw [← pow_add, high, pow_add] at past
  exact ⟨least, past⟩

/-- What is kept has 53 bits, or is rounded up to the least number of 54. -/
theorem keptDigits_bounds {n : Nat} (positive : n ≠ 0) :
    2 ^ 52 ≤ keptDigits n ∧ keptDigits n ≤ 2 ^ 53 := by
  obtain ⟨least, past⟩ := scaled_bounds positive
  have unit := Nat.two_pow_pos (n.log2 - 52)
  have low := (Nat.le_div_iff_mul_le unit).mpr least
  have high := (Nat.div_lt_iff_lt_mul unit).mpr past
  exact ⟨low.trans (Rounding.le_roundQuotient _ _), (Rounding.roundQuotient_le _ _).trans high⟩

/-- **A greater natural has no lesser magnitude.** With a greater exponent even the bits that were rounded
up do not count for more. -/
theorem roundedMagnitude_mono : Monotone roundedMagnitude := by
  intro m n le
  unfold roundedMagnitude
  by_cases zero : m = 0
  · rw [if_pos zero]
    exact Nat.zero_le _
  have positive : n ≠ 0 := by omega
  rw [if_neg zero, if_neg positive]
  have exponents : m.log2 ≤ n.log2 := (Nat.le_log2 positive).mpr ((Nat.log2_self_le zero).trans le)
  rcases exponents.lt_or_eq with less | same
  · -- rounding up gives at most the least bits of the next exponent
    have first := (keptDigits_bounds zero).2
    have second := (keptDigits_bounds positive).1
    have places : (m.log2 + 1 + 1022) * 2 ^ 52 ≤ (n.log2 + 1022) * 2 ^ 52 :=
      Nat.mul_le_mul_right _ (by omega)
    linarith
  · unfold keptDigits
    rw [same]
    exact Nat.add_le_add_left (Rounding.roundQuotient_mono (Nat.mul_le_mul_right _ le)) _

theorem roundTo_natural {n : Nat} (positive : n ≠ 0) :
    Rounding.roundTo 53 (-1074) n 1 = (keptDigits n, (n.log2 : ℤ) - 52) := by
  have places : max (-1074) ((n.log2 : ℤ) - (((53 : Nat) : ℤ) - 1)) = n.log2 - 52 := by omega
  have up : (-((n.log2 : ℤ) - 52)).toNat = 52 - n.log2 := by omega
  have down : ((n.log2 : ℤ) - 52).toNat = n.log2 - 52 := by omega
  simp only [Rounding.roundTo, if_neg positive, Rounding.leadingExponent_one positive, places, up, down,
    one_mul]
  rfl

/-- **The double nearest to an integer**, which is finite for every integer of 64 bits. -/
theorem ofInt_eq {n : ℤ} (small : n.natAbs < 2 ^ 64) :
    (ofInt n).negative = decide (n < 0) ∧ (ofInt n).magnitude = roundedMagnitude n.natAbs := by
  by_cases zero : n = 0
  · subst zero
    decide
  have positive : n.natAbs ≠ 0 := by omega
  have digits := (keptDigits_bounds positive).2
  have places := (Nat.log2_lt positive).mpr small
  have magnitude : ((n.natAbs.log2 : ℤ) - 52 + 1074).toNat * twoTo 52 + keptDigits n.natAbs =
      roundedMagnitude n.natAbs := by
    rw [roundedMagnitude, if_neg positive]
    congr 2
    omega
  have finite : roundedMagnitude n.natAbs < 0x7FF0000000000000 := by
    rw [roundedMagnitude, if_neg positive]
    omega
  have rounded : ofRatio? (decide (n < 0)) n.natAbs 1 =
      some ⟨decide (n < 0), roundedMagnitude n.natAbs, finite⟩ := by
    simp only [ofRatio?, roundTo_natural positive, magnitude]
    exact dif_pos finite
  rw [ofInt, rounded]
  exact ⟨rfl, rfl⟩

end Binary64

namespace WordInt

theorem natAbs_lt (n : WordInt) : n.val.natAbs < 2 ^ 64 := by
  have lower := n.lower
  have upper := n.upper
  omega

end WordInt

namespace Binary64

/-- **Rounding integers to doubles keeps their order.** -/
theorem order_ofInt_mono {m n : WordInt} (le : m.val ≤ n.val) :
    (ofInt m.val).order ≤ (ofInt n.val).order := by
  obtain ⟨sign, magnitude⟩ := ofInt_eq m.natAbs_lt
  obtain ⟨sign', magnitude'⟩ := ofInt_eq n.natAbs_lt
  have up : 0 ≤ m.val → roundedMagnitude m.val.natAbs ≤ roundedMagnitude n.val.natAbs := fun _ =>
    roundedMagnitude_mono (by omega)
  have down : n.val < 0 → roundedMagnitude n.val.natAbs ≤ roundedMagnitude m.val.natAbs := fun _ =>
    roundedMagnitude_mono (by omega)
  unfold order
  rw [sign, magnitude, sign', magnitude']
  by_cases below : m.val < 0 <;> by_cases below' : n.val < 0 <;> simp only [below, below'] <;> simp <;> omega

/-- Up to `2 ^ 53` nothing is rounded off. -/
theorem keptDigits_mul {n : Nat} (positive : n ≠ 0) (short : n ≤ 2 ^ 53) :
    keptDigits n * 2 ^ n.log2 = n * 2 ^ 52 := by
  by_cases most : n = 2 ^ 53
  · -- of its 54 bits the last one is rounded off, which is zero
    rw [most]
    decide +kernel
  · have places : n.log2 < 53 := (Nat.log2_lt positive).mpr (by omega)
    have none : n.log2 - 52 = 0 := by omega
    have scale : 52 - n.log2 + n.log2 = 52 := by omega
    rw [keptDigits, none, pow_zero, Rounding.roundQuotient_one, mul_assoc, ← pow_add, scale]

theorem units_roundedMagnitude {n : Nat} (short : n ≤ 2 ^ 53) :
    units (roundedMagnitude n) = n * 2 ^ 1074 := by
  by_cases zero : n = 0
  · rw [zero, Nat.zero_mul]
    rfl
  have bounds := keptDigits_bounds zero
  calc units (roundedMagnitude n) = keptDigits n * 2 ^ (n.log2 + 1022) := by
        rw [roundedMagnitude, if_neg zero, units_assembled bounds.2 fun _ => bounds.1]
    _ = keptDigits n * 2 ^ n.log2 * 2 ^ 1022 := by rw [pow_add, mul_assoc]
    _ = n * 2 ^ 1074 := by rw [keptDigits_mul zero short, mul_assoc, ← pow_add]

/-- **An integer up to `2 ^ 53` has the value of its nearest double.** -/
theorem value_ofInt {n : ℤ} (short : n.natAbs ≤ 2 ^ 53) : (ofInt n).value = n := by
  obtain ⟨sign, magnitude⟩ := ofInt_eq (n := n) (by omega)
  have unit : (2 : ℚ) ^ 1074 ≠ 0 := by positivity
  rw [value_eq, sign, magnitude, units_roundedMagnitude short, Nat.cast_mul, Nat.cast_pow, Nat.cast_ofNat,
    mul_div_cancel_right₀ _ unit]
  by_cases below : n < 0
  · have absolute : (n.natAbs : ℤ) = -n := by omega
    have cast : (n.natAbs : ℚ) = -n := by rw [← Int.cast_natCast, absolute, Int.cast_neg]
    simp [below, cast]
  · have absolute : (n.natAbs : ℤ) = n := by omega
    have cast : (n.natAbs : ℚ) = n := by rw [← Int.cast_natCast, absolute]
    simp [below, cast]

/-! ### Doubles without fraction -/

/-- The value of a double as a quotient of integers. -/
theorem value_eq_div (x : Binary64) : x.value =
    ((if x.negative then -1 else 1) * (x.significand * twoTo x.exponent.toNat : Nat) : ℤ) /
      (twoTo (-x.exponent).toNat : Nat) := by
  rw [value, zpow_eq_div two_ne_zero, Int.cast_mul, Int.cast_natCast, Nat.cast_mul, cast_twoTo, cast_twoTo,
    mul_div_assoc, mul_div_assoc]
  cases x.negative <;> simp

/-- **A double that is worth an integer has no fraction.** -/
theorem isWhole_of_value_eq {x : Binary64} {n : ℤ} (worth : x.value = n) :
    x.isWhole = true ∧ x.wholePart = n.natAbs ∧ x.truncate = n := by
  have unit : 0 < twoTo (-x.exponent).toNat := Nat.two_pow_pos _
  have divisor : ((twoTo (-x.exponent).toNat : Nat) : ℚ) ≠ 0 := Nat.cast_ne_zero.mpr unit.ne'
  have product : (if x.negative then -1 else 1) * ((x.significand * twoTo x.exponent.toNat : Nat) : ℤ) =
      n * (twoTo (-x.exponent).toNat : Nat) := by
    rw [value_eq_div, div_eq_iff divisor] at worth
    exact_mod_cast worth
  have whole : x.significand * twoTo x.exponent.toNat = n.natAbs * twoTo (-x.exponent).toNat := by
    have absolute := congrArg Int.natAbs product
    rw [Int.natAbs_mul, Int.natAbs_mul, Int.natAbs_natCast, Int.natAbs_natCast] at absolute
    cases sign : x.negative <;> simpa [sign] using absolute
  have part : x.wholePart = n.natAbs := by rw [wholePart, whole, Nat.mul_div_cancel _ unit]
  refine ⟨decide_eq_true (by rw [whole, Nat.mul_mod_left]), part, ?_⟩
  -- the sign of the double is that of the integer
  rw [whole, Nat.cast_mul, ← mul_assoc] at product
  have signed := mul_right_cancel₀ (Nat.cast_ne_zero.mpr unit.ne') product
  rw [truncate, part, ← signed]
  cases x.negative <;> simp

end Binary64
end CatalogSearch
