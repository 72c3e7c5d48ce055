/-
**Integer parts and rounding.**

A value that is rounded to a double and then truncated has its own integer part again, unless the rounding went
across an integer. Where doubles are further apart than integers the integer part has to be a double itself;
where they are not, the value must not be rounded up to the next integer.

* `towardZero` — the integer part of a value of either sign;
* `Binary64.KeepsWhole` — the values whose integer part survives, by the value alone;
* `Binary64.wholePart_eq_floor` — truncation gives the integer part of a double;
* `Binary64.NearestTo.wholePart_eq_iff` — the integer part of a nearest double;
* `Binary64.clampSigned_truncate_eq_iff` — the signed word that is made of a nearest double.
-/

import CatalogSearch.Proofs.Number.Nearest
import Mathlib.Algebra.Order.Floor.Semifield

namespace CatalogSearch

/-- The integer part of a value, without its fraction whatever its sign. -/
def towardZero (v : ℚ) : ℤ := if v < 0 then ⌈v⌉ else ⌊v⌋

theorem towardZero_of_nonneg {v : ℚ} (natural : 0 ≤ v) : towardZero v = ⌊v⌋₊ := by
  rw [towardZero, if_neg (not_lt.mpr natural), Int.natCast_floor_eq_floor natural]

theorem towardZero_neg (v : ℚ) : towardZero (-v) = -towardZero v := by
  unfold towardZero
  rcases lt_trichotomy v 0 with less | rfl | more
  · rw [if_neg (by linarith), if_pos less, Int.floor_neg]
  · norm_num
  · rw [if_pos (by linarith), if_neg (by linarith), Int.ceil_neg]

theorem natAbs_towardZero (v : ℚ) : (towardZero v).natAbs = ⌊|v|⌋₊ := by
  rcases le_total 0 v with natural | negative
  · rw [towardZero_of_nonneg natural, abs_of_nonneg natural, Int.natAbs_natCast]
  · rw [← Int.natAbs_neg, ← towardZero_neg, towardZero_of_nonneg (neg_nonneg.mpr negative), abs_of_nonpos negative,
      Int.natAbs_natCast]

theorem towardZero_intCast (n : ℤ) : towardZero n = n := by
  unfold towardZero
  split
  · exact Int.ceil_intCast n
  · exact Int.floor_intCast n

namespace Binary64

open Rounding (IsNearest)

/-- **The values whose nearest double has the same integer part.** -/
inductive KeepsWhole (r : ℚ) : Prop
  /-- The integer part has more than 53 binary digits, and zeros past them. -/
  | long (digits : 2 ^ 53 ≤ ⌊r⌋₊) (zeros : 2 ^ (⌊r⌋₊.log2 - 52) ∣ ⌊r⌋₊)
  /-- The next integer is further away than half its distance from the double before it. -/
  | apart (below : r + 2 ^ (((2 * ⌊r⌋₊ + 1).log2 : ℤ) - 54) < ⌊r⌋₊ + 1)
  /-- The value is in the middle between an even integer and the next, and there is no double between these. -/
  | middle (digits : ⌊r⌋₊.log2 = 52) (even : Even ⌊r⌋₊) (half : r + 1 / 2 = ⌊r⌋₊ + 1)

/-- Truncation gives the integer part of the magnitude. -/
theorem wholePart_eq_floor (x : Binary64) : x.wholePart = ⌊|x.value|⌋₊ := by
  have unit : (0 : ℚ) < (twoTo (-x.exponent).toNat : ℕ) := Nat.cast_pos.mpr (Nat.two_pow_pos _)
  have quotient : |x.value| = ((x.significand * twoTo x.exponent.toNat : ℕ) : ℚ) / (twoTo (-x.exponent).toNat : ℕ) := by
    rw [value_eq_div, abs_div, abs_of_pos unit, Int.cast_mul, abs_mul, Int.cast_natCast, Nat.abs_cast]
    cases x.negative <;> simp
  rw [quotient, Nat.floor_div_eq_div]
  rfl

variable {r : ℚ} {x : Binary64}

/-! ### The last place of a value -/

theorem place_eq (positive : 0 < ⌊r⌋₊) : place r = (⌊r⌋₊.log2 : ℤ) - 52 := by
  have one : 1 ≤ r := by exact_mod_cast (Nat.le_floor_iff' one_ne_zero).mp positive
  unfold place
  rw [Int.log_of_one_le_right 2 one, ← Nat.log2_eq_log_two]
  omega

theorem place_nonpos (natural : 0 ≤ r) (digits : ⌊r⌋₊ < 2 ^ 53) : place r ≤ 0 := by
  have short : Int.log 2 r < 53 := by
    by_cases zero : r = 0
    · rw [zero, Int.log_zero_right]
      decide
    · have positive : 0 < r := natural.lt_of_ne' zero
      have bound : r < 2 ^ 53 := by
        have next : (⌊r⌋₊ : ℚ) + 1 ≤ 2 ^ 53 := by exact_mod_cast digits
        linarith [Nat.lt_floor_add_one r]
      rw [← Int.lt_zpow_iff_log_lt one_lt_two positive]
      exact_mod_cast bound
  unfold place
  omega

theorem place_eq_zero_iff (natural : 0 ≤ r) : place r = 0 ↔ ⌊r⌋₊.log2 = 52 := by
  by_cases zero : ⌊r⌋₊ = 0
  · -- below one the unit is a fraction
    have apart : ¬ place r = 0 := by
      intro unit
      have digits : Int.log 2 r = 52 := by
        unfold place at unit
        omega
      have positive : 0 < r := by
        refine natural.lt_of_ne' fun same => ?_
        rw [same, Int.log_zero_right] at digits
        cases digits
      have least := (Int.zpow_le_iff_le_log one_lt_two positive).mpr digits.ge
      have small := Nat.lt_floor_add_one r
      rw [zero] at small
      norm_num at least small
      linarith
    rw [zero]
    exact iff_of_false apart (by decide)
  · rw [place_eq (Nat.pos_of_ne_zero zero)]
    omega

/-- Half a unit below the next integer. -/
theorem half_iff (natural : 0 ≤ r) (digits : ⌊r⌋₊ < 2 ^ 53) :
    r + 2 ^ (((2 * ⌊r⌋₊ + 1).log2 : ℤ) - 54) < ⌊r⌋₊ + 1 ↔ r + 2 ^ (place r - 1) < ⌊r⌋₊ + 1 := by
  by_cases zero : ⌊r⌋₊ = 0
  · -- the double before one is half as far from it as the one behind it, and below a half nothing is rounded up to one
    have small := Nat.lt_floor_add_one r
    have length : (2 * 0 + 1).log2 = 0 := rfl
    rw [zero] at small ⊢
    rw [length]
    by_cases large : 1 / 2 ≤ r
    · have leading : Int.log 2 r = -1 := by
        have positive : 0 < r := by linarith
        have low : -1 ≤ Int.log 2 r := by
          rw [← Int.zpow_le_iff_le_log one_lt_two positive]
          norm_num
          linarith
        have high : Int.log 2 r < 0 := by
          rw [← Int.lt_zpow_iff_log_lt one_lt_two positive]
          norm_num at small ⊢
          exact small
        omega
      have unit : place r - 1 = ((0 : ℕ) : ℤ) - 54 := by
        unfold place
        rw [leading]
        rfl
      rw [unit]
    · have bound : (2 : ℚ) ^ (place r - 1) ≤ 2 ^ (-1 : ℤ) :=
        zpow_le_zpow_right₀ one_le_two (by linarith [place_nonpos natural digits])
      norm_num at bound ⊢
      refine iff_of_true ?_ ?_ <;> linarith
  · have length : (2 * ⌊r⌋₊ + 1).log2 = ⌊r⌋₊.log2 + 1 := by
      obtain ⟨least, past⟩ := (Nat.log2_eq_iff zero).mp rfl
      rw [Nat.log2_eq_iff (Nat.succ_ne_zero _)]
      omega
    have unit : ((2 * ⌊r⌋₊ + 1).log2 : ℤ) - 54 = place r - 1 := by
      rw [place_eq (Nat.pos_of_ne_zero zero), length]
      omega
    rw [unit]

/-- The next integer is an odd number of units only where the unit is one. -/
theorem middle_iff (natural : 0 ≤ r) (digits : ⌊r⌋₊ < 2 ^ 53) :
    (r + 2 ^ (place r - 1) = ⌊r⌋₊ + 1 ∧ Odd ((⌊r⌋₊ + 1) * 2 ^ (-place r).toNat)) ↔
      ⌊r⌋₊.log2 = 52 ∧ Even ⌊r⌋₊ ∧ r + 1 / 2 = ⌊r⌋₊ + 1 := by
  have negative := place_nonpos natural digits
  have inverse : (2 : ℚ) ^ ((0 : ℤ) - 1) = 1 / 2 := by norm_num
  constructor
  · rintro ⟨half, odd⟩
    obtain ⟨next, power⟩ := Nat.odd_mul.mp odd
    have unit : place r = 0 := by
      by_contra fraction
      exact (Nat.not_even_iff_odd.mpr power) (even_two.pow_of_ne_zero (by omega))
    rw [unit, inverse] at half
    refine ⟨(place_eq_zero_iff natural).mp unit, ?_, half⟩
    by_contra apart
    exact (Nat.not_even_iff_odd.mpr next) (Nat.not_even_iff_odd.mp apart).add_one
  · rintro ⟨places, even, half⟩
    rw [(place_eq_zero_iff natural).mpr places, inverse]
    refine ⟨half, ?_⟩
    rw [neg_zero, Int.toNat_zero, pow_zero, mul_one]
    exact even.add_one

section Nearest

variable (nearest : NearestTo r x) (natural : 0 ≤ r)

include nearest natural

/-- An integer part of more than 53 bits is that of the nearest double if a double has it. -/
theorem wholePart_eq_iff_of_long (digits : 2 ^ 53 ≤ ⌊r⌋₊) :
    x.wholePart = ⌊r⌋₊ ↔ 2 ^ (⌊r⌋₊.log2 - 52) ∣ ⌊r⌋₊ := by
  obtain ⟨m, ⟨near, -⟩, worth⟩ := nearest
  have least := Nat.floor_le natural
  have past := Nat.lt_floor_add_one r
  have places : 53 ≤ ⌊r⌋₊.log2 := (Nat.le_log2 (by omega)).mpr digits
  have exponent : place r = ((⌊r⌋₊.log2 - 52 : ℕ) : ℤ) := by
    rw [place_eq (by omega)]
    omega
  have cast : (2 : ℚ) ^ (⌊r⌋₊.log2 - 52) = (2 ^ (⌊r⌋₊.log2 - 52) : ℕ) := by push_cast; rfl
  have double : 2 ≤ 2 ^ (⌊r⌋₊.log2 - 52) := Nat.le_self_pow (by omega) 2
  rw [exponent, zpow_natCast, cast] at near worth
  generalize 2 ^ (⌊r⌋₊.log2 - 52) = unit at *
  have part : x.wholePart = m * unit := by
    rw [wholePart_eq_floor, worth]
    exact_mod_cast Nat.floor_natCast (R := ℚ) (m * unit)
  rw [part]
  constructor
  · intro same
    exact Dvd.intro_left m same
  · rintro ⟨c, whole⟩
    -- the value is at most half a unit above its integer part, so that this is the nearest number of units
    have two : (2 : ℚ) ≤ unit := by exact_mod_cast double
    have scale : (0 : ℚ) < unit := by linarith
    rw [whole, Nat.cast_mul, mul_comm] at least past
    have low : (c : ℚ) ≤ r / unit := (le_div_iff₀ scale).mpr least
    have high : r / unit < c + 1 / 2 := (div_lt_iff₀ scale).mpr (by linarith)
    obtain ⟨below, above⟩ := abs_le.mp near
    have reach : (c : ℚ) < m + 1 := by linarith
    have bound : (m : ℚ) < c + 1 := by linarith
    have same : m = c := le_antisymm (Nat.lt_succ_iff.mp (by exact_mod_cast bound))
      (Nat.lt_succ_iff.mp (by exact_mod_cast reach))
    rw [whole, same, mul_comm]

/-- A shorter integer part is that of the nearest double if the value is not rounded up to the next integer. -/
theorem wholePart_eq_iff_of_short (digits : ⌊r⌋₊ < 2 ^ 53) :
    x.wholePart = ⌊r⌋₊ ↔ r + 2 ^ (place r - 1) < ⌊r⌋₊ + 1 ∨
      r + 2 ^ (place r - 1) = ⌊r⌋₊ + 1 ∧ Odd ((⌊r⌋₊ + 1) * 2 ^ (-place r).toNat) := by
  obtain ⟨m, near, worth⟩ := nearest
  have least := Nat.floor_le natural
  have unit : (2 : ℚ) ^ place r = 1 / 2 ^ (-place r).toNat := by
    rw [zpow_eq_div two_ne_zero, Int.toNat_of_nonpos (place_nonpos natural digits), pow_zero]
  have scale : (0 : ℚ) < 2 ^ (-place r).toNat := by positivity
  have half : (2 : ℚ) ^ (place r - 1) = 1 / 2 ^ (-place r).toNat / 2 := by
    rw [zpow_sub_one₀ two_ne_zero, unit, div_eq_mul_inv _ (2 : ℚ)]
  rw [half]
  rw [unit] at near worth
  generalize (-place r).toNat = j at *
  have part : x.wholePart = m / 2 ^ j := by
    rw [wholePart_eq_floor, worth, mul_one_div]
    exact_mod_cast Nat.floor_div_eq_div (K := ℚ) m (2 ^ j)
  have above : ¬ m < ⌊r⌋₊ * 2 ^ j := by
    have reach : (⌊r⌋₊ : ℚ) * 2 ^ j ≤ r * 2 ^ j := mul_le_mul_of_nonneg_right least scale.le
    rw [near.lt_iff, div_div_eq_mul_div, div_one]
    push_cast
    rintro (below | ⟨middle, -⟩) <;> linarith
  have whole : m / 2 ^ j = ⌊r⌋₊ ↔ m < (⌊r⌋₊ + 1) * 2 ^ j := by
    have reach : ⌊r⌋₊ ≤ m / 2 ^ j := (Nat.le_div_iff_mul_le (Nat.two_pow_pos j)).mpr (not_lt.mp above)
    rw [← Nat.div_lt_iff_lt_mul (Nat.two_pow_pos j)]
    omega
  have sum : (r + 1 / 2 ^ j / 2) * 2 ^ j = r * 2 ^ j + 1 / 2 := by field_simp
  have next : (((⌊r⌋₊ + 1) * 2 ^ j : ℕ) : ℚ) = (⌊r⌋₊ + 1) * 2 ^ j := by push_cast; rfl
  rw [part, whole, near.lt_iff, div_div_eq_mul_div, div_one, next, ← sum, mul_lt_mul_iff_left₀ scale,
    mul_left_inj' scale.ne']

end Nearest

/-- **The integer part of the nearest double** is that of the value just if the value keeps it. -/
theorem NearestTo.wholePart_eq_iff (nearest : NearestTo r x) (natural : 0 ≤ r) :
    x.wholePart = ⌊r⌋₊ ↔ KeepsWhole r := by
  by_cases digits : 2 ^ 53 ≤ ⌊r⌋₊
  · rw [wholePart_eq_iff_of_long nearest natural digits]
    have places : 53 ≤ ⌊r⌋₊.log2 := (Nat.le_log2 (by omega)).mpr digits
    constructor
    · exact .long digits
    · rintro (⟨-, zeros⟩ | below | ⟨places', -, -⟩)
      · exact zeros
      · -- half a unit is one or more there
        have length : 54 ≤ (2 * ⌊r⌋₊ + 1).log2 := (Nat.le_log2 (Nat.succ_ne_zero _)).mpr (by omega)
        have half : (1 : ℚ) ≤ 2 ^ (((2 * ⌊r⌋₊ + 1).log2 : ℤ) - 54) := one_le_zpow₀ one_le_two (by omega)
        linarith [Nat.floor_le natural]
      · omega
  · have short : ⌊r⌋₊ < 2 ^ 53 := not_le.mp digits
    rw [wholePart_eq_iff_of_short nearest natural short, middle_iff natural short, ← half_iff natural short]
    constructor
    · rintro (below | ⟨places, even, half⟩)
      · exact .apart below
      · exact .middle places even half
    · rintro (⟨long, -⟩ | below | ⟨places, even, half⟩)
      · exact absurd long digits
      · exact .inl below
      · exact .inr ⟨places, even, half⟩

/-! ### Values of either sign -/

section Signed

variable {v : ℚ} {n : WordInt} (nearest : NearestTo |v| x) (sign : v = if x.negative then -|v| else |v|)
  (worth : towardZero v = n.val)

include sign in
theorem towardZero_eq : towardZero v = if x.negative then -(⌊|v|⌋₊ : ℤ) else ⌊|v|⌋₊ := by
  have natural := towardZero_of_nonneg (abs_nonneg v)
  cases negative : x.negative with
  | false =>
    rw [negative] at sign
    rw [sign]
    simpa using natural
  | true =>
    rw [negative] at sign
    rw [sign, if_pos rfl, towardZero_neg, abs_neg, abs_abs, natural]
    rfl

include nearest in
/-- A value with the greatest signed word for its integer part is rounded past that word. -/
theorem greatest_le_wholePart (least : ⌊|v|⌋₊ = 2 ^ 63 - 1) : 2 ^ 63 ≤ x.wholePart := by
  obtain ⟨m, ⟨near, -⟩, value⟩ := nearest
  have digits : ⌊|v|⌋₊.log2 = 62 := by rw [least]; decide +kernel
  have unit : place |v| = 10 := by rw [place_eq (by omega), digits]; rfl
  have reach : (⌊|v|⌋₊ : ℚ) ≤ |v| := Nat.floor_le (abs_nonneg v)
  rw [least] at reach
  rw [unit] at near value
  obtain ⟨-, above⟩ := abs_le.mp near
  rw [wholePart_eq_floor, value, Nat.le_floor_iff (by positivity)]
  have units : 2 ^ 53 ≤ m := by
    have past : (2 : ℚ) ^ 53 < m + 1 := by
      have scaled : (2 : ℚ) ^ 53 - 1 / 2 ^ 10 ≤ |v| / 2 ^ (10 : ℤ) := by
        rw [le_div_iff₀ (by positivity)]
        norm_num at reach ⊢
        linarith
      norm_num at scaled above ⊢
      linarith
    exact Nat.lt_succ_iff.mp (by exact_mod_cast past)
  have product : 2 ^ 63 ≤ m * 2 ^ 10 := by omega
  exact_mod_cast product

include nearest sign worth in
/-- **The signed word nearest to the integer part of the nearest double is the integer part itself** just if it is a
signed word, and the greatest one or that of a value that keeps it. -/
theorem clampSigned_truncate_eq_iff :
    WordInt.clampSigned x.truncate = n ↔ n.val < 2 ^ 63 ∧ (n.val = 2 ^ 63 - 1 ∨ KeepsWhole |v|) := by
  have part := nearest.wholePart_eq_iff (abs_nonneg v)
  have clamped : WordInt.clampSigned x.truncate = n ↔
      max (-9223372036854775808) (min x.truncate 9223372036854775807) = n.val :=
    ⟨fun same => congrArg WordInt.val same, fun same => by cases n; simpa [WordInt.clampSigned] using same⟩
  rw [clamped, ← part]
  have lower := n.lower
  rw [towardZero_eq sign] at worth
  have greatest := greatest_le_wholePart nearest
  have least : ⌊|v|⌋₊ = 2 ^ 63 → x.wholePart = 2 ^ 63 := by
    intro same
    rw [← same, part]
    refine .long (by rw [same]; decide) ?_
    rw [same]
    decide +kernel
  unfold truncate
  cases negative : x.negative <;> rw [negative] at worth <;>
    simp only [Bool.false_eq_true, if_false, if_true] at worth ⊢ <;> omega

end Signed

end Binary64
end CatalogSearch
