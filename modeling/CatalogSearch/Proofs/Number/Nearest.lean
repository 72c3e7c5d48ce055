/-
**The double nearest to a value.**

A value is rounded to a whole number of units in the last place, which is set by the value's leading binary
digit: to the nearest number, and of two that are as near to the even one.

* `Rounding.IsNearest` — the natural nearest to a value; `IsNearest.lt_iff`: it is below a natural just if the
  value is below the middle between that and the one before it, or in the middle and the natural is odd;
* `Rounding.leadingExponent_eq_log`, `isNearest_roundTo` — what rounding to some binary digits gives;
* `Binary64.place` — the last place of the doubles about a value; `Binary64.NearestTo`: a double that has the
  nearest number of units there; `Binary64.exists_ofRatio?`: the one that is computed, which is finite below `2 ^ 65`;
* `Decimal.value` — the value of a numeral, and `Decimal.exists_toBinary64?`: the double that it is read as.
-/

import CatalogSearch.Proofs.Number.Value
import Mathlib.Algebra.Order.Field.Power
import Mathlib.Data.Int.Log
import Mathlib.Data.Rat.Floor

namespace CatalogSearch

namespace Rounding

/-- **The natural nearest to a value**, and of two that are as near the even one. -/
structure IsNearest (t : ℚ) (m : ℕ) : Prop where
  near : |t - m| ≤ 1 / 2
  even : |t - m| = 1 / 2 → Even m

variable {t : ℚ} {m num den : ℕ}

theorem isNearest_of_lt (close : |t - m| < 1 / 2) : IsNearest t m :=
  ⟨close.le, fun tie => absurd tie close.ne⟩

/-- **Rounding a quotient gives the nearest natural.** -/
theorem isNearest_roundQuotient (positive : 0 < den) : IsNearest (num / den) (roundQuotient num den) := by
  have unit : (0 : ℚ) < den := Nat.cast_pos.mpr positive
  have split : (num : ℚ) / den = (num / den : ℕ) + (num % den : ℕ) / den := by
    have whole : (num : ℚ) = den * (num / den : ℕ) + (num % den : ℕ) := by
      exact_mod_cast (Nat.div_add_mod num den).symm
    rw [div_eq_iff unit.ne', add_mul, div_mul_cancel₀ _ unit.ne', mul_comm]
    exact whole
  have natural : (0 : ℚ) ≤ (num % den : ℕ) / den := by positivity
  rw [split, roundQuotient]
  split_ifs with below above
  · have less : ((num % den : ℕ) : ℚ) / den < 1 / 2 := by
      rw [div_lt_div_iff₀ unit two_pos, one_mul, mul_comm]
      exact_mod_cast below
    exact isNearest_of_lt (abs_lt.mpr ⟨by linarith, by linarith⟩)
  · have more : 1 / 2 < ((num % den : ℕ) : ℚ) / den := by
      rw [div_lt_div_iff₀ two_pos unit, one_mul, mul_comm]
      exact_mod_cast above
    have rest : ((num % den : ℕ) : ℚ) / den < 1 := by
      rw [div_lt_one unit]
      exact_mod_cast Nat.mod_lt num positive
    refine isNearest_of_lt (abs_lt.mpr ⟨?_, ?_⟩) <;> push_cast <;> linarith
  · -- in the middle of two naturals the remainder of the lesser by two is added
    have middle : ((num % den : ℕ) : ℚ) / den = 1 / 2 := by
      rw [div_eq_div_iff unit.ne' two_ne_zero, one_mul, mul_comm]
      exact_mod_cast (show 2 * (num % den) = den by omega)
    rw [middle]
    rcases Nat.mod_two_eq_zero_or_one (num / den) with even | odd
    · rw [even, add_zero]
      refine ⟨by norm_num, fun _ => Nat.even_iff.mpr even⟩
    · rw [odd]
      refine ⟨by push_cast; norm_num, fun _ => Nat.even_iff.mpr (by omega)⟩

/-- **The nearest natural is below another** just if the value is nearer to the one before it, or in the middle of
the two and the other one is odd. -/
theorem IsNearest.lt_iff (nearest : IsNearest t m) {M : ℕ} :
    m < M ↔ t + 1 / 2 < M ∨ t + 1 / 2 = M ∧ Odd M := by
  obtain ⟨near, even⟩ := nearest
  obtain ⟨low, high⟩ := abs_le.mp near
  constructor
  · intro less
    have next : (m : ℚ) + 1 ≤ M := by exact_mod_cast less
    rcases (show t + 1 / 2 ≤ M by linarith).lt_or_eq with below | middle
    · exact .inl below
    · -- then the natural is the one before, and even
      have before : (M : ℚ) = m + 1 := by linarith
      have same : M = m + 1 := by exact_mod_cast before
      have tie : |t - m| = 1 / 2 := by
        rw [abs_eq (by norm_num)]
        exact .inl (by linarith)
      exact .inr ⟨middle, same ▸ (even tie).add_one⟩
  · intro below
    by_contra reach
    have least : (M : ℚ) ≤ m := by exact_mod_cast not_lt.mp reach
    rcases below with below | ⟨middle, odd⟩
    · linarith
    · have same : (m : ℚ) = M := by linarith
      have tie : |t - m| = 1 / 2 := by
        rw [abs_eq (by norm_num)]
        exact .inr (by linarith)
      have natural : m = M := by exact_mod_cast same
      exact (Nat.not_even_iff_odd.mpr odd) (natural ▸ even tie)

/-- The leading binary digit is found by comparing with the power of two that the lengths suggest. -/
theorem leadingExponent_eq_log (positive : 0 < num) (positive' : 0 < den) :
    leadingExponent num den = Int.log 2 ((num : ℚ) / den) := by
  have unit : (0 : ℚ) < den := Nat.cast_pos.mpr positive'
  have value : (0 : ℚ) < num / den := div_pos (Nat.cast_pos.mpr positive) unit
  have compare : ∀ g : ℤ, den * twoTo g.toNat ≤ num * twoTo (-g).toNat ↔ g ≤ Int.log 2 ((num : ℚ) / den) := by
    intro g
    rw [← Int.zpow_le_iff_le_log one_lt_two value, Nat.cast_ofNat, zpow_eq_div two_ne_zero,
      div_le_div_iff₀ (by positivity) unit, mul_comm]
    exact_mod_cast Iff.rfl
  -- the lengths are those of numbers up to twice as large as the powers of two in them
  have low : (num.log2 : ℤ) - den.log2 - 1 ≤ Int.log 2 ((num : ℚ) / den) := by
    have least : 2 ^ num.log2 ≤ num := Nat.log2_self_le positive.ne'
    have most : den ≤ 2 ^ (den.log2 + 1) := Nat.lt_log2_self.le
    rw [← Int.zpow_le_iff_le_log one_lt_two value, Nat.cast_ofNat, sub_sub,
      show (den.log2 : ℤ) + 1 = (den.log2 + 1 : ℕ) from rfl, zpow_natCast_sub_natCast₀ two_ne_zero]
    exact div_le_div₀ (Nat.cast_nonneg _) (by exact_mod_cast least) unit (by exact_mod_cast most)
  have high : Int.log 2 ((num : ℚ) / den) < (num.log2 : ℤ) - den.log2 + 1 := by
    have most : num < 2 ^ (num.log2 + 1) := Nat.lt_log2_self
    have least : 2 ^ den.log2 ≤ den := Nat.log2_self_le positive'.ne'
    rw [← Int.lt_zpow_iff_log_lt one_lt_two value, Nat.cast_ofNat, sub_add_eq_add_sub,
      show (num.log2 : ℤ) + 1 = (num.log2 + 1 : ℕ) from rfl, zpow_natCast_sub_natCast₀ two_ne_zero]
    exact div_lt_div₀ (by exact_mod_cast most) (by exact_mod_cast least) (by positivity) (by positivity)
  unfold leadingExponent
  simp only [compare]
  split_ifs <;> omega

/-- **A quotient is rounded to the nearest number of units** in the place that its leading digit sets. -/
theorem isNearest_roundTo (digits : ℕ) (lowest : ℤ) (positive : 0 < num) (positive' : 0 < den) :
    ∃ m, roundTo digits lowest num den =
        (m, max lowest (Int.log 2 ((num : ℚ) / den) - ((digits : ℤ) - 1))) ∧
      IsNearest (num / den / 2 ^ max lowest (Int.log 2 ((num : ℚ) / den) - ((digits : ℤ) - 1))) m := by
  rw [roundTo, if_neg positive.ne', leadingExponent_eq_log positive positive']
  refine ⟨_, rfl, ?_⟩
  generalize max lowest (Int.log 2 ((num : ℚ) / den) - ((digits : ℤ) - 1)) = q
  have scaled : (num : ℚ) / den / 2 ^ q =
      ((num * twoTo (-q).toNat : ℕ) : ℚ) / (den * twoTo q.toNat : ℕ) := by
    rw [zpow_eq_div two_ne_zero, div_div_div_eq, Nat.cast_mul, Nat.cast_mul, cast_twoTo, cast_twoTo]
  rw [scaled]
  exact isNearest_roundQuotient (Nat.mul_pos positive' (Nat.two_pow_pos _))

end Rounding

namespace Binary64

/-- The last place of the doubles about a value. -/
def place (r : ℚ) : ℤ := max (-1074) (Int.log 2 r - 52)

/-- **A double nearest to a value**, up to its sign: it has the nearest number of units in the last place. -/
def NearestTo (r : ℚ) (x : Binary64) : Prop :=
  ∃ m : ℕ, Rounding.IsNearest (r / 2 ^ place r) m ∧ |x.value| = m * 2 ^ place r

variable {num den : ℕ} {negative : Bool}

theorem abs_value (x : Binary64) : |x.value| = units x.magnitude / 2 ^ 1074 := by
  rw [value_eq, abs_mul, abs_of_nonneg (by positivity : (0 : ℚ) ≤ units x.magnitude / 2 ^ 1074)]
  cases x.negative <;> simp

/-- The last place is set so that 53 bits reach to it, and no more. -/
theorem div_place_lt {r : ℚ} : r / 2 ^ place r < 2 ^ 53 := by
  rw [div_lt_iff₀ (zpow_pos two_pos _), ← zpow_natCast, ← zpow_add₀ two_ne_zero]
  have past : r < 2 ^ (Int.log 2 r + 1) := by exact_mod_cast Int.lt_zpow_succ_log_self one_lt_two r
  refine past.trans_le (zpow_le_zpow_right₀ one_le_two ?_)
  have reach := le_max_right (-1074) (Int.log 2 r - 52)
  unfold place
  push_cast
  omega

theorem le_div_place {r : ℚ} (positive : 0 < r) (normal : -1074 < place r) : 2 ^ 52 ≤ r / 2 ^ place r := by
  have same : place r = Int.log 2 r - 52 := by
    unfold place at normal ⊢
    omega
  have least : (2 : ℚ) ^ Int.log 2 r ≤ r := by exact_mod_cast Int.zpow_log_le_self one_lt_two positive
  rw [le_div_iff₀ (zpow_pos two_pos _), same, ← zpow_natCast, ← zpow_add₀ two_ne_zero]
  exact least.trans_eq' (by congr 1; push_cast; omega)

/-- **The double that is computed for a quotient below `2 ^ 65` is the nearest one.** -/
theorem exists_ofRatio? (positive : 0 < num) (positive' : 0 < den) (small : (num : ℚ) / den < 2 ^ 65) :
    ∃ x, ofRatio? negative num den = some x ∧ x.negative = negative ∧ NearestTo (num / den) x := by
  have value : (0 : ℚ) < num / den := div_pos (Nat.cast_pos.mpr positive) (Nat.cast_pos.mpr positive')
  obtain ⟨m, rounded, nearest⟩ := Rounding.isNearest_roundTo 53 (-1074) positive positive'
  have same : max (-1074) (Int.log 2 ((num : ℚ) / den) - (((53 : ℕ) : ℤ) - 1)) = place (num / den) := rfl
  rw [same] at rounded nearest
  obtain ⟨low, high⟩ := abs_le.mp nearest.near
  have most : m ≤ 2 ^ 53 := by
    have past : (m : ℚ) < 2 ^ 53 + 1 := by linarith [div_place_lt (r := (num : ℚ) / den)]
    exact Nat.lt_succ_iff.mp (by exact_mod_cast past)
  have least : -1074 < place ((num : ℚ) / den) → 2 ^ 52 ≤ m := by
    intro normal
    have reach : (2 : ℚ) ^ 52 < m + 1 := by linarith [le_div_place value normal]
    exact Nat.lt_succ_iff.mp (by exact_mod_cast reach)
  have short : Int.log 2 ((num : ℚ) / den) < 65 := by
    rw [← Int.lt_zpow_iff_log_lt one_lt_two value]
    exact_mod_cast small
  have bounds : -1074 ≤ place ((num : ℚ) / den) ∧ place ((num : ℚ) / den) ≤ 12 := by
    unfold place
    omega
  unfold NearestTo
  generalize place ((num : ℚ) / den) = q at *
  have finite : (q + 1074).toNat * 2 ^ 52 + m < 0x7FF0000000000000 := by omega
  have made : ofRatio? negative num den = some ⟨negative, (q + 1074).toNat * 2 ^ 52 + m, finite⟩ := by
    simp only [ofRatio?, rounded]
    exact dif_pos finite
  refine ⟨_, made, rfl, m, nearest, ?_⟩
  have scale : (2 : ℚ) ^ (q + 1074).toNat / 2 ^ 1074 = 2 ^ q := by
    rw [← zpow_natCast_sub_natCast₀ two_ne_zero]
    congr 1
    omega
  rw [abs_value, units_assembled most fun above => least (by omega), Nat.cast_mul, Nat.cast_pow, Nat.cast_ofNat,
    mul_div_assoc, scale]

/-- A value below half the least positive double is nearest to zero. -/
theorem nearestTo_zero {r : ℚ} (negative : Bool) (natural : 0 ≤ r) (small : r < 2 ^ (-1075 : ℤ)) :
    NearestTo r (zero negative) := by
  refine ⟨0, Rounding.isNearest_of_lt ?_, ?_⟩
  · have unit : (2 : ℚ) ^ (-1074 : ℤ) ≤ 2 ^ place r := zpow_le_zpow_right₀ one_le_two (le_max_left _ _)
    have half : (2 : ℚ) ^ (-1074 : ℤ) = 2 * 2 ^ (-1075 : ℤ) := by
      rw [← zpow_one_add₀ two_ne_zero]
      rfl
    rw [Nat.cast_zero, sub_zero, abs_of_nonneg (by positivity), div_lt_iff₀ (zpow_pos two_pos _)]
    linarith
  · have nothing : units (zero negative).magnitude = 0 := units_zero
    rw [abs_value, nothing, Nat.cast_zero, zero_div, zero_mul]

end Binary64

/-! ### Numerals -/

/-- The digits of a positive natural set its leading power of ten. -/
theorem decimalLength_bounds {n : ℕ} (positive : n ≠ 0) :
    10 ^ (decimalLength n - 1) ≤ n ∧ n < 10 ^ decimalLength n := by
  have some : 0 < decimalLength n := Nat.length_toDigits_pos
  refine ⟨?_, (Nat.length_toDigits_le_iff (b := 10) (by decide) some).mp le_rfl⟩
  by_contra less
  by_cases one : decimalLength n - 1 = 0
  · rw [one] at less
    omega
  · have short := (Nat.length_toDigits_le_iff (b := 10) (by decide) (Nat.pos_of_ne_zero one)).mpr (not_le.mp less)
    unfold decimalLength at some short
    omega

namespace Decimal

variable {d : Decimal}

/-- The value of a numeral. -/
def value (d : Decimal) : ℚ := (if d.negative then -1 else 1) * (d.coefficient * 10 ^ d.exponent)

theorem abs_value (d : Decimal) : |d.value| = d.coefficient * 10 ^ d.exponent := by
  rw [value, abs_mul, abs_of_nonneg (by positivity : (0 : ℚ) ≤ d.coefficient * 10 ^ d.exponent)]
  cases d.negative <;> simp

theorem value_eq_abs (d : Decimal) : d.value = if d.negative then -|d.value| else |d.value| := by
  rw [abs_value, value]
  split
  · exact neg_one_mul _
  · exact one_mul _

theorem abs_value_bounds (positive : d.coefficient ≠ 0) :
    10 ^ (d.exponent + decimalLength d.coefficient - 1) ≤ |d.value| ∧
      |d.value| < 10 ^ (d.exponent + decimalLength d.coefficient) := by
  obtain ⟨least, past⟩ := decimalLength_bounds positive
  have some : 0 < decimalLength d.coefficient := Nat.length_toDigits_pos
  have scale : (0 : ℚ) < 10 ^ d.exponent := by positivity
  have low : (10 : ℚ) ^ (decimalLength d.coefficient - 1) ≤ d.coefficient := by exact_mod_cast least
  have high : (d.coefficient : ℚ) < 10 ^ decimalLength d.coefficient := by exact_mod_cast past
  have split : d.exponent + decimalLength d.coefficient - 1 =
      ((decimalLength d.coefficient - 1 : ℕ) : ℤ) + d.exponent := by omega
  rw [abs_value, split, add_comm d.exponent, zpow_add₀ (by norm_num), zpow_add₀ (by norm_num), zpow_natCast,
    zpow_natCast]
  exact ⟨mul_le_mul_of_nonneg_right low scale.le, mul_lt_mul_of_pos_right high scale⟩

/-- **A numeral below `2 ^ 65` is read as the double nearest to it.** -/
theorem exists_toBinary64? (small : |d.value| < 2 ^ 65) :
    ∃ x, d.toBinary64? = some x ∧ x.negative = d.negative ∧ Binary64.NearestTo |d.value| x := by
  have zero (tiny : |d.value| < 2 ^ (-1075 : ℤ)) := Binary64.nearestTo_zero d.negative (abs_nonneg _) tiny
  unfold toBinary64?
  split_ifs with empty
  · refine ⟨_, rfl, rfl, zero ?_⟩
    rw [abs_value, empty, Nat.cast_zero, zero_mul]
    positivity
  obtain ⟨least, past⟩ := abs_value_bounds empty
  dsimp only
  split_ifs with large tiny
  · have reach : (10 : ℚ) ^ (20 : ℤ) ≤ |d.value| := (zpow_le_zpow_right₀ (by norm_num) (by omega)).trans least
    norm_num at reach small
    linarith
  · have reach : |d.value| < 10 ^ (-330 : ℤ) := past.trans_le (zpow_le_zpow_right₀ (by norm_num) (by omega))
    have powers : (2 : ℚ) ^ 1075 < 10 ^ 330 := by exact_mod_cast (show 2 ^ 1075 < 10 ^ 330 by decide +kernel)
    exact ⟨_, rfl, rfl, zero (reach.trans (inv_strictAnti₀ (by positivity) powers))⟩
  · have quotient : |d.value| =
        ((d.coefficient * tenTo d.exponent.toNat : ℕ) : ℚ) / (tenTo (-d.exponent).toNat : ℕ) := by
      have power (k : ℕ) : ((tenTo k : ℕ) : ℚ) = 10 ^ k := Nat.cast_pow 10 k
      rw [abs_value, zpow_eq_div (by norm_num), Nat.cast_mul, power, power, mul_div_assoc]
    rw [quotient] at small ⊢
    exact Binary64.exists_ofRatio? (Nat.mul_pos (Nat.pos_of_ne_zero empty) (Nat.pow_pos (by decide)))
      (Nat.pow_pos (by decide)) small

end Decimal
end CatalogSearch
