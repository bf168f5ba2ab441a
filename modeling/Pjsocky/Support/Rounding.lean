import Mathlib.Data.Rat.Floor

/-!
# Rounding towards zero

A rational `value` is rounded towards zero as `value.num.tdiv value.den`: down when it is
positive and up when it is negative, so it never moves across an integer on its own side of
zero. Numbers between -1 and 1 become zero.
-/

namespace Support

variable {value : ℚ} {bound : Int}

theorem truncated_of_nonneg (nonneg : 0 ≤ value) :
    value.num.tdiv value.den = ⌊value⌋ := by
  rw [Int.tdiv_eq_ediv_of_nonneg (Rat.num_nonneg.mpr nonneg), Rat.floor_def']

theorem truncated_of_nonpos (nonpos : value ≤ 0) :
    value.num.tdiv value.den = ⌈value⌉ := by
  have negated : 0 ≤ -value.num := Int.neg_nonneg.mpr (Rat.num_nonpos.mpr nonpos)
  rw [Rat.ceil_def', ← Int.tdiv_eq_ediv_of_nonneg negated, Int.neg_tdiv, Int.neg_neg]

/-- Rounding towards zero does not cross a positive bound, nor a negative one. -/
theorem truncated_lt_iff (positive : 0 < bound) (value : ℚ) :
    value.num.tdiv value.den < bound ↔ value < bound := by
  rcases le_total 0 value with nonneg | nonpos
  · rw [truncated_of_nonneg nonneg, Int.floor_lt]
  · rw [truncated_of_nonpos nonpos]
    have rounded : ⌈value⌉ ≤ 0 := Int.ceil_le.mpr (by exact_mod_cast nonpos)
    have below : (0 : ℚ) < bound := by exact_mod_cast positive
    exact iff_of_true (lt_of_le_of_lt rounded positive) (lt_of_le_of_lt nonpos below)

theorem lt_truncated_iff (negative : bound < 0) (value : ℚ) :
    bound < value.num.tdiv value.den ↔ (bound : ℚ) < value := by
  rcases le_total 0 value with nonneg | nonpos
  · rw [truncated_of_nonneg nonneg]
    have rounded : 0 ≤ ⌊value⌋ := Int.le_floor.mpr (by exact_mod_cast nonneg)
    have above : (bound : ℚ) < 0 := by exact_mod_cast negative
    exact iff_of_true (lt_of_lt_of_le negative rounded) (lt_of_lt_of_le above nonneg)
  · rw [truncated_of_nonpos nonpos, Int.lt_ceil]

theorem truncated_neg_iff : value.num.tdiv value.den < 0 ↔ value ≤ -1 := by
  have below := lt_truncated_iff (by decide : (-1 : Int) < 0) value
  push_cast at below
  rw [← not_lt, ← below]
  generalize value.num.tdiv value.den = rounded
  omega

end Support
