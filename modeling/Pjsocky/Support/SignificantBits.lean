import Mathlib.Algebra.Order.Ring.Nat
import Mathlib.Data.Nat.Log

/-!
# Numbers with few significant bits

`roundBits bits value` is the number with at most `bits` significant bits that is nearest to
`value`, the even one of two: what becomes of a natural number in a binary floating-point format
with that many bits, as long as its exponent does not overflow. Rounding keeps the order and
the numbers that fit, and it errs by less than one part in `2 ^ bits`.
-/

namespace Support

/-- `value / unit` to the nearest, ties to even. -/
def nearestQuotient (unit value : Nat) : Nat :=
  if 2 * (value % unit) < unit then value / unit
  else if unit < 2 * (value % unit) then value / unit + 1
  else value / unit + value / unit % 2

/-- The unit in the last of `bits` places. -/
def lastPlace (bits value : Nat) : Nat := 2 ^ (value.log2 - (bits - 1))

/-- `value` to `bits` significant bits. -/
def roundBits (bits value : Nat) : Nat :=
  nearestQuotient (lastPlace bits value) value * lastPlace bits value

/-- A number with at most `bits` significant bits. -/
def FitsBits (bits value : Nat) : Prop :=
  ∃ mantissa exponent, mantissa < 2 ^ bits ∧ value = mantissa * 2 ^ exponent

variable {bits unit value other : Nat}

/-! ## The nearest multiple -/

theorem nearestQuotient_bounds (unit value : Nat) :
    value / unit ≤ nearestQuotient unit value ∧
      nearestQuotient unit value ≤ value / unit + 1 := by
  unfold nearestQuotient
  split
  · omega
  · split
    · omega
    · omega

theorem nearestQuotient_of_dvd (positive : 0 < unit) (multiple : unit ∣ value) :
    nearestQuotient unit value = value / unit := by
  rw [nearestQuotient, Nat.mod_eq_zero_of_dvd multiple, if_pos (by omega)]

theorem nearestQuotient_mono (unit : Nat) (le : value ≤ other) :
    nearestQuotient unit value ≤ nearestQuotient unit other := by
  obtain same | less := (Nat.div_le_div_right le : value / unit ≤ other / unit).eq_or_lt
  · have first := Nat.div_add_mod value unit
    have second := Nat.div_add_mod other unit
    have rest : value % unit ≤ other % unit := by
      rw [same] at first
      omega
    unfold nearestQuotient
    rw [same]
    split
    · split
      · exact le_rfl
      · split
        · omega
        · omega
    · split
      · split
        · omega
        · split
          · exact le_rfl
          · omega
      · split
        · omega
        · split
          · omega
          · exact le_rfl
  · exact (nearestQuotient_bounds unit value).2.trans
      (less.trans_le (nearestQuotient_bounds unit other).1)

/-- The nearest multiple is half a unit away at most. -/
theorem nearestQuotient_error (positive : 0 < unit) (value : Nat) :
    2 * (nearestQuotient unit value * unit) ≤ 2 * value + unit ∧
      2 * value ≤ 2 * (nearestQuotient unit value * unit) + unit := by
  have split := Nat.div_add_mod value unit
  have rest := Nat.mod_lt value positive
  rw [Nat.mul_comm] at split
  unfold nearestQuotient
  split
  · omega
  · split
    · rw [Nat.add_mul]
      omega
    · obtain even | odd := Nat.mod_two_eq_zero_or_one (value / unit)
      · rw [even, Nat.add_zero]
        omega
      · rw [odd, Nat.add_mul]
        omega

/-! ## Rounding -/

theorem lastPlace_pos (bits value : Nat) : 0 < lastPlace bits value := Nat.two_pow_pos _

theorem lastPlace_dvd (bits value : Nat) : lastPlace bits value ∣ 2 ^ value.log2 :=
  Nat.pow_dvd_pow 2 (Nat.sub_le _ _)

/-- A multiple of the unit is rounded to itself. -/
theorem roundBits_of_dvd (multiple : lastPlace bits value ∣ value) :
    roundBits bits value = value := by
  rw [roundBits, nearestQuotient_of_dvd (lastPlace_pos bits value) multiple,
    Nat.div_mul_cancel multiple]

theorem log2_mono (le : value ≤ other) : value.log2 ≤ other.log2 := by
  by_cases zero : value = 0
  · rw [zero, Nat.log2_zero]
    exact Nat.zero_le _
  · rw [Nat.le_log2 (by omega)]
    exact (Nat.log2_self_le zero).trans le

/-- A multiple of a unit that is not below a number is not below its rounding either. -/
theorem nearestQuotient_le (positive : 0 < unit) (multiple : unit ∣ other) (le : value ≤ other) :
    nearestQuotient unit value * unit ≤ other := by
  have below := Nat.mul_le_mul_right unit (nearestQuotient_mono unit le)
  rwa [nearestQuotient_of_dvd positive multiple, Nat.div_mul_cancel multiple] at below

/-- And one that is not above a number is not above its rounding. -/
theorem le_nearestQuotient (positive : 0 < unit) (multiple : unit ∣ value) (le : value ≤ other) :
    value ≤ nearestQuotient unit other * unit := by
  have above := Nat.mul_le_mul_right unit (nearestQuotient_mono unit le)
  rwa [nearestQuotient_of_dvd positive multiple, Nat.div_mul_cancel multiple] at above

/-- Rounding keeps the order. -/
theorem roundBits_mono (bits : Nat) (le : value ≤ other) :
    roundBits bits value ≤ roundBits bits other := by
  obtain same | less := (log2_mono le).eq_or_lt
  · have place : lastPlace bits value = lastPlace bits other := by
      rw [lastPlace, same, lastPlace]
    rw [roundBits, roundBits, place]
    exact Nat.mul_le_mul_right _ (nearestQuotient_mono _ le)
  · -- a power of two between them is a multiple of both units
    have some : other ≠ 0 := by
      rintro rfl
      rw [Nat.log2_zero] at less
      exact Nat.not_lt_zero _ less
    have below : value ≤ 2 ^ other.log2 :=
      (Nat.lt_log2_self.trans_le (Nat.pow_le_pow_right (by omega) less)).le
    have multiple : lastPlace bits value ∣ 2 ^ other.log2 :=
      (lastPlace_dvd bits value).trans (Nat.pow_dvd_pow 2 less.le)
    calc roundBits bits value ≤ 2 ^ other.log2 :=
          nearestQuotient_le (lastPlace_pos bits value) multiple below
      _ ≤ roundBits bits other :=
          le_nearestQuotient (lastPlace_pos bits other) (lastPlace_dvd bits other)
            (Nat.log2_self_le some)

/-- Below `2 ^ bits` every number fits. -/
theorem lastPlace_small (small : value < 2 ^ bits) : lastPlace bits value = 1 := by
  have low : value.log2 ≤ bits - 1 := by
    by_cases zero : value = 0
    · rw [zero, Nat.log2_zero]
      exact Nat.zero_le _
    · have below := (Nat.log2_lt zero).mpr small
      omega
  rw [lastPlace, Nat.sub_eq_zero_of_le low, Nat.pow_zero]

theorem roundBits_small (small : value < 2 ^ bits) : roundBits bits value = value :=
  roundBits_of_dvd (lastPlace_small small ▸ one_dvd value)

/-- `2 ^ bits` units reach from below the number to its next power of two. -/
theorem lastPlace_large (positive : 0 < bits) (large : 2 ^ bits ≤ value) :
    2 ^ bits * lastPlace bits value = 2 ^ (value.log2 + 1) := by
  have some : value ≠ 0 := (Nat.two_pow_pos bits).trans_le large |>.ne'
  have high : bits ≤ value.log2 := (Nat.le_log2 some).mpr large
  rw [lastPlace, ← Nat.pow_add]
  congr 1
  omega

/-- Rounding errs by one part in `2 ^ bits` at most. -/
theorem roundBits_error (positive : 0 < bits) (value : Nat) :
    2 ^ bits * roundBits bits value ≤ 2 ^ bits * value + value ∧
      2 ^ bits * value ≤ 2 ^ bits * roundBits bits value + value := by
  obtain small | large := Nat.lt_or_ge value (2 ^ bits)
  · rw [roundBits_small small]
    exact ⟨Nat.le_add_right _ _, Nat.le_add_right _ _⟩
  · have some : value ≠ 0 := (Nat.two_pow_pos bits).trans_le large |>.ne'
    have reach : 2 ^ bits * lastPlace bits value ≤ 2 * value := by
      rw [lastPlace_large positive large, Nat.pow_succ, Nat.mul_comm]
      exact Nat.mul_le_mul_left 2 (Nat.log2_self_le some)
    obtain ⟨above, below⟩ := nearestQuotient_error (lastPlace_pos bits value) value
    have scaledAbove := Nat.mul_le_mul_left (2 ^ bits) above
    have scaledBelow := Nat.mul_le_mul_left (2 ^ bits) below
    rw [Nat.mul_add, Nat.mul_left_comm, Nat.mul_left_comm (2 ^ bits) 2 value] at scaledAbove
    rw [Nat.mul_add, Nat.mul_left_comm, Nat.mul_left_comm (2 ^ bits) 2] at scaledBelow
    unfold roundBits
    omega

/-- What is kept are the numbers that fit. -/
theorem roundBits_eq_self_iff (positive : 0 < bits) :
    roundBits bits value = value ↔ FitsBits bits value := by
  obtain small | large := Nat.lt_or_ge value (2 ^ bits)
  · exact iff_of_true (roundBits_small small) ⟨value, 0, small, (Nat.mul_one value).symm⟩
  · constructor
    · intro same
      refine ⟨nearestQuotient (lastPlace bits value) value, _, ?_, same.symm⟩
      have below : value < 2 ^ bits * lastPlace bits value :=
        (lastPlace_large positive large).symm ▸ Nat.lt_log2_self
      exact Nat.lt_of_mul_lt_mul_right (same.trans_lt below)
    · rintro ⟨mantissa, exponent, fits, same⟩
      have some : value ≠ 0 := (Nat.two_pow_pos bits).trans_le large |>.ne'
      have below : value < 2 ^ (bits + exponent) := by
        rw [same, Nat.pow_add]
        exact Nat.mul_lt_mul_of_pos_right fits (Nat.two_pow_pos exponent)
      have high := (Nat.log2_lt some).mpr below
      have place : lastPlace bits value ∣ 2 ^ exponent := by
        apply Nat.pow_dvd_pow
        omega
      exact roundBits_of_dvd (place.trans (Dvd.intro_left mantissa same.symm))

end Support
