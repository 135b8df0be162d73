import Mathlib.Algebra.Order.Floor.Semifield
import Mathlib.Data.Rat.Floor
import QueryFilter.Json.Number

/-!
# Exact values of numbers

The rational number that a number of a Json text stands for. Its sign and the integer part of its magnitude
are what the parts of a binary64 value say without any rational arithmetic.
-/

namespace QueryFilter

namespace Binary64

/-- The magnitude of a value, without its sign. -/
def magnitude (value : Binary64) : ℚ :=
  value.mantissa * 2 ^ value.exponent

/-- The exact value; the two zeros have the same. -/
def toRat (value : Binary64) : ℚ :=
  if value.negative then -value.magnitude else value.magnitude

theorem magnitude_nonneg (value : Binary64) : 0 ≤ value.magnitude := by
  exact mul_nonneg (Nat.cast_nonneg _) (zpow_nonneg zero_le_two _)

theorem magnitude_eq_zero_iff
    {value : Binary64} :
    value.magnitude = 0 ↔ value.mantissa = 0 := by
  simp [magnitude, zpow_ne_zero]

/-- The quotient of numerator and denominator is the magnitude. -/
theorem numerator_div_denominator (value : Binary64) :
    (value.numerator : ℚ) / value.denominator = value.magnitude := by
  rw [numerator, denominator, magnitude, Nat.shiftLeft_eq, Nat.one_shiftLeft]
  push_cast
  rcases le_total 0 value.exponent with whole | fractional
  · obtain ⟨power, power_eq⟩ := Int.eq_ofNat_of_zero_le whole
    simp [power_eq]
  · obtain ⟨power, power_eq⟩ := Int.exists_eq_neg_ofNat fractional
    simp [power_eq, div_eq_mul_inv]

theorem floorMagnitude_eq (value : Binary64) : value.floorMagnitude = ⌊value.magnitude⌋₊ := by
  rw [floorMagnitude, ← numerator_div_denominator, Nat.floor_div_eq_div]

/-- A value is below zero when it has the sign and is no zero. -/
theorem toRat_neg_iff
    {value : Binary64} :
    value.toRat < 0 ↔ value.IsNegative := by
  have nonneg := value.magnitude_nonneg
  rw [toRat, IsNegative]
  split_ifs with sign
  · rw [neg_lt_zero, nonneg.lt_iff_ne', Ne, magnitude_eq_zero_iff]
    simp [sign]
  · simp [sign, nonneg]

/-- A value that is not below zero is its magnitude. -/
theorem toRat_eq_magnitude
    {value : Binary64}
    (nonnegative : ¬value.IsNegative) :
    value.toRat = value.magnitude := by
  rw [toRat]
  split_ifs with sign
  · have zero : value.mantissa = 0 := by
      by_contra nonzero
      exact nonnegative ⟨sign, nonzero⟩
    rw [magnitude_eq_zero_iff.2 zero, neg_zero]
  · rfl

end Binary64

namespace Number

/-- The exact value of a number. -/
def toRat : Number → ℚ
  | .integer value _ =>
      value
  | .float value =>
      value.toRat

@[simp] theorem toRat_integer
    (value : Int)
    (inRange : InRange value) :
    (integer value inRange).toRat = value := rfl

@[simp] theorem toRat_float (value : Binary64) : (float value).toRat = value.toRat := rfl

@[simp] theorem toRat_ofUInt64 (value : UInt64) : (ofUInt64 value).toRat = value.toNat := by
  rw [ofUInt64, toRat_integer, Int.cast_natCast]

end Number
end QueryFilter
