/-!
# Finite binary64 numbers

A finite binary64 number is a sign, a mantissa and a power of two. The mantissa has at most 53 bits, and
every nonzero value and each of the two zeros has exactly one representation, so equality of the data is
equality of the numbers with the two zeros kept apart. All arithmetic is exact: a ratio of natural numbers
is rounded to the nearest value with ties to the even mantissa.
-/

namespace QueryFilter

/-- The mantissa and exponent of a finite binary64 value in its only representation. -/
def Binary64.Canonical (mantissa : Nat) (exponent : Int) : Prop :=
  mantissa < 1 <<< 53 ∧ -1074 ≤ exponent ∧ exponent ≤ 971 ∧
    (1 <<< 52 ≤ mantissa ∨ exponent = -1074)

instance (mantissa : Nat) (exponent : Int) : Decidable (Binary64.Canonical mantissa exponent) := by
  unfold Binary64.Canonical
  infer_instance

/-- A finite binary64 value: `mantissa * 2 ^ exponent`, negated when `negative` holds. -/
structure Binary64 where
  /-- The sign bit, which a zero has too. -/
  negative : Bool
  /-- The integer significand. -/
  mantissa : Nat
  /-- The power of two that the significand is scaled by. -/
  exponent : Int
  /-- The representation is the canonical one. -/
  canonical : Binary64.Canonical mantissa exponent
  deriving DecidableEq, Repr

namespace Binary64

/-- The value with these parts, if they are canonical. -/
def ofParts? (negative : Bool) (mantissa : Nat) (exponent : Int) : Option Binary64 :=
  if canonical : Canonical mantissa exponent then
    some { negative, mantissa, exponent, canonical }
  else
    none

/-- The zero of the given sign. -/
def zero (negative : Bool) : Binary64 :=
  { negative, mantissa := 0, exponent := -1074, canonical := by decide }

/-- A value below zero; neither zero is. -/
def IsNegative (value : Binary64) : Prop :=
  value.negative = true ∧ value.mantissa ≠ 0

instance (value : Binary64) : Decidable value.IsNegative := by
  unfold IsNegative
  infer_instance

/-- Numerator of the magnitude as a ratio of natural numbers. -/
def numerator (value : Binary64) : Nat :=
  value.mantissa <<< value.exponent.toNat

/-- Denominator of the magnitude as a ratio of natural numbers. -/
def denominator (value : Binary64) : Nat :=
  1 <<< (-value.exponent).toNat

/-- The integer part of the magnitude. -/
def floorMagnitude (value : Binary64) : Nat :=
  value.numerator / value.denominator

/-- The integer nearest to a ratio, the even one of two equally near. -/
def roundedQuotient (numerator denominator : Nat) : Nat :=
  let quotient := numerator / denominator
  let twice := 2 * (numerator % denominator)
  if twice < denominator ∨ (twice = denominator ∧ quotient % 2 = 0) then quotient else quotient + 1

/-- The exponent at which a positive ratio has a 53-bit integer part, or the least exponent. -/
def exponentOf (numerator denominator : Nat) : Int :=
  let guess := max ((numerator.log2 : Int) - denominator.log2 - 53) (-1074)
  let quotient := (numerator <<< (-guess).toNat) / (denominator <<< guess.toNat)
  if quotient < 1 <<< 53 then guess else guess + 1

/-- The value nearest to a ratio, with ties to the even mantissa; none when it would be infinite. -/
def nearest? (negative : Bool) (numerator denominator : Nat) : Option Binary64 :=
  if numerator = 0 then
    some (zero negative)
  else
    let exponent := exponentOf numerator denominator
    let mantissa :=
      roundedQuotient (numerator <<< (-exponent).toNat) (denominator <<< exponent.toNat)
    if mantissa = 1 <<< 53 then
      ofParts? negative (1 <<< 52) (exponent + 1)
    else
      ofParts? negative mantissa exponent

end Binary64
end QueryFilter
