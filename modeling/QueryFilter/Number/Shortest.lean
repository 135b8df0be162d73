import QueryFilter.Number.Decimal

/-!
# Shortest decimals

The decimal of fewest digits that still reads back as a given binary64 value, and among those the one
nearest to it. The reals that read back form an interval around the value, which contains its ends exactly
when the mantissa is even. On a grid of decimals with a fixed number of digits only the two neighbours of
the value have to be tried.
-/

namespace QueryFilter
namespace Binary64

/-- A nonnegative real written as a ratio of natural numbers. -/
structure Ratio where
  /-- The dividend. -/
  numerator : Nat
  /-- The divisor. -/
  denominator : Nat

/--
The interval of reals that round to a positive value. All three points are multiples of one unit, a quarter
of the last place of the mantissa.
-/
structure RoundingInterval where
  /-- The lower end, in units. -/
  lower : Nat
  /-- The value itself, in units. -/
  center : Nat
  /-- The upper end, in units. -/
  upper : Nat
  /-- The ends themselves round to the value. -/
  closed : Bool
  /-- The size of the unit. -/
  unit : Ratio

/-- The interval around the magnitude of a value; the gap below a power of two is half as wide. -/
def roundingInterval (value : Binary64) : RoundingInterval :=
  let narrow := value.mantissa = 1 <<< 52 ∧ value.exponent ≠ -1074
  { lower := 4 * value.mantissa - (if narrow then 1 else 2)
    center := 4 * value.mantissa
    upper := 4 * value.mantissa + 2
    closed := value.mantissa % 2 == 0
    unit :=
      { numerator := 1 <<< (value.exponent - 2).toNat
        denominator := 1 <<< (2 - value.exponent).toNat } }

namespace RoundingInterval

/-- The interval measured in units of `10 ^ power`: numerators over one common denominator. -/
def scaled (interval : RoundingInterval) (power : Int) : Nat × Nat × Nat × Nat :=
  let factor := interval.unit.numerator * Nat.pow 10 (-power).toNat
  (interval.lower * factor, interval.center * factor, interval.upper * factor,
    interval.unit.denominator * Nat.pow 10 power.toNat)

/--
The multiple of `10 ^ power` inside the interval that is nearest to its center, the even one of two equally
near; none when both neighbours of the center lie outside.
-/
def nearestMultiple? (interval : RoundingInterval) (power : Int) : Option Nat :=
  let (lower, center, upper, denominator) := interval.scaled power
  let inside (candidate : Nat) : Bool :=
    let point := candidate * denominator
    if interval.closed then lower ≤ point && point ≤ upper else lower < point && point < upper
  let below := center / denominator
  let above := below + 1
  match inside below, inside above with
  | true, true =>
      some (roundedQuotient center denominator)
  | true, false =>
      some below
  | false, true =>
      some above
  | false, false =>
      none

end RoundingInterval

/-- The exponent `k` for which a positive ratio lies in `[10 ^ k, 10 ^ (k + 1))`. -/
def decimalExponent (numerator denominator : Nat) : Int :=
  if denominator ≤ numerator then
    (Decimal.digitCount (numerator / denominator) : Int) - 1
  else
    -(Decimal.digitCount ((denominator + numerator - 1) / numerator - 1) : Int)

/--
The shortest decimal for the magnitude of a value. Seventeen digits always suffice, so the last grid serves
as the default.
-/
def shortest (value : Binary64) : Decimal :=
  let leading := decimalExponent value.numerator value.denominator
  let interval := value.roundingInterval
  let onGrid (count : Nat) : Option Decimal :=
    let power := leading - count
    (interval.nearestMultiple? power).map fun digits => { digits, exponent := power }
  ((List.range 17).findSome? onGrid).getD
    { digits := 0, exponent := 0 }

/-- The text of a value: a minus sign for the sign bit, then the shortest decimal; a zero is `0.0`. -/
def text (value : Binary64) : List Char :=
  let magnitude :=
    if value.mantissa = 0 then ['0', '.', '0'] else value.shortest.text
  if value.negative then '-' :: magnitude else magnitude

end Binary64
end QueryFilter
