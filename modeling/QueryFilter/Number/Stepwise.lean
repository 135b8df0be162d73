import QueryFilter.Number.Literal

/-!
# Values of literals in steps

A reader that is made for speed does not round a literal as a whole. It collects the digits in a significand of 64
bits, leaving out those that do not fit, and scales the significand by rounded powers of ten. So the value is
rounded more than once, and may differ from the nearest one in its last place.
-/

namespace QueryFilter

namespace Binary64

/-- The product of two values that are not negative; none when it would be infinite. -/
def times? (left right : Binary64) : Option Binary64 :=
  nearest? false (left.numerator * right.numerator) (left.denominator * right.denominator)

/-- The quotient of two values that are not negative; none when it would be infinite. -/
def over? (left right : Binary64) : Option Binary64 :=
  nearest? false (left.numerator * right.denominator) (left.denominator * right.numerator)

/-- The greatest power of ten that is a finite value. -/
def greatestPower : Nat := 308

/-- The value nearest to a power of ten; none when it would be infinite. -/
def powerOfTen? (power : Nat) : Option Binary64 :=
  nearest? false (Nat.pow 10 power) 1

/--
A value that is not negative, scaled by a power of ten: multiplied or divided once by this power if it is finite,
and otherwise divided by the greatest power until the rest is. None when the result would be infinite.
-/
def scaled? (value : Binary64) (power : Int) : Option Binary64 :=
  if power.natAbs ≤ greatestPower then
    (powerOfTen? power.natAbs).bind fun factor =>
      if 0 ≤ power then value.times? factor else value.over? factor
  else if value.mantissa = 0 then
    some value
  else if 0 ≤ power then
    none
  else
    ((powerOfTen? greatestPower).bind value.over?).bind fun smaller =>
      scaled? smaller (power + greatestPower)
termination_by (-power).toNat
decreasing_by
  simp only [greatestPower] at *
  omega

end Binary64

namespace NumberLiteral

/-- The significand with digits added at its end as far as it fits 64 bits, and the number of digits left over. -/
def collect (significand : Nat) : List Char → Nat × Nat
  | [] =>
      (significand, 0)
  | digit :: rest =>
      let longer := 10 * significand + Decimal.digitsValue [digit]
      if longer < 0x10000000000000000 then collect longer rest else (significand, rest.length + 1)

/--
The decimal that is left of the magnitude of a literal. A digit before the point that is left over counts as a
zero, and one behind the point not at all.
-/
def collected (literal : NumberLiteral) : Decimal :=
  let fraction := literal.fraction?.getD []
  let (whole, zeros) := collect 0 literal.whole
  let (significand, unread) := collect whole fraction
  { digits := significand
    exponent := zeros - (fraction.length - unread) + literal.exponent?.getD 0 }

/-- The value of a literal in steps, which keeps the sign of a zero; none when it would be infinite. -/
def stepwise? (literal : NumberLiteral) : Option Binary64 :=
  let decimal := literal.collected
  ((Binary64.nearest? false decimal.digits 1).bind fun significand =>
    significand.scaled? decimal.exponent).map fun value =>
      { value with negative := literal.negative }

end NumberLiteral
end QueryFilter
