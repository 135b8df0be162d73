import QueryFilter.Number.Decimal

/-!
# Number literals

The parts of a written number: a sign, digits before the point, and optionally digits behind it and an
exponent. The literal denotes a decimal; which literals are admitted is decided by the formats that use them.
-/

namespace QueryFilter

/-- The parts of a number literal. -/
structure NumberLiteral where
  /-- A minus sign stands in front. -/
  negative : Bool
  /-- The digits before the point. -/
  whole : List Char
  /-- The digits behind the point, if there is one. -/
  fraction? : Option (List Char)
  /-- The value of the exponent, if there is one. -/
  exponent? : Option Int
  deriving DecidableEq, Repr

namespace NumberLiteral

/-- The literal has neither a point nor an exponent. -/
def isWhole (literal : NumberLiteral) : Bool :=
  literal.fraction?.isNone && literal.exponent?.isNone

/-- The signed value of the digits before the point. -/
def integerValue (literal : NumberLiteral) : Int :=
  let magnitude : Int := Decimal.digitsValue literal.whole
  if literal.negative then -magnitude else magnitude

/-- The magnitude of the literal. -/
def decimal (literal : NumberLiteral) : Decimal :=
  let fraction := literal.fraction?.getD []
  { digits := Decimal.digitsValue (literal.whole ++ fraction)
    exponent := literal.exponent?.getD 0 - fraction.length }

/-- The nearest binary64 value, which keeps the sign of a zero; none when it would be infinite. -/
def toBinary64? (literal : NumberLiteral) : Option Binary64 :=
  literal.decimal.toBinary64? literal.negative

end NumberLiteral
end QueryFilter
