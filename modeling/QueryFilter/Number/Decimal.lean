import QueryFilter.Number.Binary64

/-!
# Decimal numbers

A decimal is a natural number scaled by a power of ten. Reading a digit word gives one, rounding gives a
binary64 value, and writing uses positional form near one and scientific form elsewhere.
-/

namespace QueryFilter

/-- The natural number `digits` scaled by `10 ^ exponent`. -/
structure Decimal where
  /-- The significant digits as one number. -/
  digits : Nat
  /-- The power of ten of the last digit. -/
  exponent : Int
  deriving DecidableEq, Repr

namespace Decimal

/-- The number that a word of decimal digits stands for. -/
def digitsValue (word : List Char) : Nat :=
  word.foldl (fun value digit => 10 * value + (digit.toNat - '0'.toNat)) 0

/-- Number of decimal digits of a natural number; zero has one. -/
def digitCount (number : Nat) : Nat :=
  (Nat.toDigits 10 number).length

/--
The binary64 value nearest to a decimal; none when it would be infinite. A magnitude of at least `10 ^ 400`
is infinite and one below `10 ^ (-400)` is zero without any power being computed.
-/
def toBinary64? (negative : Bool) (decimal : Decimal) : Option Binary64 :=
  let magnitude := (digitCount decimal.digits : Int) + decimal.exponent
  if decimal.digits = 0 ∨ magnitude < -400 then
    some (Binary64.zero negative)
  else if 400 < magnitude then
    none
  else
    Binary64.nearest? negative (decimal.digits * Nat.pow 10 decimal.exponent.toNat)
      (Nat.pow 10 (-decimal.exponent).toNat)

/-- A word without the zeros at its end. -/
def withoutTrailingZeros (word : List Char) : List Char :=
  (word.reverse.dropWhile (· == '0')).reverse

/-- The exponent mark of scientific form, with the sign always written. -/
def exponentMark (exponent : Int) : List Char :=
  'e' :: (if exponent < 0 then '-' else '+') :: Nat.toDigits 10 exponent.natAbs

/--
The written form of digits `d₁d₂…dₙ` whose first one counts units of `10 ^ leading`: positional with a point
for a leading exponent from -5 to 15, otherwise scientific with one digit before the point.
-/
def written (digits : List Char) (leading : Int) : List Char :=
  if -5 ≤ leading ∧ leading < 16 then
    if leading < 0 then
      '0' :: '.' :: (List.replicate (-leading - 1).toNat '0' ++ digits)
    else
      let wholeLength := leading.toNat + 1
      if digits.length ≤ wholeLength then
        digits ++ List.replicate (wholeLength - digits.length) '0' ++ ['.', '0']
      else
        digits.take wholeLength ++ '.' :: digits.drop wholeLength
  else
    match digits with
    | [] =>
        exponentMark leading
    | [first] =>
        first :: exponentMark leading
    | first :: rest =>
        first :: '.' :: (rest ++ exponentMark leading)

/-- The text of a decimal, without the zeros that end its digits. -/
def text (decimal : Decimal) : List Char :=
  let digits := Nat.toDigits 10 decimal.digits
  written (withoutTrailingZeros digits) (decimal.exponent + digits.length - 1)

end Decimal
end QueryFilter
