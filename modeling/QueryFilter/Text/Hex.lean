/-!
# Hexadecimal words

The value of hexadecimal digits, which may be of either case.
-/

namespace QueryFilter
namespace Text

/-- The value of a hexadecimal digit of either case. -/
def hexDigit? (char : Char) : Option Nat :=
  if '0' ≤ char ∧ char ≤ '9' then
    some (char.toNat - '0'.toNat)
  else if 'a' ≤ char ∧ char ≤ 'f' then
    some (char.toNat - 'a'.toNat + 10)
  else if 'A' ≤ char ∧ char ≤ 'F' then
    some (char.toNat - 'A'.toNat + 10)
  else
    none

/-- The number that a word of hexadecimal digits writes. -/
def hexValue? (word : List Char) : Option Nat :=
  (word.mapM hexDigit?).map fun digits => digits.foldl (fun value digit => 16 * value + digit) 0

end Text
end QueryFilter
