import QueryFilter.Number.Literal

/-!
# Toml numbers and dates

The literals of Toml that begin with a digit or a sign. Digits may be separated by single underscores.
Integers fit 64 signed bits, in decimal, hexadecimal, octal or binary form; a fractional number must not
exceed the largest binary64 value; a date must exist in the calendar.
-/

namespace QueryFilter
namespace Toml

/-- Further digits of a number, each behind at most one underscore, and what follows them. -/
def moreDigits (isDigit : Char → Bool) : List Char → List Char × List Char
  | [] =>
      ([], [])
  | '_' :: char :: rest =>
      if isDigit char then
        let (digits, rest) := moreDigits isDigit rest
        (char :: digits, rest)
      else
        ([], '_' :: char :: rest)
  | char :: rest =>
      if isDigit char then
        let (digits, rest) := moreDigits isDigit rest
        (char :: digits, rest)
      else
        ([], char :: rest)

/-- The digits of a number, at least one, and what follows them. -/
def digits? (isDigit : Char → Bool) : List Char → Option (List Char × List Char)
  | [] =>
      none
  | first :: rest =>
      if isDigit first then
        let (digits, rest) := moreDigits isDigit rest
        some (first :: digits, rest)
      else
        none

/-- The digits of a decimal integer, where a zero at the start stands alone. -/
def wholeDigits? : List Char → Option (List Char × List Char)
  | '0' :: rest =>
      some (['0'], rest)
  | text =>
      digits? Char.isDigit text

/-- The value of a digit in any base up to sixteen. -/
def digitValue (char : Char) : Nat :=
  if char.isDigit then
    char.toNat - '0'.toNat
  else
    char.toLower.toNat - 'a'.toNat + 10

/-- The character is a digit of the base. -/
def isDigitOf (base : Nat) (char : Char) : Bool :=
  char.isAlphanum && digitValue char < base

/-- The number that digits write in a base. -/
def valueOf (base : Nat) (digits : List Char) : Nat :=
  digits.foldl (fun value digit => base * value + digitValue digit) 0

/-- A literal that is neither a string nor a container. -/
inductive Literal
  | integer (value : Int)
  | float (text : List Char)
  | date (text : List Char)

/-- An integer that fits 64 signed bits: at least `-2 ^ 63` and below `2 ^ 63`. -/
def integerLiteral? (value : Int) : Option Literal :=
  if -0x8000000000000000 ≤ value ∧ value < 0x8000000000000000 then some (.integer value) else none

/-- Whether a minus sign stands in front, and what follows the optional sign of a number. -/
def sign : List Char → Bool × List Char
  | '+' :: rest =>
      (false, rest)
  | '-' :: rest =>
      (true, rest)
  | text =>
      (false, text)

/-- The optional fraction of a number. -/
def fraction? : List Char → Option (Option (List Char) × List Char)
  | '.' :: rest =>
      (digits? Char.isDigit rest).map fun (digits, rest) => (some digits, rest)
  | text =>
      some (none, text)

/-- The value of an exponent: an optional sign and digits. -/
def power? (text : List Char) : Option (Int × List Char) :=
  let (negative, rest) := sign text
  (digits? Char.isDigit rest).map fun (digits, rest) =>
    (if negative then -(Decimal.digitsValue digits : Int) else Decimal.digitsValue digits, rest)

/-- The optional exponent of a number behind a letter of either case. -/
def exponent? : List Char → Option (Option Int × List Char)
  | 'e' :: rest =>
      (power? rest).map fun (power, rest) => (some power, rest)
  | 'E' :: rest =>
      (power? rest).map fun (power, rest) => (some power, rest)
  | text =>
      some (none, text)

/-- A number without a sign in a base other than ten, behind its mark. -/
def based? (base : Nat) (text : List Char) : Option (Literal × List Char) := do
  let (digits, rest) ← digits? (isDigitOf base) text
  let literal ← integerLiteral? (valueOf base digits)
  some (literal, rest)

/-- A decimal number behind its optional sign. A positive number that would be infinite is refused. -/
def decimal? (negative : Bool) (text : List Char) : Option (Literal × List Char) := do
  let (whole, rest) ← wholeDigits? text
  let (fraction?, rest) ← fraction? rest
  let (exponent?, rest) ← exponent? rest
  let number : NumberLiteral := { negative, whole, fraction?, exponent? }
  if number.isWhole then
    let literal ← integerLiteral? number.integerValue
    some (literal, rest)
  else if negative || number.toBinary64?.isSome then
    some (.float (text.take (text.length - rest.length)), rest)
  else
    none

/-- A number in any form. -/
def number? : List Char → Option (Literal × List Char)
  | '0' :: 'x' :: rest =>
      based? 16 rest
  | '0' :: 'o' :: rest =>
      based? 8 rest
  | '0' :: 'b' :: rest =>
      based? 2 rest
  | text =>
      let (negative, rest) := sign text
      match rest with
      | 'i' :: 'n' :: 'f' :: rest =>
          some (.float ['i', 'n', 'f'], rest)
      | 'n' :: 'a' :: 'n' :: rest =>
          some (.float ['n', 'a', 'n'], rest)
      | rest =>
          decimal? negative rest

/-- A number of exactly `count` digits between two bounds. -/
def field? (count lower upper : Nat) (text : List Char) : Option (Nat × List Char) :=
  let digits := text.take count
  let value := Decimal.digitsValue digits
  if digits.length = count ∧ digits.all Char.isDigit ∧ lower ≤ value ∧ value ≤ upper then
    some (value, text.drop count)
  else
    none

/-- What follows a character that has to stand first. -/
def expect? (char : Char) : List Char → Option (List Char)
  | first :: rest =>
      if first = char then some rest else none
  | [] =>
      none

/-- The year has a leap day. -/
def isLeapYear (year : Nat) : Bool :=
  year % 4 == 0 && (year % 100 != 0 || year % 400 == 0)

/-- The number of days of a month. -/
def daysOfMonth (year month : Nat) : Nat :=
  if month = 2 then
    if isLeapYear year then 29 else 28
  else if month = 4 ∨ month = 6 ∨ month = 9 ∨ month = 11 then
    30
  else
    31

/-- What follows a day of the calendar. -/
def day? (text : List Char) : Option (List Char) := do
  let (year, rest) ← field? 4 0 9999 text
  let rest ← expect? '-' rest
  let (month, rest) ← field? 2 1 12 rest
  let rest ← expect? '-' rest
  let (_, rest) ← field? 2 1 (daysOfMonth year month) rest
  some rest

/-- What follows the optional fraction of a second. -/
def secondFraction? : List Char → Option (List Char)
  | '.' :: rest =>
      match rest.takeWhile Char.isDigit with
      | [] =>
          none
      | _ =>
          some (rest.dropWhile Char.isDigit)
  | text =>
      some text

/-- What follows a time of day; the second may be a leap second. -/
def time? (text : List Char) : Option (List Char) := do
  let (_, rest) ← field? 2 0 23 text
  let rest ← expect? ':' rest
  let (_, rest) ← field? 2 0 59 rest
  let rest ← expect? ':' rest
  let (_, rest) ← field? 2 0 60 rest
  secondFraction? rest

/-- What follows the optional offset of a time. -/
def offset? : List Char → Option (List Char)
  | [] =>
      some []
  | first :: rest =>
      if first = 'Z' ∨ first = 'z' then
        some rest
      else if first = '+' ∨ first = '-' then do
        let (_, rest) ← field? 2 0 23 rest
        let rest ← expect? ':' rest
        let (_, rest) ← field? 2 0 59 rest
        some rest
      else
        some (first :: rest)

/-- What follows a time behind a day; a blank that no time follows ends the date. -/
def timeOfDay? (text : List Char) : Option (List Char) :=
  match text with
  | first :: rest =>
      if first = 'T' ∨ first = 't' then
        (time? rest).bind offset?
      else if first = ' ' ∧ (rest.head?.map Char.isDigit).getD false then
        (time? rest).bind offset?
      else
        some text
  | [] =>
      some []

/-- A date, a date with a time, or a time. -/
def date? (text : List Char) : Option (Literal × List Char) := do
  let rest ← ((day? text).bind timeOfDay?).or (time? text)
  some (.date (text.take (text.length - rest.length)), rest)

/-- A number or a date; a hyphen or a colon behind the first digits tells a date. -/
def literalWord? (text : List Char) : Option (Literal × List Char) :=
  match (text.dropWhile Char.isDigit), text with
  | '-' :: _, first :: _ =>
      if first.isDigit then date? text else number? text
  | ':' :: _, _ =>
      date? text
  | _, _ =>
      number? text

end Toml
end QueryFilter
