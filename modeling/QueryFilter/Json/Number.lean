import QueryFilter.Number.Stepwise
import QueryFilter.Number.Shortest

/-!
# Json numbers

A number of a Json text is an integer that fits 64 bits, signed or unsigned, or a finite binary64 value.
The literal decides which: a fraction or an exponent makes it a binary64 value, as do integers out of range
and the integer literal of negative zero. Such a value is found in steps, so it need not be the nearest one.
-/

namespace QueryFilter

/-- The integer fits 64 bits with a sign or without one: it is at least `-2 ^ 63` and below `2 ^ 64`. -/
def Number.InRange (value : Int) : Prop :=
  -0x8000000000000000 ≤ value ∧ value < 0x10000000000000000

instance (value : Int) : Decidable (Number.InRange value) := by
  unfold Number.InRange
  infer_instance

/-- A number as a Json text holds it. -/
inductive Number
  | integer (value : Int) (inRange : Number.InRange value)
  | float (value : Binary64)
  deriving DecidableEq, Repr

namespace Number

/-- The integer as a number, if it is in range. -/
def ofInt? (value : Int) : Option Number :=
  if inRange : InRange value then some (.integer value inRange) else none

/-- An unsigned word as a number. -/
def ofUInt64 (value : UInt64) : Number :=
  .integer value.toNat (by
    have bound := value.toNat_lt
    unfold InRange
    omega)

/-- The number that a literal denotes; none when it is too large for a finite binary64 value. -/
def ofLiteral? (literal : NumberLiteral) : Option Number :=
  let float? := literal.stepwise?.map Number.float
  if literal.isWhole && !(literal.negative && literal.integerValue == 0) then
    (ofInt? literal.integerValue).or float?
  else
    float?

/-- A nonempty word of digits and what follows it. -/
def readDigits? (text : List Char) : Option (List Char × List Char) :=
  match text.takeWhile Char.isDigit with
  | [] =>
      none
  | word =>
      some (word, text.dropWhile Char.isDigit)

/-- The digits before the point: a lone zero or a word that does not begin with a zero. -/
def readWhole? (text : List Char) : Option (List Char × List Char) :=
  match readDigits? text with
  | some ('0' :: _ :: _, _) =>
      none
  | result =>
      result

/-- The optional fraction: a point and at least one digit. -/
def readFraction? : List Char → Option (Option (List Char) × List Char)
  | '.' :: text =>
      (readDigits? text).map fun (word, rest) => (some word, rest)
  | text =>
      some (none, text)

/-- The optional minus sign. -/
def readSign : List Char → Bool × List Char
  | '-' :: text =>
      (true, text)
  | text =>
      (false, text)

/-- The value of an exponent: an optional sign of either kind and at least one digit. -/
def readPower? (text : List Char) : Option (Int × List Char) :=
  let (negative, text) :=
    match text with
    | '+' :: text =>
        (false, text)
    | text =>
        readSign text
  (readDigits? text).map fun (word, rest) =>
    (if negative then -(Decimal.digitsValue word : Int) else Decimal.digitsValue word, rest)

/-- The optional exponent behind a letter of either case. -/
def readExponent? : List Char → Option (Option Int × List Char)
  | 'e' :: text =>
      (readPower? text).map fun (power, rest) => (some power, rest)
  | 'E' :: text =>
      (readPower? text).map fun (power, rest) => (some power, rest)
  | text =>
      some (none, text)

/-- The literal that a text is as a whole. -/
def readLiteral? (text : List Char) : Option NumberLiteral := do
  let (negative, text) := readSign text
  let (whole, text) ← readWhole? text
  let (fraction?, text) ← readFraction? text
  let (exponent?, text) ← readExponent? text
  match text with
  | [] =>
      some { negative, whole, fraction?, exponent? }
  | _ :: _ =>
      none

/-- The number that a text is as a whole. -/
def ofText? (text : List Char) : Option Number :=
  (readLiteral? text).bind ofLiteral?

/-- The text of an integer in decimal digits. -/
def integerText : Int → List Char
  | .ofNat magnitude =>
      Nat.toDigits 10 magnitude
  | .negSucc predecessor =>
      '-' :: Nat.toDigits 10 (predecessor + 1)

/-- The characters of a written number. -/
def chars : Number → List Char
  | .integer value _ =>
      integerText value
  | .float value =>
      value.text

/-- The text of a number, the same wherever a number is written. -/
def text (number : Number) : String :=
  String.ofList number.chars

end Number
end QueryFilter
