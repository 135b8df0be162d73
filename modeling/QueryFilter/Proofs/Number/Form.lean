import QueryFilter.Proofs.Number.Chars

/-!
# Points and plus signs in written numbers

A number in positional form has a point. One in scientific form has a point when it has several digits, and a
plus sign when its exponent is not negative, in front of the digits of the exponent. So a written number is
without both exactly when it is an integer, or a value of one digit in scientific form with a negative exponent.
-/

namespace QueryFilter
namespace Number

/-- A word with neither a point nor a plus sign. -/
def IsPlainWord (word : List Char) : Prop :=
  '.' ∉ word ∧ '+' ∉ word

instance (word : List Char) : Decidable (IsPlainWord word) := by
  unfold IsPlainWord
  infer_instance

/-- A plus sign stands only behind the letter of an exponent and in front of its digits. -/
def HasPlusInExponent (word : List Char) : Prop :=
  '+' ∈ word → ∃ front digits, word = front ++ 'e' :: '+' :: digits ∧ '+' ∉ front ∧
    ∀ digit ∈ digits, digit.isDigit = true

theorem isPlainWord_cons_iff
    {char : Char}
    {word : List Char}
    (plain : IsPlainWord [char]) :
    IsPlainWord (char :: word) ↔ IsPlainWord word := by
  obtain ⟨notPoint, notPlus⟩ := plain
  rw [List.mem_singleton] at notPoint notPlus
  simp [IsPlainWord, notPoint, notPlus]

theorem isPlainWord_of_isDigit
    {word : List Char}
    (digits : ∀ char ∈ word, char.isDigit = true) :
    IsPlainWord word := by
  constructor
  · intro listed
    exact absurd (digits '.' listed) (by decide)
  · intro listed
    exact absurd (digits '+' listed) (by decide)

theorem isPlainWord_toDigits (number : Nat) : IsPlainWord (Nat.toDigits 10 number) :=
  isPlainWord_of_isDigit fun _ listed => isDigit_of_mem_toDigits listed

theorem isPlainWord_integerText (value : Int) : IsPlainWord (integerText value) := by
  cases value with
  | ofNat magnitude => exact isPlainWord_toDigits magnitude
  | negSucc predecessor => exact (isPlainWord_cons_iff (by decide)).2 (isPlainWord_toDigits (predecessor + 1))

theorem IsPlainWord.hasPlusInExponent
    {word : List Char}
    (plain : IsPlainWord word) :
    HasPlusInExponent word :=
  fun plus => absurd plus plain.2

theorem HasPlusInExponent.cons
    {char : Char}
    {word : List Char}
    (inExponent : HasPlusInExponent word)
    (notPlus : char ≠ '+') :
    HasPlusInExponent (char :: word) := by
  intro plus
  obtain ⟨front, digits, rfl, plusFree, areDigits⟩ := inExponent (List.mem_of_ne_of_mem notPlus.symm plus)
  refine ⟨char :: front, digits, rfl, ?_, areDigits⟩
  simp [plusFree, notPlus.symm]

end Number

namespace Decimal

open Number

/-- The significant digits of a decimal, without the zeros that end them. -/
def significant (decimal : Decimal) : List Char :=
  withoutTrailingZeros (Nat.toDigits 10 decimal.digits)

/-- The power of ten of the first digit of a decimal. -/
def leading (decimal : Decimal) : Int :=
  decimal.exponent + (Nat.toDigits 10 decimal.digits).length - 1

theorem text_eq_written (decimal : Decimal) : decimal.text = written decimal.significant decimal.leading := rfl

theorem isDigit_of_mem_significant
    {decimal : Decimal}
    {char : Char}
    (listed : char ∈ decimal.significant) :
    char.isDigit = true :=
  isDigit_of_mem_withoutTrailingZeros listed

section

variable {digits : List Char} {leading : Int}

/-- In positional form there is a point and no plus sign. -/
theorem written_positional
    (areDigits : ∀ char ∈ digits, char.isDigit = true)
    (positional : -5 ≤ leading ∧ leading < 16) :
    '.' ∈ written digits leading ∧ '+' ∉ written digits leading := by
  have noPlus := (isPlainWord_of_isDigit areDigits).2
  unfold written
  rw [if_pos positional]
  dsimp only
  split_ifs with small whole
  · simp [noPlus]
  · simp [noPlus]
  · have noPlusBefore : '+' ∉ digits.take (leading.toNat + 1) := fun listed => noPlus (List.mem_of_mem_take listed)
    have noPlusBehind : '+' ∉ digits.drop (leading.toNat + 1) := fun listed => noPlus (List.mem_of_mem_drop listed)
    simp [noPlusBefore, noPlusBehind]

/-- In scientific form the mark of the exponent stands behind the digits, which have a point if there are several. -/
theorem written_scientific
    (areDigits : ∀ char ∈ digits, char.isDigit = true)
    (scientific : ¬(-5 ≤ leading ∧ leading < 16)) :
    ∃ front, written digits leading = front ++ exponentMark leading ∧ '+' ∉ front ∧
      ('.' ∈ front ↔ 1 < digits.length) := by
  have ⟨noPoint, noPlus⟩ := isPlainWord_of_isDigit areDigits
  unfold written
  rw [if_neg scientific]
  match digits with
  | [] => exact ⟨[], rfl, by simp, by simp⟩
  | [first] => exact ⟨[first], rfl, noPlus, by simpa using noPoint⟩
  | first :: second :: rest =>
      refine ⟨first :: '.' :: second :: rest, rfl, ?_, ?_⟩
      · simpa using noPlus
      · simp

theorem exponentMark_of_neg (negative : leading < 0) :
    exponentMark leading = 'e' :: '-' :: Nat.toDigits 10 leading.natAbs := by
  rw [exponentMark, if_pos negative]

theorem exponentMark_of_nonneg (nonneg : ¬leading < 0) :
    exponentMark leading = 'e' :: '+' :: Nat.toDigits 10 leading.natAbs := by
  rw [exponentMark, if_neg nonneg]

/-- The mark of an exponent has no point, and a plus sign unless the exponent is negative. -/
theorem isPlainWord_append_exponentMark_iff
    {front : List Char} :
    IsPlainWord (front ++ exponentMark leading) ↔ IsPlainWord front ∧ leading < 0 := by
  have ⟨noPoint, noPlus⟩ := isPlainWord_toDigits leading.natAbs
  by_cases negative : leading < 0
  · simp [IsPlainWord, exponentMark_of_neg negative, negative, noPoint, noPlus]
  · simp [IsPlainWord, exponentMark_of_nonneg negative, negative]

theorem isPlainWord_written_iff (areDigits : ∀ char ∈ digits, char.isDigit = true) :
    IsPlainWord (written digits leading) ↔ leading < -5 ∧ digits.length ≤ 1 := by
  by_cases positional : -5 ≤ leading ∧ leading < 16
  · have hasPoint := (written_positional areDigits positional).1
    simp only [IsPlainWord, hasPoint, not_true_eq_false, false_and, false_iff]
    omega
  · obtain ⟨front, isWritten, noPlus, point⟩ := written_scientific areDigits positional
    rw [isWritten, isPlainWord_append_exponentMark_iff, IsPlainWord, point]
    simp only [noPlus, not_false_eq_true, and_true]
    omega

theorem hasPlusInExponent_written (areDigits : ∀ char ∈ digits, char.isDigit = true) :
    HasPlusInExponent (written digits leading) := by
  by_cases positional : -5 ≤ leading ∧ leading < 16
  · exact fun plus => absurd plus (written_positional areDigits positional).2
  · obtain ⟨front, isWritten, noPlus, -⟩ := written_scientific areDigits positional
    rw [isWritten]
    by_cases negative : leading < 0
    · have noPlusInDigits := (isPlainWord_toDigits leading.natAbs).2
      rw [exponentMark_of_neg negative]
      intro plus
      simp [noPlus, noPlusInDigits] at plus
    · rw [exponentMark_of_nonneg negative]
      exact fun _ => ⟨front, _, rfl, noPlus, fun _ listed => isDigit_of_mem_toDigits listed⟩

end

end Decimal

namespace Binary64

open Number

/-- A value is written without a point and a plus sign when it is one digit scaled by a power of ten below `-5`. -/
theorem isPlainWord_text_iff (value : Binary64) :
    IsPlainWord value.text ↔
      value.mantissa ≠ 0 ∧ value.shortest.leading < -5 ∧ value.shortest.significant.length ≤ 1 := by
  have magnitude :
      IsPlainWord (if value.mantissa = 0 then ['0', '.', '0'] else value.shortest.text) ↔
        value.mantissa ≠ 0 ∧ value.shortest.leading < -5 ∧ value.shortest.significant.length ≤ 1 := by
    split
    case isTrue zero => simp [IsPlainWord, zero]
    case isFalse nonzero =>
      rw [Decimal.text_eq_written, Decimal.isPlainWord_written_iff fun _ => Decimal.isDigit_of_mem_significant]
      simp [nonzero]
  rw [← magnitude]
  unfold text
  dsimp only
  split
  · rw [isPlainWord_cons_iff (by decide)]
  · rfl

theorem hasPlusInExponent_text (value : Binary64) : HasPlusInExponent value.text := by
  have magnitude :
      HasPlusInExponent (if value.mantissa = 0 then ['0', '.', '0'] else value.shortest.text) := by
    split
    · exact fun plus => absurd plus (by decide)
    · exact Decimal.hasPlusInExponent_written fun _ => Decimal.isDigit_of_mem_significant
  unfold text
  dsimp only
  split
  · exact magnitude.cons (by decide)
  · exact magnitude

end Binary64

/-- However a number is written, a plus sign belongs to its exponent. -/
theorem Number.hasPlusInExponent_chars (number : Number) : HasPlusInExponent number.chars := by
  cases number with
  | integer value inRange => exact (isPlainWord_integerText value).hasPlusInExponent
  | float value => exact value.hasPlusInExponent_text

end QueryFilter
