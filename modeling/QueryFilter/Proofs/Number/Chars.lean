import Mathlib.Data.List.Basic
import Mathlib.Tactic.SplitIfs
import QueryFilter.Json.Number

/-!
# Characters of written numbers

A written number has at least one character, and all of its characters are digits, signs, points and the
letter of an exponent. So no number is mistaken for a word or runs into what stands behind it.
-/

namespace QueryFilter
namespace Number

/-- A character that a written number may have. -/
def isNumberChar (char : Char) : Bool :=
  char.isDigit || char == '-' || char == '+' || char == '.' || char == 'e'

/-- A word of one or more characters of written numbers. -/
def IsNumberWord (word : List Char) : Prop :=
  word ≠ [] ∧ ∀ char ∈ word, isNumberChar char = true

instance (word : List Char) : Decidable (IsNumberWord word) :=
  decidable_of_iff (word ≠ [] ∧ word.all isNumberChar = true) (by rw [List.all_eq_true, IsNumberWord])

theorem isNumberChar_of_isDigit
    {char : Char}
    (digit : char.isDigit = true) :
    isNumberChar char = true := by
  simp [isNumberChar, digit]

theorem isDigit_of_mem_toDigits
    {number : Nat}
    {char : Char}
    (listed : char ∈ Nat.toDigits 10 number) :
    char.isDigit = true :=
  Nat.isDigit_of_mem_toDigits (by decide) (by decide) listed

theorem isNumberChar_of_mem_toDigits
    {number : Nat}
    {char : Char}
    (listed : char ∈ Nat.toDigits 10 number) :
    isNumberChar char = true :=
  isNumberChar_of_isDigit (isDigit_of_mem_toDigits listed)

/-- A sign or another character of numbers in front of a word keeps it a word of numbers. -/
theorem IsNumberWord.cons
    {word : List Char}
    (isWord : IsNumberWord word)
    {char : Char}
    (numberChar : isNumberChar char = true) :
    IsNumberWord (char :: word) := by
  refine ⟨List.cons_ne_nil char word, ?_⟩
  simpa [numberChar] using isWord.2

theorem isNumberWord_toDigits (number : Nat) : IsNumberWord (Nat.toDigits 10 number) := by
  refine ⟨Nat.toDigits_ne_nil, ?_⟩
  intro char listed
  exact isNumberChar_of_mem_toDigits listed

theorem isNumberWord_integerText (value : Int) : IsNumberWord (integerText value) := by
  cases value with
  | ofNat magnitude => exact isNumberWord_toDigits magnitude
  | negSucc predecessor => exact (isNumberWord_toDigits (predecessor + 1)).cons rfl

end Number

namespace Decimal

open Number

theorem isNumberWord_exponentMark (exponent : Int) : IsNumberWord (exponentMark exponent) := by
  have sign : isNumberChar (if exponent < 0 then '-' else '+') = true := by split <;> rfl
  exact ((isNumberWord_toDigits exponent.natAbs).cons sign).cons rfl

/-- The written form of digits adds only characters of numbers, and at least one of them. -/
theorem isNumberWord_written
    {digits : List Char}
    (digitChars : ∀ char ∈ digits, isNumberChar char = true)
    (leading : Int) :
    IsNumberWord (written digits leading) := by
  have zero : isNumberChar '0' = true := rfl
  have point : isNumberChar '.' = true := rfl
  have mark := isNumberWord_exponentMark leading
  unfold written
  dsimp only
  split_ifs with positional small whole
  · refine ⟨by simp, ?_⟩
    intro char listed
    simp only [List.mem_cons, List.mem_append, List.mem_replicate] at listed
    rcases listed with rfl | rfl | ⟨-, rfl⟩ | listed
    · exact zero
    · exact point
    · exact zero
    · exact digitChars char listed
  · refine ⟨by simp, ?_⟩
    intro char listed
    simp only [List.mem_cons, List.mem_append, List.mem_replicate, List.not_mem_nil, or_false] at listed
    rcases listed with (listed | ⟨-, rfl⟩) | rfl | rfl
    · exact digitChars char listed
    · exact zero
    · exact point
    · exact zero
  · refine ⟨by simp, ?_⟩
    intro char listed
    simp only [List.mem_cons, List.mem_append] at listed
    rcases listed with listed | rfl | listed
    · exact digitChars char (List.mem_of_mem_take listed)
    · exact point
    · exact digitChars char (List.mem_of_mem_drop listed)
  · split
    case h_1 => exact mark
    case h_2 first => exact mark.cons (digitChars first (by simp))
    case h_3 first rest _ =>
        refine ⟨List.cons_ne_nil _ _, ?_⟩
        intro char listed
        simp only [List.mem_cons, List.mem_append] at listed
        rcases listed with rfl | rfl | listed | listed
        · exact digitChars char (by simp)
        · exact point
        · exact digitChars char (List.mem_cons_of_mem first listed)
        · exact mark.2 char listed

theorem isDigit_of_mem_withoutTrailingZeros
    {number : Nat}
    {char : Char}
    (listed : char ∈ withoutTrailingZeros (Nat.toDigits 10 number)) :
    char.isDigit = true := by
  rw [withoutTrailingZeros, List.mem_reverse] at listed
  have amongDigits := (List.dropWhile_sublist _).subset listed
  exact isDigit_of_mem_toDigits (List.mem_reverse.1 amongDigits)

theorem isNumberWord_text (decimal : Decimal) : IsNumberWord decimal.text := by
  apply isNumberWord_written
  intro char listed
  exact isNumberChar_of_isDigit (isDigit_of_mem_withoutTrailingZeros listed)

end Decimal

namespace Number

theorem isNumberWord_binary64 (value : Binary64) : IsNumberWord value.text := by
  have magnitude :
      IsNumberWord (if value.mantissa = 0 then ['0', '.', '0'] else value.shortest.text) := by
    split
    · decide
    · exact value.shortest.isNumberWord_text
  unfold Binary64.text
  dsimp only
  split
  · exact magnitude.cons rfl
  · exact magnitude

/-- Every number is written as a word of characters of numbers. -/
theorem isNumberWord_chars (number : Number) : IsNumberWord number.chars := by
  cases number with
  | integer value inRange => exact isNumberWord_integerText value
  | float value => exact isNumberWord_binary64 value

end Number
end QueryFilter
