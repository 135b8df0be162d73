import QueryFilter.Proofs.Mongo.Injective
import QueryFilter.Proofs.Mongo.Like
import QueryFilter.Proofs.Mongo.Unescaped
import QueryFilter.Proofs.Number.Form

/-!
# Expressions of numbers and booleans

The operand of a pattern operator may be a number or a boolean, and its text then stands unescaped in the
expression. This is the expression of the same text as a pattern, and matches this text only, exactly when the text
has no point and no plus sign: for truth values, for integers, and for values of one digit in scientific form with
a negative exponent.
-/

namespace QueryFilter
namespace Pattern

open Regex Number

/-! ## Characters of operands -/

/-- A character that a number or the word of a truth value may have. -/
def isOperandChar (char : Char) : Bool :=
  isNumberChar char || char.isAlpha

theorem isOperandChar_of_mem_text
    {scalar : Scalar}
    (notString : scalar.kind ≠ .string)
    {char : Char}
    (listed : char ∈ scalar.text.toList) :
    isOperandChar char = true := by
  cases scalar with
  | string text => exact absurd rfl notString
  | number value =>
      rw [Scalar.text, Number.text, String.toList_ofList] at listed
      rw [isOperandChar, (isNumberWord_chars value).2 char listed, Bool.true_or]
  | boolean value =>
      have letters : (Scalar.booleanText value).toList.all isOperandChar = true := by cases value <;> decide
      exact List.all_eq_true.1 letters char listed

theorem hasPlusInExponent_text
    {scalar : Scalar}
    (notString : scalar.kind ≠ .string) :
    HasPlusInExponent scalar.text.toList := by
  cases scalar with
  | string text => exact absurd rfl notString
  | number value =>
      rw [Scalar.text, Number.text, String.toList_ofList]
      exact hasPlusInExponent_chars value
  | boolean value =>
      have noPlus : ∀ value, '+' ∉ (Scalar.booleanText value).toList := by decide
      exact fun plus => absurd plus (noPlus value)

/-- Points and plus signs are the only special characters of operands. -/
theorem point_or_plus_of_isSpecial
    {char : Char}
    (operandChar : isOperandChar char = true)
    (special : isSpecial char = true) :
    char = '.' ∨ char = '+' := by
  have listed := of_decide_eq_true special
  have pointOrPlus :=
    List.all_eq_true.1
      (by decide : List.all _ (fun char => !isOperandChar char || char = '.' || char = '+')) char listed
  simpa [operandChar] using pointOrPlus

/-- No character of an operand is a wildcard of patterns. -/
theorem ne_wildcard_of_isOperandChar
    {char : Char}
    (operandChar : isOperandChar char = true) :
    char ≠ '%' ∧ char ≠ '_' := by
  constructor
  · rintro rfl
    exact absurd operandChar (by decide)
  · rintro rfl
    exact absurd operandChar (by decide)

section

variable {text : List Char} (operandChars : ∀ char ∈ text, isOperandChar char = true)

include operandChars

/-! ## The text as a pattern -/

theorem map_piece_of_operandChars : text.map piece = text.map fun char => .once (.literal char) := by
  apply List.map_congr_left
  intro char listed
  have ⟨notPercent, notUnderscore⟩ := ne_wildcard_of_isOperandChar (operandChars char listed)
  exact piece_of_ne notPercent notUnderscore

/-- A plain text is its own expression. -/
theorem flatMap_charRegex_of_isPlainWord (plain : IsPlainWord text) : text.flatMap charRegex = text := by
  have bare : ∀ char ∈ text, charRegex char = [char] := by
    intro char listed
    have ⟨notPercent, notUnderscore⟩ := ne_wildcard_of_isOperandChar (operandChars char listed)
    have notSpecial : ¬isSpecial char = true := by
      intro special
      rcases point_or_plus_of_isSpecial (operandChars char listed) special with rfl | rfl
      · exact plain.1 listed
      · exact plain.2 listed
    rw [charRegex, if_neg notPercent, if_neg notUnderscore, if_neg notSpecial]
  rw [List.flatMap_def, List.map_congr_left bare, ← List.flatMap_def, List.flatMap_singleton']

/-! ## The text as it stands -/

theorem hasOnlyPoints_of_notMem_plus (noPlus : '+' ∉ text) : HasOnlyPoints text := by
  intro char listed operator
  rcases point_or_plus_of_isSpecial (operandChars char listed) (isSpecial_of_mem_operators operator) with point | rfl
  · exact point
  · exact absurd listed noPlus

/--
The unescaped text is read as an expression. It matches itself unless it has a plus sign, and itself only when it
is plain.
-/
theorem exists_pieces_of_operandChars
    (inExponent : HasPlusInExponent text)
    {endsLine : Char → Prop}
    (numbersOnLine : ∀ char, isNumberChar char = true → ¬endsLine char) :
    ∃ pieces, ofChars? true ('^' :: (text ++ ['$'])) = some pieces ∧
      (text ∈ language endsLine pieces ↔ '+' ∉ text) ∧
      ((∀ other, other ∈ language endsLine pieces ↔ other = text) ↔ IsPlainWord text) := by
  by_cases plus : '+' ∈ text
  · obtain ⟨front, digits, rfl, noPlus, areDigits⟩ := inExponent plus
    rw [List.forall_mem_append, List.forall_mem_cons, List.forall_mem_cons] at operandChars
    have digitsPlain := isPlainWord_of_isDigit areDigits
    have frontRead := hasOnlyPoints_of_notMem_plus operandChars.1 noPlus
    have digitsRead := hasOnlyPoints_of_notMem_plus operandChars.2.2.2 digitsPlain.2
    have unmatched : front ++ 'e' :: '+' :: digits ∉ language endsLine (plusPieces front 'e' digits) :=
      notMem_language_barePieces_plus (by decide) digitsPlain.1
    refine ⟨_, pieces?_bares_plus none frontRead (by decide) digitsRead, ?_, ?_⟩
    · exact iff_of_false unmatched (not_not_intro plus)
    · refine iff_of_false (fun only => unmatched ((only _).2 rfl)) (fun plain => plain.2 plus)
  · have matched : text ∈ language endsLine (barePieces text) :=
      mem_language_barePieces_self (numbersOnLine '.' rfl)
    have zeroNotPoint : '0' ≠ '.' := by decide
    refine ⟨_, pieces?_bares none (hasOnlyPoints_of_notMem_plus operandChars plus), ?_, ?_⟩
    · exact iff_of_true matched plus
    · constructor
      · intro only
        refine ⟨fun point => ?_, plus⟩
        obtain ⟨other, different, otherMatched⟩ :=
          exists_ne_mem_language_barePieces point zeroNotPoint (numbersOnLine '0' rfl)
        exact different ((only other).1 otherMatched)
      · intro plain other
        exact mem_language_barePieces_iff_of_notMem plain.1

end

/-! ## The expression of an operand -/

theorem toList_regex_of_kind_ne_string
    {scalar : Scalar}
    (notString : scalar.kind ≠ .string) :
    (regex scalar).toList = '^' :: (scalar.text.toList ++ ['$']) := by
  cases scalar with
  | string text => exact absurd rfl notString
  | number value => simp [regex]
  | boolean value => simp [regex]

theorem toList_regex_string (text : String) :
    (regex (.string text)).toList = regexChars text.toList := by
  rw [regex, String.toList_ofList]

/-- As a pattern the text of an operand matches itself only. -/
theorem matchesOnly_regex_text
    {scalar : Scalar}
    (notString : scalar.kind ≠ .string)
    (endsLine : Char → Prop) :
    MatchesOnly endsLine (regex (.string scalar.text)) scalar.text := by
  have read : ofChars? true (regex (.string scalar.text)).toList = some (scalar.text.toList.map piece) := by
    rw [toList_regex_string]
    exact ofChars?_regexChars true _
  rw [matchesOnly_iff read]
  intro other
  rw [map_piece_of_operandChars fun _ listed => isOperandChar_of_mem_text notString listed,
    mem_language_map_literal_iff]

/-- The expressions of a plain operand and of its text as a pattern are the same. -/
theorem regex_eq_regex_text_of_isPlainWord
    {scalar : Scalar}
    (notString : scalar.kind ≠ .string)
    (plain : IsPlainWord scalar.text.toList) :
    regex scalar = regex (.string scalar.text) := by
  have operandChars : ∀ char ∈ scalar.text.toList, isOperandChar char = true :=
    fun _ listed => isOperandChar_of_mem_text notString listed
  rw [← String.toList_inj, toList_regex_of_kind_ne_string notString, toList_regex_string, regexChars,
    flatMap_charRegex_of_isPlainWord operandChars plain]

/-- Truth values and integers are plain, a value with a fraction or an exponent only under a narrow condition. -/
theorem isPlainWord_text_iff
    {scalar : Scalar}
    (notString : scalar.kind ≠ .string) :
    IsPlainWord scalar.text.toList ↔
      ∀ value, scalar = .number (.float value) →
        value.mantissa ≠ 0 ∧ value.shortest.leading < -5 ∧ value.shortest.significant.length ≤ 1 := by
  cases scalar with
  | string text => exact absurd rfl notString
  | number number =>
      rw [Scalar.text, Number.text, String.toList_ofList]
      cases number with
      | integer value inRange =>
          refine iff_of_true (isPlainWord_integerText value) ?_
          rintro _ ⟨⟩
      | float value =>
          rw [chars, Binary64.isPlainWord_text_iff]
          constructor
          · rintro condition _ ⟨⟩
            exact condition
          · intro condition
            exact condition value rfl
  | boolean value =>
      have plain : ∀ value, IsPlainWord (Scalar.booleanText value).toList := by decide
      refine iff_of_true (plain value) ?_
      rintro _ ⟨⟩

end Pattern

namespace Comparison

open Pattern Regex Number

/-- Comparisons with patterns have the same query document when the operands have the same expression. -/
theorem mongo_eq_mongo_iff_regex_eq
    {comparison : Comparison}
    (ofPatterns : comparison.op.isPattern = true)
    (value : Scalar) :
    comparison.mongo = { comparison with value }.mongo ↔ regex comparison.value = regex value := by
  obtain ⟨property, op, operand⟩ := comparison
  cases op with
  | like => simp [mongo, requirement, Json.single_inj]
  | notLike => simp [mongo, requirement, Json.single_inj]
  | eq | neq | lt | lte | gt | gte => cases ofPatterns

/--
The expression of a number or a boolean is well formed. As long as no character of numbers ends a line, it matches
the text of the operand unless this has a plus sign. It matches this text only, and gives the query document of the
text as a pattern, exactly when the text has neither a point nor a plus sign, while the text as a pattern always
matches itself only. All truth values and integers are without both, and of the binary64 values the nonzero ones of
one digit with an exponent below `-5`.
-/
theorem operand_expression_exact_iff_plain
    {endsLine : Char → Prop}
    (numbersOnLine : ∀ char, isNumberChar char = true → ¬endsLine char)
    (comparison : Comparison)
    (ofPatterns : comparison.op.isPattern = true)
    (notString : comparison.value.kind ≠ .string) :
    let text := comparison.value.text
    let expression := regex comparison.value
    ((ofChars? true expression.toList).isSome = true ∧
        (Matches endsLine expression text ↔ '+' ∉ text.toList) ∧
        (MatchesOnly endsLine expression text ↔ IsPlainWord text.toList)) ∧
      MatchesOnly endsLine (regex (.string text)) text ∧
      (comparison.mongo = { comparison with value := .string text }.mongo ↔ IsPlainWord text.toList) ∧
      (IsPlainWord text.toList ↔
        ∀ value, comparison.value = .number (.float value) →
          value.mantissa ≠ 0 ∧ value.shortest.leading < -5 ∧ value.shortest.significant.length ≤ 1) := by
  intro text expression
  have operandChars : ∀ char ∈ text.toList, isOperandChar char = true :=
    fun _ listed => isOperandChar_of_mem_text notString listed
  have asPattern : MatchesOnly endsLine (regex (.string text)) text := matchesOnly_regex_text notString endsLine
  obtain ⟨pieces, readText, matchedIff, onlyIff⟩ :=
    exists_pieces_of_operandChars operandChars (hasPlusInExponent_text notString) numbersOnLine
  have read : ofChars? true expression.toList = some pieces := by
    rw [toList_regex_of_kind_ne_string notString, readText]
  have exactIff : MatchesOnly endsLine expression text ↔ IsPlainWord text.toList := by
    rw [matchesOnly_iff read, onlyIff]
  refine ⟨⟨?_, ?_, exactIff⟩, asPattern, ?_, isPlainWord_text_iff notString⟩
  · rw [read, Option.isSome_some]
  · rw [matches_iff read, matchedIff]
  · rw [mongo_eq_mongo_iff_regex_eq ofPatterns]
    constructor
    · intro same
      have sameExpression : expression = regex (.string text) := same
      rw [← exactIff, sameExpression]
      exact asPattern
    · exact regex_eq_regex_text_of_isPlainWord notString

/-- The binary64 value `1.5`. -/
def oneAndHalf : Binary64 :=
  { negative := false, mantissa := 0x18000000000000, exponent := -52, canonical := by decide }

/-- The binary64 value nearest to `10 ^ -7`. -/
def tenMillionth : Binary64 :=
  { negative := false, mantissa := 7555786372591432, exponent := -76, canonical := by decide }

/-- The binary64 value `10 ^ 20`. -/
def hundredQuintillion : Binary64 :=
  { negative := false, mantissa := 6103515625000000, exponent := 14, canonical := by decide }

theorem operand_expression_exact_iff_plain_floatSamples :
    MatchesOnly (· = '\n') (regex (.number (.float tenMillionth))) "1e-7" ∧
      Comparison.mongo ⟨"c", .like, .number (.float tenMillionth)⟩ =
        Comparison.mongo ⟨"c", .like, .string "1e-7"⟩ ∧
      ¬Matches (· = '\n') (regex (.number (.float hundredQuintillion))) "1e+20" := by
  have numbersOnLine : ∀ char, isNumberChar char = true → ¬char = '\n' := by
    rintro char numberChar rfl
    exact absurd numberChar (by decide)
  obtain ⟨⟨-, -, exactIff⟩, -, sameIff, -⟩ :=
    operand_expression_exact_iff_plain numbersOnLine
      ⟨"c", .like, .number (.float tenMillionth)⟩ rfl (by decide)
  obtain ⟨⟨-, matchedIff, -⟩, -⟩ :=
    operand_expression_exact_iff_plain numbersOnLine
      ⟨"c", .notLike, .number (.float hundredQuintillion)⟩ rfl (by decide)
  have smallText : (Scalar.number (.float tenMillionth)).text = "1e-7" := by decide
  have largeText : (Scalar.number (.float hundredQuintillion)).text = "1e+20" := by decide
  simp only [smallText] at exactIff sameIff
  simp only [largeText] at matchedIff
  refine ⟨exactIff.2 (by decide), sameIff.2 (by decide), ?_⟩
  rw [matchedIff]
  decide

theorem fraction_matches_other_text :
    regex (.number (.float oneAndHalf)) = "^1.5$" ∧ regex (.string "1.5") = "^1\\.5$" ∧
      Matches (· = '\n') (regex (.number (.float oneAndHalf))) "1x5" ∧
      ¬∀ comparison : Comparison, comparison.op.isPattern = true → comparison.value.kind ≠ .string →
        comparison.mongo = { comparison with value := .string comparison.value.text }.mongo ∧
          MatchesOnly (· = '\n') (regex comparison.value) comparison.value.text := by
  have expression : regex (.number (.float oneAndHalf)) = "^1.5$" := by decide
  have text : (Scalar.number (.float oneAndHalf)).text = "1.5" := by decide
  have other : Matches (· = '\n') (regex (.number (.float oneAndHalf))) "1x5" := by
    have read : ofChars? true "^1.5$".toList = some (barePieces "1.5".toList) := by decide
    rw [expression, matches_iff read, barePieces, mem_language_map_once_iff]
    exact .cons rfl (.cons ⟨'x', by decide, rfl⟩ (.cons rfl .nil))
  refine ⟨expression, by decide, other, ?_⟩
  intro agree
  have onlyText := (agree ⟨"c", .like, .number (.float oneAndHalf)⟩ rfl (by decide)).2
  have same := (onlyText "1x5").1 other
  rw [text] at same
  exact absurd same (by decide)

end Comparison
end QueryFilter
