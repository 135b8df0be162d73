import QueryFilter.Mongo
import QueryFilter.Proofs.Mongo.Regex

/-!
# Expressions of patterns

A text is like a pattern when the pattern can be laid over it, percent signs over any number of characters.
The expression of a pattern is well formed and matches, among texts of one line, exactly those that are like
the pattern. It has one piece for each character of the pattern, since all characters that would be read as
operators are escaped.
-/

namespace QueryFilter
namespace Pattern

open Regex

/--
A text is like a pattern: a percent sign stands for any sequence of characters, an underscore for any one
character, and every other character for itself.
-/
inductive Like : List Char → List Char → Prop
  | nil :
      Like [] []
  | percent {pattern text : List Char} (skipped : List Char) :
      Like pattern text →
      Like ('%' :: pattern) (skipped ++ text)
  | underscore {pattern text : List Char} (char : Char) :
      Like pattern text →
      Like ('_' :: pattern) (char :: text)
  | itself {pattern text : List Char} {char : Char} :
      char ≠ '%' →
      char ≠ '_' →
      Like pattern text →
      Like (char :: pattern) (char :: text)

/-- The piece of an expression that stands for a character of a pattern. -/
def piece (char : Char) : Piece :=
  if char = '%' then
    .repeated .any
  else if char = '_' then
    .once .any
  else
    .once (.literal char)

@[simp] theorem piece_percent : piece '%' = .repeated .any := rfl

@[simp] theorem piece_underscore : piece '_' = .once .any := rfl

theorem piece_of_ne
    {char : Char}
    (notPercent : char ≠ '%')
    (notUnderscore : char ≠ '_') :
    piece char = .once (.literal char) := by
  rw [piece, if_neg notPercent, if_neg notUnderscore]

/-! ## The expression is well formed -/

/-- Every operator of expressions is escaped. -/
theorem isSpecial_of_mem_operators
    {char : Char}
    (listed : char ∈ operators) :
    isSpecial char = true := by
  have escaped : operators.all isSpecial = true := by decide
  exact List.all_eq_true.1 escaped char listed

/-- The expression of characters is read piece by piece, behind whatever atom was read before. -/
theorem pieces?_flatMap_charRegex
    (plus : Bool)
    (last : Option Atom)
    (pattern : List Char) :
    pieces? plus last (pattern.flatMap charRegex ++ ['$']) =
      some (last.toList.map .once ++ pattern.map piece) := by
  induction pattern generalizing last with
  | nil => simp [pieces?]
  | cons char rest inductionHypothesis =>
      rw [List.flatMap_cons, charRegex, List.map_cons]
      split_ifs with percent underscore special
      · -- The star takes the point before it, so nothing is held back any more.
        show pieces? plus last ('.' :: '*' :: (rest.flatMap charRegex ++ ['$'])) = _
        rw [pieces?_point, pieces?_star, inductionHypothesis, percent, piece_percent]
        rfl
      · show pieces? plus last ('.' :: (rest.flatMap charRegex ++ ['$'])) = _
        rw [pieces?_point, inductionHypothesis, underscore, piece_underscore]
        rfl
      · show pieces? plus last ('\\' :: char :: (rest.flatMap charRegex ++ ['$'])) = _
        rw [pieces?_escaped, inductionHypothesis, piece_of_ne percent underscore]
        rfl
      · show pieces? plus last (char :: (rest.flatMap charRegex ++ ['$'])) = _
        have ordinary : char ∉ operators := fun listed => special (isSpecial_of_mem_operators listed)
        rw [pieces?_ordinary last ordinary, inductionHypothesis, piece_of_ne percent underscore]
        rfl

theorem ofChars?_regexChars
    (plus : Bool)
    (pattern : List Char) :
    ofChars? plus (regexChars pattern) = some (pattern.map piece) :=
  pieces?_flatMap_charRegex plus none pattern

/-! ## The expression matches what is like the pattern -/

/-- What the expression matches is like the pattern. -/
theorem like_of_mem_language
    {endsLine : Char → Prop}
    {pattern text : List Char}
    (matched : text ∈ language endsLine (pattern.map piece)) :
    Like pattern text := by
  induction pattern generalizing text with
  | nil =>
      obtain rfl := mem_language_nil_iff.1 matched
      exact .nil
  | cons char rest inductionHypothesis =>
      rw [List.map_cons, mem_language_cons_iff] at matched
      obtain ⟨front, frontMatched, back, backMatched, rfl⟩ := matched
      have behind := inductionHypothesis backMatched
      by_cases percent : char = '%'
      · subst percent
        exact .percent front behind
      by_cases underscore : char = '_'
      · subst underscore
        obtain ⟨first, -, rfl⟩ := mem_language_any_iff.1 frontMatched
        exact .underscore first behind
      · rw [piece_of_ne percent underscore] at frontMatched
        obtain rfl := mem_language_literal_iff.1 frontMatched
        exact .itself percent underscore behind

/-- A text of one line that is like the pattern is matched by the expression. -/
theorem Like.mem_language
    {endsLine : Char → Prop}
    {pattern text : List Char}
    (like : Like pattern text)
    (oneLine : ∀ char ∈ text, ¬endsLine char) :
    text ∈ language endsLine (pattern.map piece) := by
  induction like with
  | nil => exact mem_language_nil_iff.2 rfl
  | @percent pattern text skipped _ inductionHypothesis =>
      rw [List.forall_mem_append] at oneLine
      rw [List.map_cons, piece_percent, mem_language_cons_iff]
      exact ⟨skipped, mem_language_repeated_any oneLine.1, text, inductionHypothesis oneLine.2, rfl⟩
  | @underscore pattern text char _ inductionHypothesis =>
      rw [List.forall_mem_cons] at oneLine
      rw [List.map_cons, piece_underscore, mem_language_cons_iff]
      have single := mem_language_any_iff.2 ⟨char, oneLine.1, rfl⟩
      exact ⟨[char], single, text, inductionHypothesis oneLine.2, rfl⟩
  | @itself pattern text char notPercent notUnderscore _ inductionHypothesis =>
      rw [List.forall_mem_cons] at oneLine
      rw [List.map_cons, piece_of_ne notPercent notUnderscore, mem_language_cons_iff]
      exact ⟨[char], mem_language_literal_iff.2 rfl, text, inductionHypothesis oneLine.2, rfl⟩

/--
The expression of a pattern is well formed, whether the plus sign is known or not. Whatever ends a line, it matches
a text of one line exactly when the text is like the pattern.
-/
theorem regex_matches_iff_like (pattern : String) :
    ∃ pieces, (∀ plus, ofChars? plus (regex (.string pattern)).toList = some pieces) ∧
      ∀ (endsLine : Char → Prop) (text : String),
        (∀ char ∈ text.toList, ¬endsLine char) →
          (text.toList ∈ language endsLine pieces ↔ Like pattern.toList text.toList) := by
  refine ⟨pattern.toList.map piece, ?_, ?_⟩
  · intro plus
    rw [regex, String.toList_ofList]
    exact ofChars?_regexChars plus pattern.toList
  · intro endsLine text oneLine
    constructor
    · exact like_of_mem_language
    · intro like
      exact like.mem_language oneLine

theorem regex_matches_iff_like_operatorSample :
    (∀ char ∈ "a.*[x]\\".toList, ¬char = '\n') ∧ (∀ char ∈ "ab*\\".toList, ¬char = '\n') ∧
      ∃ pieces, (∀ plus, ofChars? plus (regex (.string "_.*%\\")).toList = some pieces) ∧
        "a.*[x]\\".toList ∈ language (· = '\n') pieces ∧
          "ab*\\".toList ∉ language (· = '\n') pieces := by
  have oneLine : ∀ char ∈ "a.*[x]\\".toList, ¬char = '\n' := by
    rintro char listed rfl
    exact absurd listed (by decide)
  have otherOneLine : ∀ char ∈ "ab*\\".toList, ¬char = '\n' := by
    rintro char listed rfl
    exact absurd listed (by decide)
  have like : Like "_.*%\\".toList "a.*[x]\\".toList :=
    .underscore 'a' (.itself (by decide) (by decide) (.itself (by decide) (by decide)
      (.percent ['[', 'x', ']'] (.itself (by decide) (by decide) .nil))))
  have unlike : ¬Like "_.*%\\".toList "ab*\\".toList := by
    intro like
    cases like with
    | underscore _ behind => cases behind
  obtain ⟨pieces, read, matchesIff⟩ := regex_matches_iff_like "_.*%\\"
  refine ⟨oneLine, otherOneLine, pieces, read, ?_, ?_⟩
  · exact (matchesIff _ _ oneLine).2 like
  · rw [matchesIff _ _ otherOneLine]
    exact unlike

end Pattern
end QueryFilter
