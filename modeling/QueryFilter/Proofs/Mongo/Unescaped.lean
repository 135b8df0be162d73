import QueryFilter.Proofs.Mongo.Regex

/-!
# Unescaped texts

An expression may hold a text as it is written, its points and plus signs not escaped. Then a point matches any
character, and a plus sign repeats the character before it one or more times. Without both, the text matches itself
only; with a point it matches other texts too, and with a plus sign it does not even match itself.
-/

namespace QueryFilter
namespace Regex

/-! ## Reading -/

/-- The atom of a character that stands unescaped in an expression. -/
def bareAtom (char : Char) : Atom :=
  if char = '.' then .any else .literal char

/-- The pieces of a text that stands unescaped in an expression. -/
def barePieces (text : List Char) : List Piece :=
  (text.map bareAtom).map .once

/-- The pieces of two unescaped texts around a character with a plus sign behind it. -/
def plusPieces (front : List Char) (char : Char) (back : List Char) : List Piece :=
  barePieces front ++ .once (.literal char) :: .repeated (.literal char) :: barePieces back

/-- A text in which only points are operators. -/
def HasOnlyPoints (text : List Char) : Prop :=
  ∀ char ∈ text, char ∈ operators → char = '.'

theorem pieces?_bare
    (last : Option Atom)
    {char : Char}
    (bare : char ∈ operators → char = '.')
    (rest : List Char) :
    pieces? true last (char :: rest) =
      (pieces? true (some (bareAtom char)) rest).map (last.toList.map .once ++ ·) := by
  by_cases point : char = '.'
  · subst point
    rw [pieces?]
    rfl
  · rw [pieces?_ordinary last (fun listed => point (bare listed)), bareAtom, if_neg point]

theorem pieces?_bares
    (last : Option Atom)
    {text : List Char}
    (bare : HasOnlyPoints text) :
    pieces? true last (text ++ ['$']) =
      some (last.toList.map .once ++ barePieces text) := by
  induction text generalizing last with
  | nil => simp [pieces?, barePieces]
  | cons char rest inductionHypothesis =>
      rw [HasOnlyPoints, List.forall_mem_cons] at bare
      rw [List.cons_append, pieces?_bare last bare.1, inductionHypothesis _ bare.2]
      rfl

theorem pieces?_bares_plus
    (last : Option Atom)
    {front back : List Char}
    {char : Char}
    (bareFront : HasOnlyPoints front)
    (ordinary : char ∉ operators)
    (bareBack : HasOnlyPoints back) :
    pieces? true last (front ++ char :: '+' :: back ++ ['$']) =
      some (last.toList.map .once ++ plusPieces front char back) := by
  induction front generalizing last with
  | nil =>
      show pieces? true last (char :: '+' :: (back ++ ['$'])) = _
      rw [pieces?_ordinary last ordinary, pieces?_plus, pieces?_bares none bareBack]
      rfl
  | cons first rest inductionHypothesis =>
      rw [HasOnlyPoints, List.forall_mem_cons] at bareFront
      show pieces? true last (first :: (rest ++ char :: '+' :: back ++ ['$'])) = _
      rw [pieces?_bare last bareFront.1, inductionHypothesis _ bareFront.2]
      rfl

section

variable {endsLine : Char → Prop} {text other : List Char}

/-- An unescaped text matches what replaces each of its characters by one that its atom matches. -/
theorem map_mem_language_barePieces
    (replacement : Char → Char)
    (allowed : ∀ char ∈ text, [replacement char] ∈ (bareAtom char).language endsLine) :
    text.map replacement ∈ language endsLine (barePieces text) := by
  rw [barePieces, mem_language_map_once_iff, List.forall₂_map_left_iff, List.forall₂_map_right_iff,
    List.forall₂_same]
  exact allowed

theorem length_eq_of_mem_language_barePieces
    (matched : other ∈ language endsLine (barePieces text)) :
    text.length = other.length := by
  rw [barePieces, mem_language_map_once_iff] at matched
  simpa using matched.length_eq

theorem mem_language_bareAtom_point
    {char : Char} :
    [char] ∈ (bareAtom '.').language endsLine ↔ ¬endsLine char := by
  show (∃ matched, ¬endsLine matched ∧ [char] = [matched]) ↔ _
  simp

theorem mem_language_bareAtom_of_ne
    {char : Char}
    (notPoint : char ≠ '.') :
    [char] ∈ (bareAtom char).language endsLine := by
  rw [bareAtom, if_neg notPoint]
  rfl

/-- An unescaped text matches itself. -/
theorem mem_language_barePieces_self
    (pointOnLine : ¬endsLine '.') :
    text ∈ language endsLine (barePieces text) := by
  have allowed : ∀ char ∈ text, [id char] ∈ (bareAtom char).language endsLine := by
    intro char listed
    by_cases point : char = '.'
    · subst point
      exact mem_language_bareAtom_point.2 pointOnLine
    · exact mem_language_bareAtom_of_ne point
  have matched := map_mem_language_barePieces id allowed
  rwa [List.map_id] at matched

/-- An unescaped text with a point also matches the text with another character in place of the point. -/
theorem exists_ne_mem_language_barePieces
    (point : '.' ∈ text)
    {char : Char}
    (notPoint : char ≠ '.')
    (onLine : ¬endsLine char) :
    ∃ other ≠ text, other ∈ language endsLine (barePieces text) := by
  refine ⟨text.map fun own => if own = '.' then char else own, ?_, ?_⟩
  · intro same
    rw [← same] at point
    obtain ⟨own, -, isPoint⟩ := List.mem_map.1 point
    split at isPoint
    case isTrue => exact notPoint isPoint
    case isFalse ownNotPoint => exact ownNotPoint isPoint
  · apply map_mem_language_barePieces
    intro own listed
    split
    case isTrue isPoint =>
      subst isPoint
      exact mem_language_bareAtom_point.2 onLine
    case isFalse isNoPoint => exact mem_language_bareAtom_of_ne isNoPoint

/-- Without a point an unescaped text matches itself only. -/
theorem mem_language_barePieces_iff_of_notMem
    (noPoint : '.' ∉ text) :
    other ∈ language endsLine (barePieces text) ↔ other = text := by
  have literals : barePieces text = text.map fun char => .once (.literal char) := by
    rw [barePieces, List.map_map]
    apply List.map_congr_left
    rintro char listed
    rw [Function.comp_apply, bareAtom, if_neg (ne_of_mem_of_not_mem listed noPoint)]
  rw [literals, mem_language_map_literal_iff]

/-- A text with a plus sign does not match itself where it stands unescaped. -/
theorem notMem_language_barePieces_plus
    {front back : List Char}
    {char : Char}
    (notPlus : char ≠ '+')
    (noPoint : '.' ∉ back) :
    front ++ char :: '+' :: back ∉ language endsLine (plusPieces front char back) := by
  intro matched
  obtain ⟨before, beforeMatched, behind, behindMatched, split⟩ := mem_language_append_iff.1 matched
  have sameLength := length_eq_of_mem_language_barePieces beforeMatched
  obtain ⟨-, rfl⟩ := List.append_inj split sameLength.symm
  obtain ⟨first, firstMatched, others, othersMatched, splitFirst⟩ := mem_language_cons_iff.1 behindMatched
  obtain rfl := mem_language_literal_iff.1 firstMatched
  obtain rfl : others = '+' :: back := List.cons_inj_right char |>.1 splitFirst
  -- What is repeated would have to be the plus sign.
  obtain ⟨repetitions, repeatedMatched, rest, restMatched, splitRest⟩ := mem_language_cons_iff.1 othersMatched
  obtain rfl := (mem_language_barePieces_iff_of_notMem noPoint).1 restMatched
  obtain rfl : repetitions = ['+'] := List.append_cancel_right splitRest
  exact notPlus (eq_of_mem_language_repeated_literal repeatedMatched (List.mem_singleton_self '+')).symm

end

/-! ## What an expression matches -/

/-- An expression is read, and matches a text as a whole. -/
def Matches (endsLine : Char → Prop) (expression text : String) : Prop :=
  ∃ pieces, ofChars? true expression.toList = some pieces ∧ text.toList ∈ language endsLine pieces

/-- An expression matches a text and no other one. -/
def MatchesOnly (endsLine : Char → Prop) (expression text : String) : Prop :=
  ∀ other, Matches endsLine expression other ↔ other = text

section

variable {endsLine : Char → Prop} {expression text : String} {pieces : List Piece}

theorem matches_iff (read : ofChars? true expression.toList = some pieces) :
    Matches endsLine expression text ↔ text.toList ∈ language endsLine pieces := by
  simp [Matches, read]

theorem matchesOnly_iff (read : ofChars? true expression.toList = some pieces) :
    MatchesOnly endsLine expression text ↔
      ∀ other, other ∈ language endsLine pieces ↔ other = text.toList := by
  constructor
  · intro only other
    rw [← String.toList_ofList (l := other), ← matches_iff read, only, String.toList_inj]
  · intro only other
    rw [matches_iff read, only, String.toList_inj]

end

end Regex
end QueryFilter
