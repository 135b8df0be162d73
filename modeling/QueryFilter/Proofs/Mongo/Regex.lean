import Mathlib.Computability.Language

/-!
# Regular expressions

The texts that a regular expression between anchors matches. An expression consists of pieces: a character
that stands for itself, a point for any character, or one of the two with a star behind it for any number of
repetitions. Behind a backslash every character stands for itself. The reader may also know the plus sign, for one
or more repetitions. A bare character with another meaning in regular expressions is refused, so that what is read
here is read alike wherever such a meaning is known.
-/

namespace QueryFilter
namespace Regex

open scoped Computability

/-- What one character of a text is matched with. -/
inductive Atom
  | any
  | literal (char : Char)
  deriving DecidableEq, Repr

/-- A part of an expression. -/
inductive Piece
  | once (atom : Atom)
  | repeated (atom : Atom)
  deriving DecidableEq, Repr

/-! ## Reading -/

/-- The characters with a meaning of their own in regular expressions. -/
def operators : List Char :=
  ['^', '$', '\\', '.', '*', '+', '?', '|', '(', ')', '[', ']', '\x7b', '\x7d']

/--
The pieces of an expression up to the anchor at its end. The last atom is held back, since a star behind it
makes it a repetition. A plus sign, where it is known, leaves the atom and puts a repetition of it behind.
-/
def pieces? (plus : Bool) : Option Atom → List Char → Option (List Piece)
  | _, [] =>
      none
  | last, ['$'] =>
      some (last.toList.map .once)
  | last, '*' :: rest =>
      last.bind fun atom => (pieces? plus none rest).map (.repeated atom :: ·)
  | last, '+' :: rest =>
      if plus then
        last.bind fun atom => (pieces? plus none rest).map ([.once atom, .repeated atom] ++ ·)
      else
        none
  | last, '.' :: rest =>
      (pieces? plus (some .any) rest).map (last.toList.map .once ++ ·)
  | last, '\\' :: char :: rest =>
      (pieces? plus (some (.literal char)) rest).map (last.toList.map .once ++ ·)
  | last, char :: rest =>
      if char ∈ operators then
        none
      else
        (pieces? plus (some (.literal char)) rest).map (last.toList.map .once ++ ·)

/-- The pieces of an expression between anchors; none when it is not well formed. -/
def ofChars? (plus : Bool) : List Char → Option (List Piece)
  | '^' :: rest =>
      pieces? plus none rest
  | _ =>
      none

section

variable {plus : Bool}

theorem pieces?_star
    (atom : Atom)
    (rest : List Char) :
    pieces? plus (some atom) ('*' :: rest) = (pieces? plus none rest).map (.repeated atom :: ·) := by
  rw [pieces?, Option.bind_some]

theorem pieces?_plus
    (atom : Atom)
    (rest : List Char) :
    pieces? true (some atom) ('+' :: rest) =
      (pieces? true none rest).map ([.once atom, .repeated atom] ++ ·) := by
  rw [pieces?, if_pos rfl, Option.bind_some]

theorem pieces?_point
    (last : Option Atom)
    (rest : List Char) :
    pieces? plus last ('.' :: rest) =
      (pieces? plus (some .any) rest).map (last.toList.map .once ++ ·) := by
  rw [pieces?]

theorem pieces?_escaped
    (last : Option Atom)
    (char : Char)
    (rest : List Char) :
    pieces? plus last ('\\' :: char :: rest) =
      (pieces? plus (some (.literal char)) rest).map (last.toList.map .once ++ ·) := by
  rw [pieces?]

theorem pieces?_ordinary
    (last : Option Atom)
    {char : Char}
    (ordinary : char ∉ operators)
    (rest : List Char) :
    pieces? plus last (char :: rest) =
      (pieces? plus (some (.literal char)) rest).map (last.toList.map .once ++ ·) := by
  have notOperator : ∀ operator ∈ operators, char ≠ operator := by
    rintro operator listed rfl
    exact ordinary listed
  rw [pieces?, if_neg ordinary]
  · exact fun isEnd _ => notOperator '$' (by decide) isEnd
  · exact notOperator '*' (by decide)
  · exact notOperator '+' (by decide)
  · exact notOperator '.' (by decide)
  · exact fun _ _ isBackslash _ => notOperator '\\' (by decide) isBackslash

end

/-! ## Matching -/

/-- The texts that an atom matches, one character each; a character that ends a line is not any character. -/
def Atom.language (endsLine : Char → Prop) : Atom → Language Char
  | .any =>
      {text | ∃ char, ¬endsLine char ∧ text = [char]}
  | .literal char =>
      {[char]}

/-- The texts that a piece matches. -/
def Piece.language (endsLine : Char → Prop) : Piece → Language Char
  | .once atom =>
      atom.language endsLine
  | .repeated atom =>
      (atom.language endsLine)∗

/-- The texts that pieces match as a whole, one behind the other. -/
def language (endsLine : Char → Prop) (pieces : List Piece) : Language Char :=
  (pieces.map (Piece.language endsLine)).prod

section

variable {endsLine : Char → Prop}

theorem mem_language_nil_iff
    {text : List Char} :
    text ∈ language endsLine [] ↔ text = [] := by
  rfl

/-- What pieces match is a text that the first one matches and behind it a text that the others match. -/
theorem mem_language_cons_iff
    {piece : Piece}
    {pieces : List Piece}
    {text : List Char} :
    text ∈ language endsLine (piece :: pieces) ↔
      ∃ front ∈ piece.language endsLine, ∃ back ∈ language endsLine pieces, front ++ back = text := by
  rw [language, List.map_cons, List.prod_cons, Language.mem_mul]
  rfl

theorem mem_language_any_iff
    {text : List Char} :
    text ∈ (Piece.once .any).language endsLine ↔ ∃ char, ¬endsLine char ∧ text = [char] := by
  rfl

theorem mem_language_literal_iff
    {char : Char}
    {text : List Char} :
    text ∈ (Piece.once (.literal char)).language endsLine ↔ text = [char] := by
  rfl

/-- What pieces and further pieces match is a text that the ones match and behind it a text that the others match. -/
theorem mem_language_append_iff
    {pieces further : List Piece}
    {text : List Char} :
    text ∈ language endsLine (pieces ++ further) ↔
      ∃ front ∈ language endsLine pieces, ∃ back ∈ language endsLine further, front ++ back = text := by
  rw [language, List.map_append, List.prod_append, Language.mem_mul]
  rfl

/-- What an atom matches is one character. -/
theorem Atom.exists_eq_singleton
    {atom : Atom}
    {text : List Char}
    (matched : text ∈ atom.language endsLine) :
    ∃ char, text = [char] := by
  cases atom with
  | any =>
      obtain ⟨char, -, rfl⟩ := matched
      exact ⟨char, rfl⟩
  | literal char => exact ⟨char, matched⟩

/-- Pieces without repetitions match character by character. -/
theorem mem_language_map_once_iff
    {atoms : List Atom}
    {text : List Char} :
    text ∈ language endsLine (atoms.map .once) ↔
      List.Forall₂ (fun atom char => [char] ∈ atom.language endsLine) atoms text := by
  induction atoms generalizing text with
  | nil => rw [List.map_nil, mem_language_nil_iff, List.forall₂_nil_left_iff]
  | cons atom rest inductionHypothesis =>
      rw [List.map_cons, mem_language_cons_iff, List.forall₂_cons_left_iff]
      constructor
      · rintro ⟨front, frontMatched, back, backMatched, rfl⟩
        obtain ⟨char, rfl⟩ := Atom.exists_eq_singleton frontMatched
        exact ⟨char, back, frontMatched, inductionHypothesis.1 backMatched, rfl⟩
      · rintro ⟨char, back, charMatched, backMatched, rfl⟩
        exact ⟨[char], charMatched, back, inductionHypothesis.2 backMatched, rfl⟩

/-- Characters that stand for themselves match their own text only. -/
theorem mem_language_map_literal_iff
    {chars text : List Char} :
    text ∈ language endsLine (chars.map fun char => .once (.literal char)) ↔ text = chars := by
  induction chars generalizing text with
  | nil => exact mem_language_nil_iff
  | cons char rest inductionHypothesis =>
      rw [List.map_cons, mem_language_cons_iff]
      constructor
      · rintro ⟨front, frontMatched, back, backMatched, rfl⟩
        obtain rfl := mem_language_literal_iff.1 frontMatched
        rw [inductionHypothesis.1 backMatched]
        rfl
      · rintro rfl
        exact ⟨[char], mem_language_literal_iff.2 rfl, rest, inductionHypothesis.2 rfl, rfl⟩

/-- A repeated character matches nothing but repetitions of it. -/
theorem eq_of_mem_language_repeated_literal
    {char : Char}
    {text : List Char}
    (matched : text ∈ (Piece.repeated (.literal char)).language endsLine)
    {other : Char}
    (listed : other ∈ text) :
    other = char := by
  obtain ⟨parts, rfl, eachMatched⟩ := Language.mem_kstar.1 matched
  obtain ⟨part, partListed, inPart⟩ := List.mem_flatten.1 listed
  obtain rfl : part = [char] := eachMatched part partListed
  exact List.mem_singleton.1 inPart

/-- A repeated point matches every text without the end of a line. -/
theorem mem_language_repeated_any
    {text : List Char}
    (oneLine : ∀ char ∈ text, ¬endsLine char) :
    text ∈ (Piece.repeated .any).language endsLine := by
  have single : ∀ part ∈ text.map ([·]), part ∈ Atom.any.language endsLine := by
    intro part listed
    obtain ⟨char, present, rfl⟩ := List.mem_map.1 listed
    exact ⟨char, oneLine char present, rfl⟩
  have joined := Language.join_mem_kstar single
  rwa [← List.flatMap_def, List.flatMap_singleton'] at joined

end

end Regex
end QueryFilter
