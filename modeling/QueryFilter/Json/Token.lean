import QueryFilter.Json.Value
import QueryFilter.Text.Hex

/-!
# Json tokens

The lexical level of Json texts: brackets, separators, the three words, numbers and strings, with blanks in
between. A string ends at its closing quote; its escapes are resolved here, and an escaped surrogate must
come as a pair.
-/

namespace QueryFilter

/-- A lexical unit of a Json text. -/
inductive JsonToken
  | openArray
  | closeArray
  | openObject
  | closeObject
  | comma
  | colon
  | null
  | bool (value : Bool)
  | number (value : Number)
  | string (text : String)
  deriving Repr

namespace JsonToken

/-- The four characters that may stand between tokens. -/
def isBlank (char : Char) : Bool :=
  char == ' ' || char == '\t' || char == '\n' || char == '\r'

/-- The character that a one-letter escape stands for. -/
def escaped? : Char → Option Char
  | '"' =>
      some '"'
  | '\\' =>
      some '\\'
  | '/' =>
      some '/'
  | 'b' =>
      some '\x08'
  | 'f' =>
      some '\x0c'
  | 'n' =>
      some '\n'
  | 'r' =>
      some '\r'
  | 't' =>
      some '\t'
  | _ =>
      none

/-- The first half of a surrogate pair. -/
def isHighSurrogate (unit : Nat) : Bool :=
  0xD800 ≤ unit && unit ≤ 0xDBFF

/-- The second half of a surrogate pair. -/
def isLowSurrogate (unit : Nat) : Bool :=
  0xDC00 ≤ unit && unit ≤ 0xDFFF

/-- The character of a surrogate pair. -/
def pairChar (high low : Nat) : Char :=
  Char.ofNat (0x10000 + (high - 0xD800) * 0x400 + (low - 0xDC00))

/-- The content of a string up to its closing quote, and what follows the quote. -/
def content? : List Char → Option (List Char × List Char)
  | [] =>
      none
  | '"' :: rest =>
      some ([], rest)
  | '\\' :: 'u' :: a :: b :: c :: d :: rest =>
      match Text.hexValue? [a, b, c, d] with
      | none =>
          none
      | some unit =>
          if isHighSurrogate unit then
            match rest with
            | '\\' :: 'u' :: e :: f :: g :: h :: rest =>
                match Text.hexValue? [e, f, g, h] with
                | none =>
                    none
                | some low =>
                    if isLowSurrogate low then
                      (content? rest).map fun (text, rest) => (pairChar unit low :: text, rest)
                    else
                      none
            | _ =>
                none
          else if isLowSurrogate unit then
            none
          else
            (content? rest).map fun (text, rest) => (Char.ofNat unit :: text, rest)
  | '\\' :: letter :: rest =>
      match escaped? letter with
      | none =>
          none
      | some char =>
          (content? rest).map fun (text, rest) => (char :: text, rest)
  | char :: rest =>
      if char = '\\' ∨ char < ' ' then
        none
      else
        (content? rest).map fun (text, rest) => (char :: text, rest)

/-- What follows a string is shorter than the string with its closing quote. -/
theorem content?_length {text content rest : List Char}
    (found : content? text = some (content, rest)) : rest.length < text.length := by
  fun_induction content? text generalizing content rest <;>
    simp_all [Option.map_eq_some_iff] <;> grind

/-- The characters that number literals are made of. -/
def isLiteralChar (char : Char) : Bool :=
  char.isDigit || char == '-' || char == '+' || char == '.' || char == 'e' || char == 'E'

/-- The next token and what follows it; the text starts with no blank. -/
def next? : List Char → Option (JsonToken × List Char)
  | '[' :: rest =>
      some (.openArray, rest)
  | ']' :: rest =>
      some (.closeArray, rest)
  | '{' :: rest =>
      some (.openObject, rest)
  | '}' :: rest =>
      some (.closeObject, rest)
  | ',' :: rest =>
      some (.comma, rest)
  | ':' :: rest =>
      some (.colon, rest)
  | 'n' :: 'u' :: 'l' :: 'l' :: rest =>
      some (.null, rest)
  | 't' :: 'r' :: 'u' :: 'e' :: rest =>
      some (.bool true, rest)
  | 'f' :: 'a' :: 'l' :: 's' :: 'e' :: rest =>
      some (.bool false, rest)
  | '"' :: rest =>
      (content? rest).map fun (text, rest) => (.string (String.ofList text), rest)
  | char :: rest =>
      let word := char :: rest.takeWhile isLiteralChar
      (Number.ofText? word).map fun value => (.number value, rest.dropWhile isLiteralChar)
  | [] =>
      none

/-- Every token has at least one character. -/
theorem next?_length {text rest : List Char} {token : JsonToken}
    (found : next? text = some (token, rest)) : rest.length < text.length := by
  unfold next? at found
  split at found
  case h_10 =>
    obtain ⟨⟨content, following⟩, contentFound, equal⟩ := Option.map_eq_some_iff.1 found
    have shorter := content?_length contentFound
    simp only [Prod.mk.injEq] at equal
    simp only [List.length_cons, ← equal.2]
    omega
  case h_11 =>
    obtain ⟨value, _, equal⟩ := Option.map_eq_some_iff.1 found
    simp only [Prod.mk.injEq] at equal
    rw [← equal.2, List.length_cons]
    exact Nat.lt_succ_of_le (List.dropWhile_sublist _).length_le
  all_goals grind

/-- The tokens of a text; none when some part of it is no token. -/
def scan? (text : List Char) : Option (List JsonToken) :=
  match text with
  | [] =>
      some []
  | char :: rest =>
      if isBlank char then
        scan? rest
      else
        match _found : next? (char :: rest) with
        | none =>
            none
        | some (token, following) =>
            (scan? following).map (token :: ·)
termination_by text.length
decreasing_by
  · simp
  · exact next?_length _found

end JsonToken
end QueryFilter
