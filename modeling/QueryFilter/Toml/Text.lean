import QueryFilter.Text.Hex

/-!
# Toml words

The lexical level of Toml: blanks, comments and line ends, keys, and the four ways to write a string. Each
reader takes the text and gives what it read together with the rest.
-/

namespace QueryFilter
namespace Toml

/-- A blank inside a line. -/
def isBlank (char : Char) : Bool :=
  char == ' ' || char == '\t'

/-- A text without the blanks at its start. -/
def skipBlanks (text : List Char) : List Char :=
  text.dropWhile isBlank

/-- A character that comments and strings may hold: no control character other than the tab. -/
def isPrintable (char : Char) : Bool :=
  char == '\t' || (' ' ≤ char && char != '\x7f')

/--
What follows the end of a line, when nothing but blanks and a comment stands before it. The flag tells that
a comment has begun.
-/
def lineEnd? (comment : Bool) : List Char → Option (List Char)
  | [] =>
      some []
  | '\n' :: rest =>
      some rest
  | '\r' :: '\n' :: rest =>
      some rest
  | char :: rest =>
      if comment then
        if isPrintable char then lineEnd? true rest else none
      else if char = '#' then
        lineEnd? true rest
      else if isBlank char then
        lineEnd? false rest
      else
        none

/-- What follows blanks, comments and line ends. The flag tells that a comment has begun. -/
def skipLines (comment : Bool) : List Char → List Char
  | [] =>
      []
  | '\n' :: rest =>
      skipLines false rest
  | '\r' :: '\n' :: rest =>
      skipLines false rest
  | char :: rest =>
      if comment then
        if isPrintable char then skipLines true rest else char :: rest
      else if char = '#' then
        skipLines true rest
      else if isBlank char then
        skipLines false rest
      else
        char :: rest

/-- The character with the code that hexadecimal digits write; surrogates and larger codes have none. -/
def charOfHex? (digits : List Char) : Option Char :=
  (Text.hexValue? digits).bind fun code =>
    if code.isValidChar then some (Char.ofNat code) else none

/-- The character that a one-letter escape stands for. -/
def escaped? : Char → Option Char
  | 'b' =>
      some '\x08'
  | 't' =>
      some '\t'
  | 'n' =>
      some '\n'
  | 'f' =>
      some '\x0c'
  | 'r' =>
      some '\r'
  | '"' =>
      some '"'
  | '\\' =>
      some '\\'
  | _ =>
      none

/-- Put a character in front of what a reader gives, if there is one and it gives something. -/
def consRead (char? : Option Char) (read : Option (List Char × List Char)) :
    Option (List Char × List Char) :=
  match char?, read with
  | some char, some (text, rest) =>
      some (char :: text, rest)
  | _, _ =>
      none

/-- The rest of a string between double quotes on one line. -/
def basic? : List Char → Option (List Char × List Char)
  | [] =>
      none
  | '"' :: rest =>
      some ([], rest)
  | '\\' :: 'u' :: a :: b :: c :: d :: rest =>
      consRead (charOfHex? [a, b, c, d]) (basic? rest)
  | '\\' :: 'U' :: a :: b :: c :: d :: e :: f :: g :: h :: rest =>
      consRead (charOfHex? [a, b, c, d, e, f, g, h]) (basic? rest)
  | '\\' :: letter :: rest =>
      consRead (escaped? letter) (basic? rest)
  | char :: rest =>
      if isPrintable char then consRead (some char) (basic? rest) else none

/-- The rest of a string between single quotes on one line. -/
def literal? : List Char → Option (List Char × List Char)
  | [] =>
      none
  | '\'' :: rest =>
      some ([], rest)
  | char :: rest =>
      if isPrintable char then consRead (some char) (literal? rest) else none

/-- Only blanks stand before the end of the line, which is not the end of the text. -/
def isFolded (text : List Char) : Bool :=
  match skipBlanks text with
  | '\n' :: _ =>
      true
  | '\r' :: '\n' :: _ =>
      true
  | _ =>
      false

/--
The rest of a string between three double quotes. Up to two quotes may stand directly before the closing
ones. The flag tells that blanks and line ends are being skipped, after a backslash at the end of a line.
-/
def multilineBasic? (folding : Bool) : List Char → Option (List Char × List Char)
  | [] =>
      none
  | '"' :: '"' :: '"' :: '"' :: '"' :: rest =>
      some (['"', '"'], rest)
  | '"' :: '"' :: '"' :: '"' :: rest =>
      some (['"'], rest)
  | '"' :: '"' :: '"' :: rest =>
      some ([], rest)
  | '\r' :: '\n' :: rest =>
      if folding then
        multilineBasic? true rest
      else
        consRead (some '\n') (multilineBasic? false rest)
  | '\\' :: 'u' :: a :: b :: c :: d :: rest =>
      consRead (charOfHex? [a, b, c, d]) (multilineBasic? false rest)
  | '\\' :: 'U' :: a :: b :: c :: d :: e :: f :: g :: h :: rest =>
      consRead (charOfHex? [a, b, c, d, e, f, g, h]) (multilineBasic? false rest)
  | '\\' :: letter :: rest =>
      if isFolded (letter :: rest) then
        multilineBasic? true (letter :: rest)
      else
        consRead (escaped? letter) (multilineBasic? false rest)
  | char :: rest =>
      if folding && (isBlank char || char == '\n') then
        multilineBasic? true rest
      else if isPrintable char || char == '\n' then
        consRead (some char) (multilineBasic? false rest)
      else
        none

/-- The rest of a string between three single quotes. -/
def multilineLiteral? : List Char → Option (List Char × List Char)
  | [] =>
      none
  | '\'' :: '\'' :: '\'' :: '\'' :: '\'' :: rest =>
      some (['\'', '\''], rest)
  | '\'' :: '\'' :: '\'' :: '\'' :: rest =>
      some (['\''], rest)
  | '\'' :: '\'' :: '\'' :: rest =>
      some ([], rest)
  | '\r' :: '\n' :: rest =>
      consRead (some '\n') (multilineLiteral? rest)
  | char :: rest =>
      if isPrintable char || char == '\n' then consRead (some char) (multilineLiteral? rest) else none

/-- A text without the line end at its start. -/
def skipLineEnd : List Char → List Char
  | '\n' :: rest =>
      rest
  | '\r' :: '\n' :: rest =>
      rest
  | text =>
      text

/-- A string in any of the four forms. -/
def string? : List Char → Option (List Char × List Char)
  | '"' :: '"' :: '"' :: rest =>
      multilineBasic? false (skipLineEnd rest)
  | '"' :: rest =>
      basic? rest
  | '\'' :: '\'' :: '\'' :: rest =>
      multilineLiteral? (skipLineEnd rest)
  | '\'' :: rest =>
      literal? rest
  | _ =>
      none

/-- A character of a key without quotes. -/
def isKeyChar (char : Char) : Bool :=
  char.isAlphanum || char == '_' || char == '-'

/-- One key: a quoted string on one line or a word of key characters. -/
def key? : List Char → Option (String × List Char)
  | '"' :: rest =>
      (basic? rest).map fun (text, rest) => (String.ofList text, rest)
  | '\'' :: rest =>
      (literal? rest).map fun (text, rest) => (String.ofList text, rest)
  | text =>
      match text.takeWhile isKeyChar with
      | [] =>
          none
      | word =>
          some (String.ofList word, text.dropWhile isKeyChar)

/-- A key with dots: its keys up to the last one, the last one, and what follows with the blanks skipped. -/
def dottedKey? (text : List Char) : Option (List String × String × List Char) :=
  match key? (skipBlanks text) with
  | none =>
      none
  | some (first, following) =>
      match skipBlanks following with
      | '.' :: rest =>
          if _shorter : rest.length < text.length then
            (dottedKey? rest).map fun (path, last, rest) => (first :: path, last, rest)
          else
            none
      | rest =>
          some ([], first, rest)
termination_by text.length

end Toml
end QueryFilter
