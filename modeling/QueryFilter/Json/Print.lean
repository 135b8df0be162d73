import QueryFilter.Json.Value

/-!
# Json texts of values

The compact form has no blanks. The spread form puts every element and member on a line of its own, indented
by two spaces per level, except that empty containers stay closed.
-/

namespace QueryFilter
namespace Json

/-- The lower-case hexadecimal digit of a number below sixteen. -/
def hexDigit (value : Nat) : Char :=
  Nat.digitChar value

/-- A character inside a quoted string: quotes, backslashes and controls are escaped. -/
def escapedChar (char : Char) : List Char :=
  match char with
  | '"' =>
      ['\\', '"']
  | '\\' =>
      ['\\', '\\']
  | '\x08' =>
      ['\\', 'b']
  | '\t' =>
      ['\\', 't']
  | '\n' =>
      ['\\', 'n']
  | '\x0c' =>
      ['\\', 'f']
  | '\r' =>
      ['\\', 'r']
  | char =>
      if char < ' ' then
        ['\\', 'u', '0', '0', hexDigit (char.toNat / 16), hexDigit (char.toNat % 16)]
      else
        [char]

/-- A string in quotes. -/
def quoted (text : String) : String :=
  String.ofList ('"' :: (text.toList.flatMap escapedChar ++ ['"']))

mutual

/-- The compact text of a value. -/
def compact : Json → String
  | .null =>
      "null"
  | .bool true =>
      "true"
  | .bool false =>
      "false"
  | .number value =>
      value.text
  | .string text =>
      quoted text
  | .array elements =>
      "[" ++ String.intercalate "," (compactElements elements) ++ "]"
  | .object members =>
      "\x7b" ++ String.intercalate "," (compactMembers members) ++ "\x7d"

/-- The compact texts of the elements of an array. -/
def compactElements : List Json → List String
  | [] =>
      []
  | element :: rest =>
      compact element :: compactElements rest

/-- The compact texts of the members of an object. -/
def compactMembers : List (String × Json) → List String
  | [] =>
      []
  | (name, value) :: rest =>
      (quoted name ++ ":" ++ compact value) :: compactMembers rest

end

/-- The start of a line at a level of indentation. -/
def newLine (level : Nat) : String :=
  String.ofList ('\n' :: List.replicate (2 * level) ' ')

/-- Lines of a container at a level, between its brackets. -/
def spreadLines (level : Nat) (opening closing : String) (items : List String) : String :=
  match items with
  | [] =>
      opening ++ closing
  | _ :: _ =>
      let separator := "," ++ newLine (level + 1)
      opening ++ newLine (level + 1) ++ String.intercalate separator items ++ newLine level ++ closing

mutual

/-- The spread text of a value whose first line is at the given level. -/
def spreadAt (level : Nat) : Json → String
  | .array elements =>
      spreadLines level "[" "]" (spreadElements (level + 1) elements)
  | .object members =>
      spreadLines level "\x7b" "\x7d" (spreadMembers (level + 1) members)
  | .null =>
      "null"
  | .bool true =>
      "true"
  | .bool false =>
      "false"
  | .number value =>
      value.text
  | .string text =>
      quoted text

/-- The spread texts of the elements of an array. -/
def spreadElements (level : Nat) : List Json → List String
  | [] =>
      []
  | element :: rest =>
      spreadAt level element :: spreadElements level rest

/-- The spread texts of the members of an object. -/
def spreadMembers (level : Nat) : List (String × Json) → List String
  | [] =>
      []
  | (name, value) :: rest =>
      (quoted name ++ ": " ++ spreadAt level value) :: spreadMembers level rest

end

/-- The spread text of a value. -/
def spread (value : Json) : String :=
  spreadAt 0 value

/-- The text of a value in the spread or the compact form. -/
def text (pretty : Bool) (value : Json) : String :=
  if pretty then value.spread else value.compact

end Json
end QueryFilter
