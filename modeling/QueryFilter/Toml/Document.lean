import QueryFilter.Toml.Literal
import QueryFilter.Toml.Table
import QueryFilter.Toml.Text

/-!
# Toml documents

A document is a list of lines with keys and values, divided into sections by headers. Values nest in arrays
and inline tables up to a fixed depth, and a dotted key has a bounded number of parts.
-/

namespace QueryFilter
namespace Toml

/-- So many arrays and inline tables may be nested, and so many parts may a dotted key have. -/
def nestingLimit : Nat := 79

/-- A dotted key that is not too long. -/
def boundedKey? (text : List Char) : Option (List String × String × List Char) :=
  (dottedKey? text).bind fun (path, last, rest) =>
    if path.length < nestingLimit then some (path, last, rest) else none

/-- The value of a literal. -/
def Literal.toValue : Literal → Value
  | .integer value =>
      .integer value
  | .float text =>
      .float (String.ofList text)
  | .date text =>
      .date (String.ofList text)

/-- The elements of an array up to its closing bracket. A comma may follow the last one. -/
def elements? (value? : List Char → Option (Value × List Char)) (text : List Char) :
    Option (List Value × List Char) :=
  match skipLines false text with
  | ']' :: rest =>
      some ([], rest)
  | start =>
      match value? start with
      | none =>
          none
      | some (value, following) =>
          match skipLines false following with
          | ']' :: rest =>
              some ([value], rest)
          | ',' :: rest =>
              if _shorter : rest.length < text.length then
                (elements? value? rest).map fun (values, rest) => (value :: values, rest)
              else
                none
          | _ =>
              none
termination_by text.length

/-- A key, the sign of equality and a value, with blanks around each. -/
def assignment? (value? : List Char → Option (Value × List Char)) (text : List Char) :
    Option ((List String × String × Value) × List Char) := do
  let (path, key, rest) ← boundedKey? text
  let rest ← expect? '=' rest
  let (value, rest) ← value? (skipBlanks rest)
  some ((path, key, value), rest)

/-- The assignments of an inline table up to its closing brace, on one line and with no comma at the end. -/
def inlineEntries? (value? : List Char → Option (Value × List Char)) (entries : Entries)
    (text : List Char) : Option (Entries × List Char) :=
  match assignment? value? text with
  | none =>
      none
  | some ((path, key, value), following) =>
      match entries.assign? key value path with
      | none =>
          none
      | some entries =>
          match skipBlanks following with
          | '\x7d' :: rest =>
              some (entries, rest)
          | ',' :: rest =>
              if _shorter : rest.length < text.length then
                inlineEntries? value? entries rest
              else
                none
          | _ =>
              none
termination_by text.length

/-- An inline table behind its opening brace. -/
def inlineTable? (value? : List Char → Option (Value × List Char)) (text : List Char) :
    Option (Value × List Char) :=
  match skipBlanks text with
  | '\x7d' :: rest =>
      some (.table .inline [], rest)
  | start =>
      (inlineEntries? value? [] start).map fun (entries, rest) => (.table .inline entries, rest)

/-- A value that is no container. -/
def simpleValue? : List Char → Option (Value × List Char)
  | 't' :: 'r' :: 'u' :: 'e' :: rest =>
      some (.boolean true, rest)
  | 'f' :: 'a' :: 'l' :: 's' :: 'e' :: rest =>
      some (.boolean false, rest)
  | '"' :: rest =>
      (string? ('"' :: rest)).map fun (text, rest) => (.string (String.ofList text), rest)
  | '\'' :: rest =>
      (string? ('\'' :: rest)).map fun (text, rest) => (.string (String.ofList text), rest)
  | text =>
      (literalWord? text).map fun (literal, rest) => (literal.toValue, rest)

/-- A value with at most `depth` nested containers. -/
def value? (depth : Nat) (text : List Char) : Option (Value × List Char) :=
  match text, depth with
  | '[' :: rest, depth + 1 =>
      (elements? (value? depth) rest).map fun (values, rest) => (.array values, rest)
  | '\x7b' :: rest, depth + 1 =>
      inlineTable? (value? depth) rest
  | text, _ =>
      simpleValue? text

/-- A key up to its last part, the last part, and the value. -/
abbrev Assignment := List String × String × Value

/-- A part of a document. -/
inductive Statement
  /-- The header of a table. -/
  | header (path : List String) (key : String)
  /-- The header of one more table under a key. -/
  | element (path : List String) (key : String)
  /-- A key and its value. -/
  | assignment (assignment : Assignment)

/-- A header behind its opening bracket, up to the closing one. -/
def header? : List Char → Option (Statement × List Char)
  | '[' :: rest => do
      let (path, key, rest) ← boundedKey? rest
      let rest ← expect? ']' rest
      let rest ← expect? ']' rest
      some (.element path key, rest)
  | rest => do
      let (path, key, rest) ← boundedKey? rest
      let rest ← expect? ']' rest
      some (.header path key, rest)

/-- A header or an assignment. -/
def statement? : List Char → Option (Statement × List Char)
  | '[' :: rest =>
      header? rest
  | text =>
      (assignment? (value? nestingLimit) text).map fun (assignment, rest) =>
        (.assignment assignment, rest)

/-- The statements of a text; each ends its line, and lines without one are skipped. -/
def statements? (text : List Char) : Option (List Statement) :=
  match skipLines false text with
  | [] =>
      some []
  | start =>
      match statement? start with
      | none =>
          none
      | some (statement, following) =>
          match lineEnd? false following with
          | none =>
              none
          | some rest =>
              if _shorter : rest.length < text.length then
                (statements? rest).map (statement :: ·)
              else
                none
termination_by text.length

/-- A header and the assignments below it. -/
structure Section where
  /-- The header adds one more table under its key. -/
  repeated : Bool
  /-- The keys in front of the last one. -/
  path : List String
  /-- The last key of the header. -/
  key : String
  /-- The assignments up to the next header. -/
  assignments : List Assignment

/-- The assignments above the first header, and the sections. -/
def sections : List Statement → List Assignment × List Section
  | [] =>
      ([], [])
  | .assignment assignment :: rest =>
      let (assignments, sections) := sections rest
      (assignment :: assignments, sections)
  | .header path key :: rest =>
      let (assignments, sections) := sections rest
      ([], { repeated := false, path, key, assignments } :: sections)
  | .element path key :: rest =>
      let (assignments, sections) := sections rest
      ([], { repeated := true, path, key, assignments } :: sections)

namespace Entries

/-- Make assignments one after another. -/
def assignAll? (entries : Entries) (assignments : List Assignment) : Option Entries :=
  assignments.foldlM (fun entries (path, key, value) => entries.assign? key value path) entries

/-- The table of a section in the place of what its header names: something new, or a table opened so far. -/
def sectionTable? (assignments : List Assignment) : Option Value → Option Value
  | none =>
      (assignAll? [] assignments).map (.table .header)
  | some (.table .throughHeader entries) =>
      (assignAll? entries assignments).map (.table .header)
  | some _ =>
      none

/-- The tables under the key of a repeated header, with one more at the end. -/
def sectionTables? (assignments : List Assignment) : Option Value → Option Value
  | none =>
      (assignAll? [] assignments).map fun entries => .tables [entries]
  | some (.tables elements) =>
      (assignAll? [] assignments).map fun entries => .tables (elements ++ [entries])
  | some _ =>
      none

/-- Add a section to the root of a document. -/
def addSection? (root : Entries) (part : Section) : Option Entries :=
  if part.repeated then
    root.changeAt? part.key (sectionTables? part.assignments) part.path
  else
    root.changeAt? part.key (sectionTable? part.assignments) part.path

/-- The root of a document with these statements. -/
def ofStatements? (statements : List Statement) : Option Entries := do
  let (assignments, sections) := sections statements
  let root ← assignAll? [] assignments
  sections.foldlM addSection? root

end Entries

/-- A text without the byte order mark at its start. -/
def skipByteOrderMark : List Char → List Char
  | '\ufeff' :: rest =>
      rest
  | text =>
      text

/-- The entries at the root of a document. -/
def ofText? (text : String) : Option Entries :=
  (statements? (skipByteOrderMark text.toList)).bind Entries.ofStatements?

end Toml
end QueryFilter
