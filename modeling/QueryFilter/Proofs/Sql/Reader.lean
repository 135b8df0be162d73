import Mathlib.Data.List.Basic
import QueryFilter.Proofs.Sql.Grammar

/-!
# Reading fragments

A reader of the grammar of fragments. It goes from left to right, decides by what stands next, and never
takes a decision back.
-/

namespace QueryFilter
namespace Fragment

/-- A reader returns what it has read and the characters behind it. -/
abbrev Reader (α : Type) :=
  List Char → Option (α × List Char)

/-- The characters behind a word that has to stand next. -/
def skip? (word : List Char) (text : List Char) : Option (List Char) :=
  text.dropPrefix? word

/-- The longest word of characters of a class; there has to be one. -/
def readSpan? (inside : Char → Bool) : Reader (List Char) :=
  fun text =>
    match text.takeWhile inside with
    | [] =>
        none
    | word =>
        some (word, text.dropWhile inside)

/-- The word up to the next delimiter. -/
def readWord? : Reader (List Char) :=
  readSpan? (!isDelimiter ·)

/-- The operator whose words stand next. -/
def readOperator? : Reader Operator :=
  fun text =>
    operatorWords.findSome? fun entry => (skip? entry.1.toList text).map fun rest => (entry.2, rest)

/-- The literal that a word spells outside of quotes. -/
def bareLiteral? (word : List Char) : Option Literal :=
  if word = ['t', 'r', 'u', 'e'] then
    some (.boolean true)
  else if word = ['f', 'a', 'l', 's', 'e'] then
    some (.boolean false)
  else if Number.IsNumberWord word then
    some (.number (String.ofList word))
  else
    none

/-- A literal: in quotes up to the next quote, otherwise a word. -/
def readLiteral? : Reader Literal
  | '\'' :: text => do
      let rest ← skip? ['\''] (text.dropWhile (· != '\''))
      some (.string (String.ofList (text.takeWhile (· != '\''))), rest)
  | text => do
      let (word, rest) ← readWord? text
      let literal ← bareLiteral? word
      some (literal, rest)

/-- Items as long as the separator stands next. -/
def readMore? (separator : List Char) (read : Reader α) (text : List Char) : Option (List α × List Char) :=
  match skip? separator text with
  | none =>
      some ([], text)
  | some behind =>
      match read behind with
      | none =>
          none
      | some (item, rest) =>
          if rest.length < text.length then
            (readMore? separator read rest).map (Prod.map (item :: ·) id)
          else
            none
termination_by text.length

/-- An item and further ones, each behind a comma. -/
def readListed? (read : Reader α) : Reader (α × List α) :=
  fun text => do
    let (first, text) ← read text
    let (others, text) ← readMore? comma read text
    some ((first, others), text)

/-- What stands behind the operator of a leaf. -/
def readOperand? (name : List Char) : Operator → Reader Expression
  | .comparison op, text => do
      let (value, rest) ← readLiteral? text
      some (.compare (String.ofList name) op value, rest)
  | .membership op, text => do
      let ((first, others), text) ← readListed? readLiteral? text
      let rest ← skip? [')'] text
      some (.member (String.ofList name) op first.kind (first :: others), rest)

/-- A comparison or a membership test. -/
def readLeaf? : Reader Expression :=
  fun text => do
    let (name, text) ← readWord? text
    let text ← skip? [' '] text
    let (operator, text) ← readOperator? text
    readOperand? name operator text

/-- The connective of a group, which its first joiner tells. -/
def connectiveAt (text : List Char) : Connective :=
  if (joiner .or).isPrefixOf text then .or else .and

/-- A condition with at most the given depth of nested groups. -/
def readCondition? : Nat → Reader Expression
  | 0, _ =>
      none
  | depth + 1, '(' :: text => do
      let (first, text) ← readCondition? depth text
      let connective := connectiveAt text
      let (others, text) ← readMore? (joiner connective) (readCondition? depth) text
      let rest ← skip? [')'] text
      some (.ofGroup connective (first :: others), rest)
  | _ + 1, text =>
      readLeaf? text

/-- The direction behind a column, with the space in front of it. -/
def readDirection? : Reader (List Char)
  | ' ' :: text =>
      match readWord? text with
      | some (word, rest) =>
          if IsDirection word then some (' ' :: word, rest) else none
      | none =>
          none
  | _ =>
      none

/-- A sort clause. -/
def readClause? : Reader String :=
  fun text => do
    let (column, text) ← readWord? text
    let (direction, rest) := (readDirection? text).getD ([], text)
    some (String.ofList (column ++ direction), rest)

/-- The sort clauses. -/
def readOrder? : Reader Order :=
  fun text => do
    let ((first, others), rest) ← readListed? readClause? text
    some ({ clauses := first :: others }, rest)

/-- A count that fits 64 bits. -/
def readCount? : Reader UInt64 :=
  fun text => do
    let (word, rest) ← readSpan? Char.isDigit text
    let count := Nat.ofDigitChars 10 word 0
    if count < UInt64.size then some (UInt64.ofNat count, rest) else none

/-- A part that is set exactly when its keyword stands next. -/
def readPart? (keyword : String) (read : Reader α) : Reader (Option α) :=
  fun text =>
    match skip? keyword.toList text with
    | none =>
        some (none, text)
    | some behind =>
        (read behind).map (Prod.map some id)

/-- The fragment that a text is as a whole. -/
def read? (text : String) : Option Fragment := do
  let text := text.toList
  let (condition, text) ← readPart? " WHERE " (readCondition? text.length) text
  let (order, text) ← readPart? " ORDER BY " readOrder? text
  let (limit, text) ← readPart? " LIMIT " readCount? text
  let (skip, text) ← readPart? " OFFSET " readCount? text
  if text = [] then some { condition, order, limit, skip } else none

/-! ## What readers do -/

namespace Reader

/-- The reader reads all that is spelled, if what stands behind it may follow. -/
def IsComplete
    (read : Reader α)
    (spells : List Char → α → Prop)
    (follows : List Char → Prop) : Prop :=
  ∀ {word item rest}, spells word item → follows rest → read (word ++ rest) = some (item, rest)

/-- The reader reads nothing but what is spelled. -/
def IsSound
    (read : Reader α)
    (spells : List Char → α → Prop) : Prop :=
  ∀ {text item rest}, read text = some (item, rest) → ∃ word, text = word ++ rest ∧ spells word item

end Reader

/-- A text that ends the word in front of it: it is empty or begins with a delimiter. -/
def Ends (rest : List Char) : Prop :=
  ∀ char ∈ rest.head?, isDelimiter char = true

instance (rest : List Char) : Decidable (Ends rest) :=
  decidable_of_iff (rest.head?.all isDelimiter = true) (by simp [Ends, Option.all_eq_true])

theorem ends_nil : Ends [] := by
  simp [Ends]

theorem ends_cons_iff
    {char : Char}
    {rest : List Char} :
    Ends (char :: rest) ↔ isDelimiter char = true := by
  simp [Ends]

end Fragment
end QueryFilter
