import QueryFilter.Proofs.Condition
import QueryFilter.Proofs.Number.Chars
import QueryFilter.Proofs.Request.Spelling
import QueryFilter.Sql

/-!
# The grammar of fragments

Which texts are fragments, and what each of them says. A text says less than a filter holds: the kind of a
group with one condition is not written, and a number is written as its text.
-/

namespace QueryFilter

/-- A literal as its text tells it. -/
inductive Literal
  | string (text : String)
  | number (text : String)
  | boolean (value : Bool)
  deriving DecidableEq, Repr

/-- A condition as its text tells it. -/
inductive Expression
  | group (connective : Connective) (children : List Expression)
  | compare (property : String) (op : ComparisonOp) (value : Literal)
  | member (property : String) (op : MembershipOp) (datatype : ScalarKind) (values : List Literal)
  deriving Repr

/-- What a fragment tells of a filter. -/
structure Fragment where
  /-- The condition behind the first keyword. -/
  condition : Option Expression
  /-- The sort clauses, as written. -/
  order : Option Order
  /-- The greatest number of rows. -/
  limit : Option UInt64
  /-- The number of rows to skip. -/
  skip : Option UInt64
  deriving Repr

/-- An operator of either kind of leaf. -/
inductive Operator
  | comparison (op : ComparisonOp)
  | membership (op : MembershipOp)
  deriving DecidableEq, Repr

namespace Literal

/-- The kind of a literal. -/
def kind : Literal → ScalarKind
  | .string _ =>
      .string
  | .number _ =>
      .number
  | .boolean _ =>
      .boolean

end Literal

namespace Expression

/-- A group, or its only child. -/
def ofGroup (connective : Connective) : List Expression → Expression
  | [only] =>
      only
  | children =>
      .group connective children

end Expression

/-! ## Words -/

namespace Fragment

/-- A character that no name has. -/
def isDelimiter (char : Char) : Bool :=
  char == ' ' || char == ',' || char == '(' || char == ')' || char == '\''

/-- One or more characters that are no delimiters. -/
def IsWord (word : List Char) : Prop :=
  word ≠ [] ∧ ∀ char ∈ word, isDelimiter char = false

instance (word : List Char) : Decidable (IsWord word) :=
  decidable_of_iff (word ≠ [] ∧ word.all (!isDelimiter ·) = true) (by simp [IsWord])

/-- The characters between the conditions of a group. -/
def joiner : Connective → List Char
  | .and =>
      [' ', 'A', 'N', 'D', ' ']
  | .or =>
      [' ', 'O', 'R', ' ']

/-- The characters between literals and between sort clauses. -/
def comma : List Char :=
  [',', ' ']

/-- What stands between a property and its operand, or the first of its operands. -/
def operatorWords : List (String × Operator) :=
  [("= ", .comparison .eq), ("!= ", .comparison .neq), ("< ", .comparison .lt), ("<= ", .comparison .lte),
    ("> ", .comparison .gt), (">= ", .comparison .gte), ("LIKE ", .comparison .like),
    ("NOT LIKE ", .comparison .notLike), ("IN (", .membership .within),
    ("NOT IN (", .membership .notWithin)]

/-- The word names a direction, in any case. -/
def IsDirection (word : List Char) : Prop :=
  Text.SameSpelling (String.ofList word) "asc" ∨ Text.SameSpelling (String.ofList word) "desc"

instance (word : List Char) : Decidable (IsDirection word) := by
  unfold IsDirection
  infer_instance

/-! ## Derivations -/

/-- The characters spell the literal. -/
inductive SpellsLiteral : List Char → Literal → Prop
  | string {text : List Char} :
      '\'' ∉ text →
      SpellsLiteral ('\'' :: (text ++ ['\''])) (.string (String.ofList text))
  | number {word : List Char} :
      Number.IsNumberWord word →
      SpellsLiteral word (.number (String.ofList word))
  | yes :
      SpellsLiteral ['t', 'r', 'u', 'e'] (.boolean true)
  | no :
      SpellsLiteral ['f', 'a', 'l', 's', 'e'] (.boolean false)

/-- The characters spell the items, of which there is at least one, with commas between them. -/
inductive SpellsListed (spells : List Char → α → Prop) : List Char → α × List α → Prop
  | items (first : List Char × α) (others : List (List Char × α)) :
      (∀ item ∈ first :: others, spells item.1 item.2) →
      SpellsListed spells
        (comma.intercalate ((first :: others).map Prod.fst))
        (first.2, others.map Prod.snd)

/-- The characters spell the condition. -/
inductive SpellsCondition : List Char → Expression → Prop
  | group (connective : Connective) (first : List Char × Expression)
      (others : List (List Char × Expression)) :
      (∀ child ∈ first :: others, SpellsCondition child.1 child.2) →
      SpellsCondition
        ('(' :: ((joiner connective).intercalate ((first :: others).map Prod.fst) ++ [')']))
        (.ofGroup connective (first.2 :: others.map Prod.snd))
  | compare {name : List Char} {words : String} {op : ComparisonOp} {operand : List Char}
      {value : Literal} :
      IsWord name →
      (words, .comparison op) ∈ operatorWords →
      SpellsLiteral operand value →
      SpellsCondition
        (name ++ ' ' :: (words.toList ++ operand))
        (.compare (String.ofList name) op value)
  | member {name : List Char} {words : String} {op : MembershipOp} {operands : List Char}
      {first : Literal} {others : List Literal} :
      IsWord name →
      (words, .membership op) ∈ operatorWords →
      SpellsListed SpellsLiteral operands (first, others) →
      SpellsCondition
        (name ++ ' ' :: (words.toList ++ (operands ++ [')'])))
        (.member (String.ofList name) op first.kind (first :: others))

/-- A sort clause: a column, and a direction behind one space if there is one. -/
inductive IsClause : List Char → Prop
  | column {name : List Char} :
      IsWord name →
      IsClause name
  | directed {name : List Char} {direction : List Char} :
      IsWord name →
      IsDirection direction →
      IsClause (name ++ ' ' :: direction)

/-- The characters are a sort clause, which is kept as written. -/
def SpellsClause (word : List Char) (clause : String) : Prop :=
  IsClause word ∧ clause = String.ofList word

/-- The characters spell the order. -/
inductive SpellsOrder : List Char → Order → Prop
  | clauses {text : List Char} {first : String} {others : List String} :
      SpellsListed SpellsClause text (first, others) →
      SpellsOrder text { clauses := first :: others }

/-- The characters spell the count in decimal digits. -/
structure SpellsCount (word : List Char) (count : UInt64) : Prop where
  /-- There is a digit. -/
  nonempty : word ≠ []
  /-- All characters are digits. -/
  digits : ∀ char ∈ word, char.isDigit = true
  /-- The digits denote the count. -/
  value : Nat.ofDigitChars 10 word 0 = count.toNat

/-- A part that can be missing: a keyword and characters that spell the value, or nothing at all. -/
inductive SpellsPart (keyword : String) (spells : List Char → α → Prop) : List Char → Option α → Prop
  | missing :
      SpellsPart keyword spells [] none
  | present {operand : List Char} {value : α} :
      spells operand value →
      SpellsPart keyword spells (keyword.toList ++ operand) (some value)

/-- The characters spell the fragment: its four parts in a row. -/
inductive Spells : List Char → Fragment → Prop
  | parts {condition order limit skip : List Char} {fragment : Fragment} :
      SpellsPart " WHERE " SpellsCondition condition fragment.condition →
      SpellsPart " ORDER BY " SpellsOrder order fragment.order →
      SpellsPart " LIMIT " SpellsCount limit fragment.limit →
      SpellsPart " OFFSET " SpellsCount skip fragment.skip →
      Spells (condition ++ (order ++ (limit ++ skip))) fragment

end Fragment

/-! ## What a filter says -/

namespace Literal

/-- The literal that is written for a scalar. -/
def ofScalar : Scalar → Literal
  | .string text =>
      .string text
  | .number value =>
      .number value.text
  | .boolean value =>
      .boolean value

@[simp] theorem kind_ofScalar (scalar : Scalar) : (ofScalar scalar).kind = scalar.kind := by
  cases scalar <;> rfl

end Literal

namespace Expression

mutual

/-- What the text of a condition says. -/
def ofCondition : Condition → Expression
  | .group connective children =>
      ofGroup connective (ofEach children)
  | .compare comparison =>
      .compare comparison.property comparison.op (.ofScalar comparison.value)
  | .member membership =>
      .member membership.property membership.op membership.datatype
        (membership.values.map Literal.ofScalar)

/-- What the texts of conditions in a row say. -/
def ofEach : List Condition → List Expression
  | [] =>
      []
  | first :: rest =>
      ofCondition first :: ofEach rest

end

theorem ofEach_eq_map (conditions : List Condition) : ofEach conditions = conditions.map ofCondition := by
  induction conditions with
  | nil => rfl
  | cons first rest inductionHypothesis => simp [ofEach, inductionHypothesis]

end Expression

namespace Fragment

/-- What the text of a filter says. -/
def ofFilter (filter : Filter) : Fragment where
  condition := filter.condition.map Expression.ofCondition
  order := filter.order
  limit := filter.limit
  skip := filter.skip

end Fragment
end QueryFilter
