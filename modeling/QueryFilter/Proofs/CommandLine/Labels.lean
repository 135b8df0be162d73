import QueryFilter.CommandLine.Report
import QueryFilter.Proofs.Sql.ReadBack

/-!
# What the line of a node tells

A node of a tree is printed in one line. The line of a group tells its connective. The line of a leaf tells
its property, its operator, the tag of a list, and its operands up to numbers that are written alike. Lists
may be empty or mixed, and a name may hold everything but spaces and line breaks.
-/

namespace QueryFilter

/-! ## Printable conditions -/

namespace Scalar

/-- A string holds neither the quote that ends it nor a line break. -/
def IsPrintable : Scalar → Prop
  | .string text =>
      '\'' ∉ text.toList ∧ '\n' ∉ text.toList
  | _ =>
      True

instance : (scalar : Scalar) → Decidable scalar.IsPrintable
  | .string text =>
      inferInstanceAs (Decidable ('\'' ∉ text.toList ∧ '\n' ∉ text.toList))
  | .number _ =>
      .isTrue trivial
  | .boolean _ =>
      .isTrue trivial

theorem IsPrintable.isLegible
    {scalar : Scalar}
    (printable : scalar.IsPrintable) :
    scalar.IsLegible := by
  cases scalar with
  | string text => exact printable.1
  | number value => trivial
  | boolean value => trivial

theorem IsPrintable.newline_notMem_literal
    {scalar : Scalar}
    (printable : scalar.IsPrintable) :
    '\n' ∉ scalar.literal.toList := by
  cases scalar with
  | string text => simpa [literal] using printable.2
  | number value =>
      intro listed
      have written : (number value).literal.toList = value.chars := String.toList_ofList
      rw [written] at listed
      exact absurd (value.isNumberWord_chars.2 '\n' listed) (by decide)
  | boolean value => cases value <;> decide

end Scalar

namespace Condition

/-- The name is not empty and holds neither spaces nor line breaks. -/
def IsPrintableName (name : String) : Prop :=
  name.toList ≠ [] ∧ ' ' ∉ name.toList ∧ '\n' ∉ name.toList

instance (name : String) : Decidable (IsPrintableName name) := by
  unfold IsPrintableName
  infer_instance

/-- The name and the operands of a leaf are printable; a group may have any number of children. -/
def IsPrintableNode : Condition → Prop
  | .group _ _ =>
      True
  | .compare comparison =>
      IsPrintableName comparison.property ∧ comparison.value.IsPrintable
  | .member membership =>
      IsPrintableName membership.property ∧ ∀ value ∈ membership.values, value.IsPrintable

/-- All nodes of the condition are printable. -/
def IsPrintable (tree : Condition) : Prop :=
  EveryNode IsPrintableNode tree

end Condition

/-! ## Conditions up to the text of numbers -/

namespace Expression

mutual

/-- The condition with every number replaced by its text, and all else as it is. -/
def verbatim : Condition → Expression
  | .group connective children =>
      .group connective (verbatimEach children)
  | .compare comparison =>
      .compare comparison.property comparison.op (.ofScalar comparison.value)
  | .member membership =>
      .member membership.property membership.op membership.datatype
        (membership.values.map Literal.ofScalar)

/-- Conditions in a row with every number replaced by its text. -/
def verbatimEach : List Condition → List Expression
  | [] =>
      []
  | first :: rest =>
      verbatim first :: verbatimEach rest

end

end Expression

namespace Literal

/-- A literal as it is written, a string between quotes. -/
def written : Literal → String
  | .string text =>
      "'" ++ text ++ "'"
  | .number text =>
      text
  | .boolean value =>
      Scalar.booleanText value

@[simp] theorem written_ofScalar (scalar : Scalar) : (ofScalar scalar).written = scalar.literal := by
  cases scalar <;> rfl

end Literal

/-! ## Lines of leaves -/

namespace Fragment

theorem readSpan?_name
    {name : String}
    (printable : Condition.IsPrintableName name)
    (rest : List Char) :
    readSpan? (· != ' ') (name.toList ++ ' ' :: rest) = some (name.toList, ' ' :: rest) := by
  refine readSpan?_eq_some_iff.2 ⟨rfl, printable.1, ?_, by simp⟩
  intro char listed
  rw [bne_iff_ne]
  rintro rfl
  exact printable.2.1 listed

/-- A name, an operator and what stands behind it are told apart. -/
theorem leaf_inj
    {name otherName words otherWords : String}
    {operator otherOperator : Operator}
    {operand otherOperand : List Char}
    (printable : Condition.IsPrintableName name)
    (otherPrintable : Condition.IsPrintableName otherName)
    (listed : (words, operator) ∈ operatorWords)
    (otherListed : (otherWords, otherOperator) ∈ operatorWords)
    (same : name.toList ++ ' ' :: (words.toList ++ operand) =
      otherName.toList ++ ' ' :: (otherWords.toList ++ otherOperand)) :
    name = otherName ∧ operator = otherOperator ∧ operand = otherOperand := by
  have readName := readSpan?_name printable (words.toList ++ operand)
  rw [same, readSpan?_name otherPrintable] at readName
  obtain ⟨names, behind⟩ := Prod.mk.inj (Option.some.inj readName)
  obtain ⟨-, operators⟩ := List.cons.inj behind
  have readWords := readOperator?_append otherListed otherOperand
  rw [operators, readOperator?_append listed] at readWords
  obtain ⟨rfl, rfl⟩ := Prod.mk.inj (Option.some.inj readWords)
  exact ⟨(String.toList_inj.1 names).symm, rfl, rfl⟩

/-- The literals of printable scalars are told apart, up to numbers that are written alike. -/
theorem ofScalar_eq_of_literal_eq
    {left right : Scalar}
    (leftPrintable : left.IsPrintable)
    (rightPrintable : right.IsPrintable)
    (same : left.literal.toList = right.literal.toList) :
    Literal.ofScalar left = Literal.ofScalar right := by
  have read := readLiteral?_isComplete (spellsLiteral_literal leftPrintable.isLegible) ends_nil
  rw [same, readLiteral?_isComplete (spellsLiteral_literal rightPrintable.isLegible) ends_nil] at read
  exact (Prod.mk.inj (Option.some.inj read)).1.symm

/-- The literals of scalars, with commas between them. -/
def literals (values : List Scalar) : List Char :=
  comma.intercalate (values.map fun value => value.literal.toList)

theorem newline_notMem_literals
    {values : List Scalar}
    (printable : ∀ value ∈ values, value.IsPrintable) :
    '\n' ∉ literals values := by
  cases values with
  | nil => simp [literals]
  | cons first others =>
      have inFirst := (printable first List.mem_cons_self).newline_notMem_literal
      have inOthers : ∀ value ∈ others, '\n' ∉ value.literal.toList := by
        intro value listed
        exact (printable value (List.mem_cons_of_mem first listed)).newline_notMem_literal
      rw [literals, List.map_cons, intercalate_cons]
      simpa [inFirst, comma] using inOthers

/-- Literals with commas between them, as many as there are. -/
def readLiterals (text : List Char) : List Literal × List Char :=
  match readListed? readLiteral? text with
  | some ((first, others), rest) =>
      (first :: others, rest)
  | none =>
      ([], text)

/-- Any list of literals is read up to the parenthesis that closes it. -/
theorem readLiterals_append
    {values : List Scalar}
    (printable : ∀ value ∈ values, value.IsPrintable)
    (rest : List Char) :
    readLiterals (literals values ++ ')' :: rest) = (values.map Literal.ofScalar, ')' :: rest) := by
  cases values with
  | nil => rfl
  | cons first others =>
      have spelled : ∀ value ∈ first :: others, SpellsLiteral value.literal.toList (.ofScalar value) := by
        intro value listed
        exact spellsLiteral_literal (printable value listed).isLegible
      have listed := spellsListed_map (fun value => value.literal.toList) Literal.ofScalar spelled
      rw [readLiterals, literals, readListed?_literals_close listed]
      rfl

end Fragment

/-! ## Lines of nodes -/

namespace ScalarKind

/-- The tag of a list, with the space in front of it. -/
def tag (kind : ScalarKind) : List Char :=
  ' ' :: '<' :: (kind.name.toList ++ ['>'])

theorem tag_injective : Function.Injective tag := by
  intro left right same
  cases left <;> cases right <;> first | rfl | exact absurd same (by decide)

end ScalarKind

namespace Condition

/-- The line of a node, without the space in front of it. -/
def label : Condition → List Char
  | .group connective _ =>
      '[' :: (connective.sql.toList ++ [']'])
  | .compare comparison =>
      comparison.sql.toList
  | .member membership =>
      membership.sql.toList ++ membership.datatype.tag

/-- The line of a leaf has a space and that of a group has none. -/
theorem space_mem_label_iff
    {node : Condition} :
    ' ' ∈ node.label ↔ node.connective? = none := by
  cases node with
  | group connective children => cases connective <;> simp [label, Connective.sql]
  | compare comparison => simp [label, Comparison.sql, connective?]
  | member membership => simp [label, Membership.sql, connective?]

/-- Nodes with the same line are groups of the same connective, or both are leaves. -/
theorem connective?_eq_of_label_eq
    {left right : Condition}
    (same : left.label = right.label) :
    left.connective? = right.connective? := by
  have leaves : left.connective? = none ↔ right.connective? = none := by
    rw [← space_mem_label_iff, ← space_mem_label_iff, same]
  cases left with
  | group connective children =>
      cases right with
      | group other others =>
          cases connective <;> cases other <;> first | rfl | exact absurd same (by simp [label, Connective.sql])
      | compare => cases leaves.2 rfl
      | member => cases leaves.2 rfl
  | compare => exact (leaves.1 rfl).symm
  | member => exact (leaves.1 rfl).symm

/-- The property of a leaf, its operator, and the text behind the operator. -/
def leafParts? : Condition → Option (String × Operator × List Char)
  | .group _ _ =>
      none
  | .compare comparison =>
      some (comparison.property, .comparison comparison.op, comparison.value.literal.toList)
  | .member membership =>
      some (membership.property, .membership membership.op,
        Fragment.literals membership.values ++ ')' :: membership.datatype.tag)

theorem exists_leafParts?_eq_some
    {node : Condition}
    (leaf : node.connective? = none) :
    ∃ name operator operand, node.leafParts? = some (name, operator, operand) := by
  cases node with
  | group => cases leaf
  | compare => exact ⟨_, _, _, rfl⟩
  | member => exact ⟨_, _, _, rfl⟩

/-- The line of a leaf is made of its parts. -/
theorem label_eq_of_leafParts?
    {node : Condition}
    {name : String}
    {operator : Operator}
    {operand : List Char}
    (printable : node.IsPrintableNode)
    (parts : node.leafParts? = some (name, operator, operand)) :
    ∃ words, (words, operator) ∈ Fragment.operatorWords ∧ IsPrintableName name ∧
      node.label = name.toList ++ ' ' :: (words.toList ++ operand) := by
  cases node with
  | group => cases parts
  | compare comparison =>
      cases parts
      refine ⟨_, Fragment.comparison_mem_operatorWords comparison.op, printable.1, ?_⟩
      simp [label, Comparison.sql]
  | member membership =>
      cases parts
      refine ⟨_, Fragment.membership_mem_operatorWords membership.op, printable.1, ?_⟩
      simp [label, Membership.sql, Membership.literals, Fragment.literals, Fragment.comma, Function.comp_def,
        String.toList_intercalate]

/-- Printable leaves with the same parts are equal up to numbers that are written alike. -/
theorem verbatim_eq_of_leafParts?_eq
    {left right : Condition}
    (leftPrintable : left.IsPrintableNode)
    (rightPrintable : right.IsPrintableNode)
    (leaf : left.connective? = none)
    (same : left.leafParts? = right.leafParts?) :
    Expression.verbatim left = Expression.verbatim right := by
  cases left with
  | group => cases leaf
  | compare comparison =>
      cases right with
      | compare other =>
          simp only [leafParts?, Option.some.injEq, Prod.mk.injEq, Operator.comparison.injEq] at same
          obtain ⟨names, operators, operands⟩ := same
          have values := Fragment.ofScalar_eq_of_literal_eq leftPrintable.2 rightPrintable.2 operands
          rw [Expression.verbatim, Expression.verbatim, names, operators, values]
      | _ => simp [leafParts?] at same
  | member membership =>
      cases right with
      | member other =>
          simp only [leafParts?, Option.some.injEq, Prod.mk.injEq, Operator.membership.injEq] at same
          obtain ⟨names, operators, operands⟩ := same
          have read := Fragment.readLiterals_append leftPrintable.2 membership.datatype.tag
          rw [operands, Fragment.readLiterals_append rightPrintable.2] at read
          obtain ⟨values, tags⟩ := Prod.mk.inj read
          have kinds := ScalarKind.tag_injective (List.cons.inj tags).2
          rw [Expression.verbatim, Expression.verbatim, names, operators, values, kinds]
      | _ => simp [leafParts?] at same

/-- Printable leaves with the same line are equal up to numbers that are written alike. -/
theorem verbatim_eq_of_label_eq
    {left right : Condition}
    (leftPrintable : left.IsPrintableNode)
    (rightPrintable : right.IsPrintableNode)
    (leaf : left.connective? = none)
    (same : left.label = right.label) :
    Expression.verbatim left = Expression.verbatim right := by
  have rightLeaf := (connective?_eq_of_label_eq same).symm.trans leaf
  obtain ⟨name, operator, operand, parts⟩ := exists_leafParts?_eq_some leaf
  obtain ⟨otherName, otherOperator, otherOperand, otherParts⟩ := exists_leafParts?_eq_some rightLeaf
  obtain ⟨words, listed, printable, text⟩ := label_eq_of_leafParts? leftPrintable parts
  obtain ⟨otherWords, otherListed, otherPrintable, otherText⟩ := label_eq_of_leafParts? rightPrintable otherParts
  rw [text, otherText] at same
  obtain ⟨rfl, rfl, rfl⟩ := Fragment.leaf_inj printable otherPrintable listed otherListed same
  exact verbatim_eq_of_leafParts?_eq leftPrintable rightPrintable leaf (parts.trans otherParts.symm)

/-- Conditions that are equal up to the text of numbers have the same line at the root. -/
theorem label_eq_of_verbatim_eq
    {left right : Condition}
    (same : Expression.verbatim left = Expression.verbatim right) :
    left.label = right.label := by
  cases left with
  | group connective children =>
      cases right with
      | group other others => rw [label, label, (Expression.group.inj same).1]
      | _ => cases same
  | compare comparison =>
      cases right with
      | compare other =>
          obtain ⟨names, operators, values⟩ := Expression.compare.inj same
          have literals := congrArg Literal.written values
          rw [Literal.written_ofScalar, Literal.written_ofScalar] at literals
          rw [label, label, Comparison.sql, Comparison.sql, names, operators, literals]
      | _ => cases same
  | member membership =>
      cases right with
      | member other =>
          obtain ⟨names, operators, kinds, values⟩ := Expression.member.inj same
          have literals := congrArg (List.map Literal.written) values
          simp only [List.map_map, Function.comp_def, Literal.written_ofScalar] at literals
          rw [label, label, Membership.sql, Membership.sql, Membership.literals, Membership.literals, names,
            operators, kinds, literals]
      | _ => cases same

/-- The line of a printable node does not begin with a space. -/
theorem head?_label_ne_space
    {node : Condition}
    (printable : node.IsPrintableNode) :
    ∃ first rest, node.label = first :: rest ∧ first ≠ ' ' := by
  cases leaf : node.connective? with
  | some connective =>
      cases node with
      | group => exact ⟨'[', _, rfl, by decide⟩
      | _ => cases leaf
  | none =>
      obtain ⟨name, operator, operand, parts⟩ := exists_leafParts?_eq_some leaf
      obtain ⟨words, -, ⟨nonempty, noSpace, -⟩, text⟩ := label_eq_of_leafParts? printable parts
      obtain ⟨first, rest, name_eq⟩ := List.exists_cons_of_ne_nil nonempty
      rw [name_eq] at text noSpace
      exact ⟨first, _, text, (List.ne_of_not_mem_cons noSpace).symm⟩

/-- The text behind the operator of a leaf has no line break. -/
theorem newline_notMem_operand
    {node : Condition}
    {name : String}
    {operator : Operator}
    {operand : List Char}
    (printable : node.IsPrintableNode)
    (parts : node.leafParts? = some (name, operator, operand)) :
    '\n' ∉ operand := by
  cases node with
  | group => cases parts
  | compare comparison =>
      cases parts
      exact printable.2.newline_notMem_literal
  | member membership =>
      cases parts
      have inTag : '\n' ∉ membership.datatype.tag := by cases membership.datatype <;> decide
      have inLiterals := Fragment.newline_notMem_literals printable.2
      simp [inTag, inLiterals]

/-- The line of a printable node has no line break. -/
theorem newline_notMem_label
    {node : Condition}
    (printable : node.IsPrintableNode) :
    '\n' ∉ node.label := by
  have inWords : ∀ entry ∈ Fragment.operatorWords, '\n' ∉ entry.1.toList := by decide
  cases leaf : node.connective? with
  | some connective =>
      cases node with
      | group own => cases own <;> simp [label, Connective.sql]
      | _ => cases leaf
  | none =>
      obtain ⟨name, operator, operand, parts⟩ := exists_leafParts?_eq_some leaf
      obtain ⟨words, listed, ⟨-, -, inName⟩, text⟩ := label_eq_of_leafParts? printable parts
      have inOperand := newline_notMem_operand printable parts
      simp [text, inName, inOperand, inWords _ listed]

end Condition
end QueryFilter
