import QueryFilter.Proofs.Sql.Unambiguous

/-!
# Filters are read back from their fragments

Names, strings and sort clauses are written as they stand. As long as they do not hold the characters that
end them, the text of a filter is derived by the grammar and is read back as what the filter says.
-/

namespace QueryFilter

/-! ## Legible filters -/

namespace Scalar

/-- A string does not hold the quote that ends it. -/
def IsLegible : Scalar → Prop
  | .string text =>
      '\'' ∉ text.toList
  | _ =>
      True

instance (scalar : Scalar) : Decidable scalar.IsLegible := by
  unfold IsLegible
  split <;> infer_instance

end Scalar

namespace Condition

/-- A group has a child, a name is a word, and listed scalars have the kind that the list is tagged with. -/
def IsLegibleNode : Condition → Prop
  | .group _ children =>
      children ≠ []
  | .compare comparison =>
      Fragment.IsWord comparison.property.toList ∧ comparison.value.IsLegible
  | .member membership =>
      Fragment.IsWord membership.property.toList ∧ membership.values ≠ [] ∧
        ∀ value ∈ membership.values, value.kind = membership.datatype ∧ value.IsLegible

/-- All nodes of the condition are legible. -/
def IsLegible (tree : Condition) : Prop :=
  EveryNode IsLegibleNode tree

end Condition

namespace Order

/-- There is a clause, and each one is a column with at most a direction behind it. -/
def IsLegible (order : Order) : Prop :=
  order.clauses ≠ [] ∧ ∀ clause ∈ order.clauses, Fragment.IsClause clause.toList

end Order

namespace Filter

/-- The condition and the order are legible if they are set. -/
structure IsLegible (filter : Filter) : Prop where
  /-- The condition is legible. -/
  condition : ∀ condition ∈ filter.condition, condition.IsLegible
  /-- The order is legible. -/
  order : ∀ order ∈ filter.order, order.IsLegible

end Filter

/-! ## Derivations of written texts -/

namespace Fragment

theorem spellsLiteral_literal
    {scalar : Scalar}
    (legible : scalar.IsLegible) :
    SpellsLiteral scalar.literal.toList (.ofScalar scalar) := by
  cases scalar with
  | string text =>
      have quoted := SpellsLiteral.string legible
      rw [String.ofList_toList] at quoted
      simpa [Scalar.literal, Literal.ofScalar] using quoted
  | number value =>
      have word := SpellsLiteral.number value.isNumberWord_chars
      simpa [Scalar.literal, Scalar.text, Number.text, Literal.ofScalar] using word
  | boolean value =>
      cases value with
      | true => exact .yes
      | false => exact .no

/-- Written items with commas between them spell the items. -/
theorem spellsListed_map
    {spells : List Char → α → Prop}
    (write : β → List Char)
    (view : β → α)
    {first : β}
    {others : List β}
    (spelled : ∀ item ∈ first :: others, spells (write item) (view item)) :
    SpellsListed spells (comma.intercalate ((first :: others).map write)) (view first, others.map view) := by
  have each : ∀ item ∈ (write first, view first) :: others.map fun item => (write item, view item),
      spells item.1 item.2 := by
    simpa using spelled
  have pairs := SpellsListed.items (write first, view first) _ each
  simpa [Function.comp_def] using pairs

theorem comparison_mem_operatorWords (op : ComparisonOp) :
    (op.sql ++ " ", .comparison op) ∈ operatorWords := by
  cases op <;> decide

theorem membership_mem_operatorWords (op : MembershipOp) :
    (op.sql ++ " (", .membership op) ∈ operatorWords := by
  cases op <;> decide

theorem toList_joiner (connective : Connective) :
    (" " ++ connective.sql ++ " ").toList = joiner connective := by
  cases connective <;> rfl

theorem spellsCondition_comparison
    {comparison : Comparison}
    (isWord : IsWord comparison.property.toList)
    (legible : comparison.value.IsLegible) :
    SpellsCondition comparison.sql.toList (.ofCondition (.compare comparison)) := by
  have leaf := SpellsCondition.compare isWord (comparison_mem_operatorWords comparison.op)
    (spellsLiteral_literal legible)
  rw [String.ofList_toList] at leaf
  simpa [Comparison.sql, Expression.ofCondition] using leaf

theorem spellsCondition_membership
    {membership : Membership}
    (isWord : IsWord membership.property.toList)
    (nonempty : membership.values ≠ [])
    (legible : ∀ value ∈ membership.values, value.kind = membership.datatype ∧ value.IsLegible) :
    SpellsCondition membership.sql.toList (.ofCondition (.member membership)) := by
  obtain ⟨property, op, datatype, values⟩ := membership
  obtain ⟨first, others, rfl⟩ := List.exists_cons_of_ne_nil nonempty
  have kind : first.kind = datatype := (legible first List.mem_cons_self).1
  have spelled : ∀ value ∈ first :: others, SpellsLiteral value.literal.toList (.ofScalar value) := by
    intro value listed
    apply spellsLiteral_literal
    exact (legible value listed).2
  have listed := spellsListed_map (fun value => value.literal.toList) Literal.ofScalar spelled
  have leaf := SpellsCondition.member isWord (membership_mem_operatorWords op) listed
  rw [String.ofList_toList, Literal.kind_ofScalar, kind] at leaf
  simpa [Membership.sql, Membership.literals, Expression.ofCondition, comma, Function.comp_def,
    String.toList_intercalate] using leaf

theorem toList_sql_group
    (connective : Connective)
    (children : List Condition) :
    (Condition.group connective children).sql.toList =
      '(' :: ((joiner connective).intercalate (children.map fun child => child.sql.toList) ++ [')']) := by
  rw [Condition.sql, Condition.sqlEach_eq_map, String.toList_append, String.toList_append,
    String.toList_intercalate, toList_joiner, List.map_map]
  rfl

/-- The text of a legible condition spells what the condition says. -/
theorem spellsCondition_sql
    {tree : Condition}
    (legible : tree.IsLegible) :
    SpellsCondition tree.sql.toList (.ofCondition tree) := by
  induction tree using Condition.groupInduction with
  | group connective children inductionHypothesis =>
      obtain ⟨nonempty, below⟩ := Condition.everyNode_group_iff.1 legible
      obtain ⟨first, others, rfl⟩ := List.exists_cons_of_ne_nil nonempty
      have spelled : ∀ child ∈ first :: others,
          SpellsCondition child.sql.toList (.ofCondition child) := by
        intro child listed
        exact inductionHypothesis child listed (below child listed)
      have group := SpellsCondition.group connective (first.sql.toList, .ofCondition first)
        (others.map fun child => (child.sql.toList, .ofCondition child)) (by simpa using spelled)
      rw [toList_sql_group]
      simpa [Expression.ofCondition, Expression.ofEach_eq_map, Function.comp_def] using group
  | compare comparison =>
      obtain ⟨isWord, value⟩ := Condition.everyNode_compare_iff.1 legible
      exact spellsCondition_comparison isWord value
  | member membership =>
      obtain ⟨isWord, nonempty, values⟩ := Condition.everyNode_member_iff.1 legible
      exact spellsCondition_membership isWord nonempty values

theorem spellsOrder_sql
    {order : Order}
    (legible : order.IsLegible) :
    SpellsOrder order.sql.toList order := by
  obtain ⟨clauses⟩ := order
  obtain ⟨nonempty, isClause⟩ := legible
  obtain ⟨first, others, rfl⟩ := List.exists_cons_of_ne_nil nonempty
  have spelled : ∀ clause ∈ first :: others, SpellsClause clause.toList (id clause) := by
    intro clause listed
    exact ⟨isClause clause listed, String.ofList_toList.symm⟩
  have listed := spellsListed_map String.toList id spelled
  rw [List.map_id] at listed
  rw [Order.sql, String.toList_intercalate]
  exact .clauses listed

theorem spellsCount_countText (count : UInt64) :
    SpellsCount (Filter.countText count).toList count := by
  rw [Filter.countText, String.toList_ofList]
  refine ⟨Nat.toDigits_ne_nil, ?_, Nat.ofDigitChars_ten_toDigits⟩
  intro char listed
  exact Number.isDigit_of_mem_toDigits listed

/-- A clause that is written when it is set spells the part behind its keyword. -/
theorem spellsPart_clauseSql
    (keyword : String)
    {spells : List Char → β → Prop}
    {write : α → String}
    (view : α → β)
    (value : Option α)
    (spelled : ∀ item ∈ value, spells (write item).toList (view item)) :
    SpellsPart (" " ++ keyword ++ " ") spells (Filter.clauseSql keyword (value.map write)).toList
      (value.map view) := by
  cases value with
  | none => exact .missing
  | some item =>
      rw [Option.map_some, Filter.clauseSql, String.toList_append]
      exact .present (spelled item rfl)

/-- The text of a legible filter spells what the filter says. -/
theorem spells_sql
    {filter : Filter}
    (legible : filter.IsLegible) :
    Spells filter.sql.toList (.ofFilter filter) := by
  have condition := spellsPart_clauseSql "WHERE" Expression.ofCondition filter.condition (by
    intro tree isSet
    exact spellsCondition_sql (legible.condition tree isSet))
  have order := spellsPart_clauseSql "ORDER BY" id filter.order (by
    intro order isSet
    exact spellsOrder_sql (legible.order order isSet))
  have limit := spellsPart_clauseSql "LIMIT" id filter.limit (by
    intro count isSet
    exact spellsCount_countText count)
  have skip := spellsPart_clauseSql "OFFSET" id filter.skip (by
    intro count isSet
    exact spellsCount_countText count)
  rw [Option.map_id_fun, id] at order limit skip
  rw [Filter.sql, String.toList_append, String.toList_append, String.toList_append, List.append_assoc,
    List.append_assoc]
  exact .parts condition order limit skip

end Fragment

namespace Filter

/--
A reader that reads exactly the texts of the grammar reads the text of a legible filter as what the filter
says. So filters with the same text say the same.
-/
theorem read?_sql
    (filter : Filter)
    (legible : filter.IsLegible) :
    (∀ text fragment, Fragment.read? text = some fragment ↔ Fragment.Spells text.toList fragment) ∧
      Fragment.read? filter.sql = some (.ofFilter filter) ∧
        ∀ other : Filter, other.IsLegible → other.sql = filter.sql →
          Fragment.ofFilter other = Fragment.ofFilter filter := by
  have readBack (legibleFilter : Filter) (isLegible : legibleFilter.IsLegible) :
      Fragment.read? legibleFilter.sql = some (.ofFilter legibleFilter) := by
    apply Fragment.read?_isComplete
    exact Fragment.spells_sql isLegible
  refine ⟨?_, readBack filter legible, ?_⟩
  · intro text fragment
    exact Fragment.read?_eq_some_iff_spells
  · intro other otherLegible sameText
    have otherRead := readBack other otherLegible
    rw [sameText, readBack filter legible] at otherRead
    exact (Option.some.inj otherRead).symm

/-- A filter with a string that looks like syntax, and with a group of one condition. -/
def nestedSample (connective : Connective) : Filter where
  condition :=
    some
      (.group .and
        [.group connective [.like "title" "x AND (y, z) OR"],
          .member
            { property := "year"
              op := .notWithin
              datatype := .number
              values := [.number (.ofUInt64 1999), .number (.ofUInt64 2000)] }])
  order := some { clauses := ["year DESC", "title"] }
  limit := some 10
  skip := some 20

theorem nestedSample_isLegible (connective : Connective) : (nestedSample connective).IsLegible := by
  constructor
  · intro condition isSet
    obtain rfl := Option.some.inj isSet
    refine Condition.everyNode_group_iff.2 ⟨by simp [Condition.IsLegibleNode], ?_⟩
    intro child listed
    simp only [List.mem_cons, List.not_mem_nil, or_false] at listed
    rcases listed with rfl | rfl
    · refine Condition.everyNode_group_iff.2 ⟨by simp [Condition.IsLegibleNode], ?_⟩
      rintro child listed
      obtain rfl := List.mem_singleton.1 listed
      exact Condition.everyNode_compare_iff.2 ⟨by decide, by decide⟩
    · exact Condition.everyNode_member_iff.2 ⟨by decide, by decide, by decide⟩
  · intro order isSet
    obtain rfl := Option.some.inj isSet
    refine ⟨by decide, ?_⟩
    intro clause listed
    simp only [List.mem_cons, List.not_mem_nil, or_false] at listed
    rcases listed with rfl | rfl
    · show Fragment.IsClause ("year".toList ++ ' ' :: "DESC".toList)
      exact .directed (by decide) (by decide)
    · exact .column (by decide)

theorem read?_sql_nestedSample :
    (nestedSample .or).IsLegible ∧ (nestedSample .and).IsLegible ∧
      Fragment.read?
          (" WHERE ((title LIKE 'x AND (y, z) OR') AND year NOT IN (1999, 2000))" ++
            " ORDER BY year DESC, title LIMIT 10 OFFSET 20") =
        some
          { condition :=
              some
                (.group .and
                  [.compare "title" .like (.string "x AND (y, z) OR"),
                    .member "year" .notWithin .number [.number "1999", .number "2000"]])
            order := some { clauses := ["year DESC", "title"] }
            limit := some 10
            skip := some 20 } ∧
        Fragment.ofFilter (nestedSample .and) = Fragment.ofFilter (nestedSample .or) := by
  have legible := nestedSample_isLegible .or
  have twinLegible := nestedSample_isLegible .and
  obtain ⟨-, readBack, injective⟩ := read?_sql (nestedSample .or) legible
  exact ⟨legible, twinLegible, readBack, injective (nestedSample .and) twinLegible rfl⟩

end Filter
end QueryFilter
