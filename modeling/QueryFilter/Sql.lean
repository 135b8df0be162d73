import QueryFilter.Filter

/-!
# SQL fragments

The tail of a selection: condition, order, limit and offset, each clause only when it is set and each with
one space in front. Names, strings and sort clauses are written as they stand.
-/

namespace QueryFilter

namespace Connective

/-- The word between the conditions of a group. -/
def sql : Connective → String
  | .and =>
      "AND"
  | .or =>
      "OR"

end Connective

namespace ComparisonOp

/-- The symbol or words of a comparison operator. -/
def sql : ComparisonOp → String
  | .eq =>
      "="
  | .neq =>
      "!="
  | .lt =>
      "<"
  | .lte =>
      "<="
  | .gt =>
      ">"
  | .gte =>
      ">="
  | .like =>
      "LIKE"
  | .notLike =>
      "NOT LIKE"

end ComparisonOp

namespace MembershipOp

/-- The words of a membership operator. -/
def sql : MembershipOp → String
  | .within =>
      "IN"
  | .notWithin =>
      "NOT IN"

end MembershipOp

namespace Comparison

/-- Property, operator and literal. -/
def sql (comparison : Comparison) : String :=
  comparison.property ++ " " ++ comparison.op.sql ++ " " ++ comparison.value.literal

end Comparison

namespace Membership

/-- The literals of the listed scalars. -/
def literals (membership : Membership) : String :=
  String.intercalate ", " (membership.values.map Scalar.literal)

/-- Property, operator and the literals in parentheses. -/
def sql (membership : Membership) : String :=
  membership.property ++ " " ++ membership.op.sql ++ " (" ++ membership.literals ++ ")"

end Membership

namespace Condition

mutual

/-- The fragment of a condition; groups stand in parentheses. -/
def sql : Condition → String
  | .group connective children =>
      "(" ++ String.intercalate (" " ++ connective.sql ++ " ") (sqlEach children) ++ ")"
  | .compare comparison =>
      comparison.sql
  | .member membership =>
      membership.sql

/-- The fragments of conditions in a row. -/
def sqlEach : List Condition → List String
  | [] =>
      []
  | first :: rest =>
      first.sql :: sqlEach rest

end

theorem sqlEach_eq_map (conditions : List Condition) : sqlEach conditions = conditions.map sql := by
  induction conditions with
  | nil => rfl
  | cons first rest inductionHypothesis => simp [sqlEach, inductionHypothesis]

end Condition

namespace Order

/-- The clauses as written, separated by commas. -/
def sql (order : Order) : String :=
  String.intercalate ", " order.clauses

end Order

namespace Filter

/-- The text of a count. -/
def countText (count : UInt64) : String :=
  String.ofList (Nat.toDigits 10 count.toNat)

/-- A keyword and its operand, when the operand is set. -/
def clauseSql (keyword : String) : Option String → String
  | none =>
      ""
  | some operand =>
      " " ++ keyword ++ " " ++ operand

/-- The fragment of a filter. -/
def sql (filter : Filter) : String :=
  clauseSql "WHERE" (filter.condition.map Condition.sql) ++
    clauseSql "ORDER BY" (filter.order.map Order.sql) ++
    clauseSql "LIMIT" (filter.limit.map countText) ++
    clauseSql "OFFSET" (filter.skip.map countText)

end Filter
end QueryFilter
