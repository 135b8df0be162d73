import QueryFilter.Filter

/-!
# Stored form, writing

Filters and their parts as Json values for storage. A condition is an object whose only key tells its kind;
operators and directions are names; an unset part of a filter is left out.
-/

namespace QueryFilter

namespace ScalarKind

/-- The stored form of a kind. -/
def toStored (kind : ScalarKind) : Json :=
  .string kind.name

end ScalarKind

namespace Connective

/-- The stored name of a connective by itself. -/
def storedName : Connective → String
  | .and =>
      "And"
  | .or =>
      "Or"

/-- The key of a stored group. -/
def storedKey : Connective → String
  | .and =>
      "and"
  | .or =>
      "or"

end Connective

namespace ComparisonOp

/-- The stored name of a comparison operator. -/
def storedName : ComparisonOp → String
  | .eq =>
      "Eq"
  | .neq =>
      "Neq"
  | .lt =>
      "Lt"
  | .lte =>
      "Lte"
  | .gt =>
      "Gt"
  | .gte =>
      "Gte"
  | .like =>
      "Like"
  | .notLike =>
      "NotLike"

end ComparisonOp

namespace MembershipOp

/-- The stored name of a membership operator. -/
def storedName : MembershipOp → String
  | .within =>
      "In"
  | .notWithin =>
      "NotIn"

end MembershipOp

namespace SortDirection

/-- The stored name of a direction. -/
def storedName : SortDirection → String
  | .ascending =>
      "Asc"
  | .descending =>
      "Desc"

end SortDirection

namespace Comparison

/-- The stored form of a comparison. -/
def toStored (comparison : Comparison) : Json :=
  .object
    [("property", .string comparison.property),
      ("op", .string comparison.op.storedName),
      ("value", comparison.value.toJson)]

end Comparison

namespace Membership

/-- The stored form of a membership test. -/
def toStored (membership : Membership) : Json :=
  .object
    [("property", .string membership.property),
      ("op", .string membership.op.storedName),
      ("datatype", membership.datatype.toStored),
      ("values", .array (membership.values.map Scalar.toJson))]

end Membership

namespace Condition

mutual

/-- The stored form of a condition. -/
def toStored : Condition → Json
  | .group connective children =>
      .single connective.storedKey (.array (toStoredEach children))
  | .compare comparison =>
      .single "compare" comparison.toStored
  | .member membership =>
      .single "member" membership.toStored

/-- The stored forms of conditions in a row. -/
def toStoredEach : List Condition → List Json
  | [] =>
      []
  | first :: rest =>
      first.toStored :: toStoredEach rest

end

theorem toStoredEach_eq_map (conditions : List Condition) :
    toStoredEach conditions = conditions.map toStored := by
  induction conditions with
  | nil => rfl
  | cons first rest inductionHypothesis => simp [toStoredEach, inductionHypothesis]

end Condition

namespace Order

/-- The stored form of an order. -/
def toStored (order : Order) : Json :=
  .array (order.clauses.map Json.string)

end Order

namespace Filter

/-- The stored form of a filter. -/
def toStored (filter : Filter) : Json :=
  .object
    (Members.optional Field.condition.key (filter.condition.map Condition.toStored) ++
      Members.optional Field.order.key (filter.order.map Order.toStored) ++
      Members.optional Field.limit.key (filter.limit.map Json.ofUInt64) ++
      Members.optional Field.skip.key (filter.skip.map Json.ofUInt64))

end Filter
end QueryFilter
