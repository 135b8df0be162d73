import QueryFilter.Filter

/-!
# Query documents

The document of a filter has the keys of what is set: a query, a sort document and two counts. A comparison
for equality is the bare value; every other operator is a key with a dollar sign. A pattern becomes an
anchored regular expression.
-/

namespace QueryFilter

namespace Pattern

/-- The character has a meaning of its own in a regular expression. -/
def isSpecial (char : Char) : Bool :=
  char ∈ ['\\', '.', '+', '*', '?', '(', ')', '|', '[', ']', '\x7b', '\x7d', '^', '$']

/-- The expression of one character of a pattern. -/
def charRegex (char : Char) : List Char :=
  if char = '%' then
    ['.', '*']
  else if char = '_' then
    ['.']
  else if isSpecial char then
    ['\\', char]
  else
    [char]

/-- The expression that matches a text as a whole exactly when the pattern does. -/
def regexChars (pattern : List Char) : List Char :=
  '^' :: (pattern.flatMap charRegex ++ ['$'])

/-- The expression for the operand of a pattern operator; a number or a boolean stands as it is written. -/
def regex : Scalar → String
  | .string pattern =>
      String.ofList (regexChars pattern.toList)
  | scalar =>
      "^" ++ scalar.text ++ "$"

end Pattern

namespace Comparison

/-- What the property of a comparison is required to be. -/
def requirement (comparison : Comparison) : Json :=
  let value := comparison.value.toJson
  match comparison.op with
  | .eq =>
      value
  | .neq =>
      .single "$ne" value
  | .lt =>
      .single "$lt" value
  | .lte =>
      .single "$lte" value
  | .gt =>
      .single "$gt" value
  | .gte =>
      .single "$gte" value
  | .like =>
      .single "$regex" (.string (Pattern.regex comparison.value))
  | .notLike =>
      .single "$not" (.single "$regex" (.string (Pattern.regex comparison.value)))

/-- The query document of a comparison. -/
def mongo (comparison : Comparison) : Json :=
  .single comparison.property comparison.requirement

end Comparison

namespace MembershipOp

/-- The operator key of a membership test. -/
def mongoKey : MembershipOp → String
  | .within =>
      "$in"
  | .notWithin =>
      "$nin"

end MembershipOp

namespace Membership

/-- The query document of a membership test. -/
def mongo (membership : Membership) : Json :=
  .single membership.property
    (.single membership.op.mongoKey (.array (membership.values.map Scalar.toJson)))

end Membership

namespace Connective

/-- The operator key of a group. -/
def mongoKey : Connective → String
  | .and =>
      "$and"
  | .or =>
      "$or"

end Connective

namespace Condition

mutual

/-- The query document of a condition. -/
def mongo : Condition → Json
  | .group connective children =>
      .single connective.mongoKey (.array (mongoEach children))
  | .compare comparison =>
      comparison.mongo
  | .member membership =>
      membership.mongo

/-- The query documents of conditions in a row. -/
def mongoEach : List Condition → List Json
  | [] =>
      []
  | first :: rest =>
      first.mongo :: mongoEach rest

end

theorem mongoEach_eq_map (conditions : List Condition) :
    mongoEach conditions = conditions.map mongo := by
  induction conditions with
  | nil => rfl
  | cons first rest inductionHypothesis => simp [mongoEach, inductionHypothesis]

end Condition

namespace SortDirection

/-- The number that stands for a direction in a sort document. -/
def mongo : SortDirection → Json
  | .ascending =>
      .number (.integer 1 (by decide))
  | .descending =>
      .number (.integer (-1) (by decide))

end SortDirection

namespace Order

/-- The sort document: a repeated column keeps its first place and takes its last direction. -/
def mongo (order : Order) : Json :=
  .object
    (order.columns.foldl
      (fun members column => Members.insert members column.name column.direction.mongo) [])

end Order

namespace Filter

/-- The document of a filter. -/
def mongo (filter : Filter) : Json :=
  .object
    (Members.optional "filter" (filter.condition.map Condition.mongo) ++
      Members.optional "sort" (filter.order.map Order.mongo) ++
      Members.optional "limit" (filter.limit.map Json.ofUInt64) ++
      Members.optional "skip" (filter.skip.map Json.ofUInt64))

end Filter
end QueryFilter
