import QueryFilter.Proofs.Condition
import QueryFilter.Mongo

/-!
# Meaning of query documents

Two readings over the same rows. A condition tree is read as it stands. A query document is read by its own
operator keys, first into a query and then against a row, without any knowledge of the tree that it came
from. Equality, order and regular expressions are whatever the row store makes of them.
-/

namespace QueryFilter

/-- How a store compares a field with an operand. -/
structure Comparer where
  /-- The field equals the operand. -/
  equal : Scalar → Scalar → Prop
  /-- The first scalar is less than the second. -/
  less : Scalar → Scalar → Prop
  /-- The first scalar is at most the second. -/
  atMost : Scalar → Scalar → Prop
  /-- The regular expression matches the field. -/
  matchesRegex : String → Scalar → Prop

/-- A row as far as queries see it: the scalar in each field that has one. -/
abbrev Row := String → Option Scalar

/-! ## Condition trees -/

namespace Comparison

/-- What the operator asks of the field. -/
def Accepts (comparer : Comparer) (comparison : Comparison) (field : Scalar) : Prop :=
  match comparison.op with
  | .eq =>
      comparer.equal field comparison.value
  | .neq =>
      ¬comparer.equal field comparison.value
  | .lt =>
      comparer.less field comparison.value
  | .lte =>
      comparer.atMost field comparison.value
  | .gt =>
      comparer.less comparison.value field
  | .gte =>
      comparer.atMost comparison.value field
  | .like =>
      comparer.matchesRegex (Pattern.regex comparison.value) field
  | .notLike =>
      ¬comparer.matchesRegex (Pattern.regex comparison.value) field

end Comparison

namespace Membership

/-- What the operator asks of the field. -/
def Accepts (comparer : Comparer) (membership : Membership) (field : Scalar) : Prop :=
  match membership.op with
  | .within =>
      ∃ value ∈ membership.values, comparer.equal field value
  | .notWithin =>
      ∀ value ∈ membership.values, ¬comparer.equal field value

end Membership

namespace Condition

mutual

/-- A condition holds of a row: a group by all or by any of its children, a leaf by the field it names. -/
def Holds (comparer : Comparer) (row : Row) : Condition → Prop
  | .group .and children =>
      AllHold comparer row children
  | .group .or children =>
      AnyHolds comparer row children
  | .compare comparison =>
      ∃ field, row comparison.property = some field ∧ comparison.Accepts comparer field
  | .member membership =>
      ∃ field, row membership.property = some field ∧ membership.Accepts comparer field

/-- All conditions hold of a row. -/
def AllHold (comparer : Comparer) (row : Row) : List Condition → Prop
  | [] =>
      True
  | first :: rest =>
      first.Holds comparer row ∧ AllHold comparer row rest

/-- Some condition holds of a row. -/
def AnyHolds (comparer : Comparer) (row : Row) : List Condition → Prop
  | [] =>
      False
  | first :: rest =>
      first.Holds comparer row ∨ AnyHolds comparer row rest

end

theorem allHold_iff
    {comparer : Comparer}
    {row : Row}
    {conditions : List Condition} :
    AllHold comparer row conditions ↔ ∀ condition ∈ conditions, condition.Holds comparer row := by
  induction conditions with
  | nil => simp [AllHold]
  | cons first rest inductionHypothesis => simp [AllHold, inductionHypothesis]

theorem anyHolds_iff
    {comparer : Comparer}
    {row : Row}
    {conditions : List Condition} :
    AnyHolds comparer row conditions ↔ ∃ condition ∈ conditions, condition.Holds comparer row := by
  induction conditions with
  | nil => simp [AnyHolds]
  | cons first rest inductionHypothesis => simp [AnyHolds, inductionHypothesis]

end Condition

/-! ## Query documents -/

/-- A requirement on one field of a row. -/
inductive FieldTest
  | equal (operand : Scalar)
  | notEqual (operand : Scalar)
  | less (operand : Scalar)
  | atMost (operand : Scalar)
  | greater (operand : Scalar)
  | atLeast (operand : Scalar)
  | within (operands : List Scalar)
  | notWithin (operands : List Scalar)
  | regex (expression : String)
  | not (tests : List FieldTest)

namespace FieldTest

/-- The test that an operator key makes of a scalar. -/
def ofScalar? (key : String) (operand : Scalar) : Option FieldTest :=
  if key = "$ne" then
    some (.notEqual operand)
  else if key = "$lt" then
    some (.less operand)
  else if key = "$lte" then
    some (.atMost operand)
  else if key = "$gt" then
    some (.greater operand)
  else if key = "$gte" then
    some (.atLeast operand)
  else if key = "$regex" then
    match operand with
    | .string expression =>
        some (.regex expression)
    | _ =>
        none
  else
    none

/-- The test that an operator key makes of a list of scalars. -/
def ofScalars? (key : String) (operands : List Scalar) : Option FieldTest :=
  if key = "$in" then
    some (.within operands)
  else if key = "$nin" then
    some (.notWithin operands)
  else
    none

mutual

/-- The test that an operator key makes of its operand. -/
def ofOperator? (key : String) : Json → Option FieldTest
  | .object members =>
      if key = "$not" then (ofOperators? members).map .not else none
  | .array elements =>
      (elements.mapM Scalar.ofJson?).bind (ofScalars? key)
  | operand =>
      (Scalar.ofJson? operand).bind (ofScalar? key)

/-- The tests of an object of operators, which has at least one. -/
def ofOperators? : Members → Option (List FieldTest)
  | [] =>
      none
  | [(key, operand)] =>
      (ofOperator? key operand).map ([·])
  | (key, operand) :: rest => do
      let first ← ofOperator? key operand
      let others ← ofOperators? rest
      some (first :: others)

end

/-- The tests that a field stands over: operators, or a scalar that it equals. -/
def ofRequirement? : Json → Option (List FieldTest)
  | .object members =>
      ofOperators? members
  | value =>
      (Scalar.ofJson? value).map fun operand => [.equal operand]

mutual

/-- A test holds of a field. Without a value only the negative tests do. -/
def Holds (comparer : Comparer) (field : Option Scalar) : FieldTest → Prop
  | .equal operand =>
      ∃ value, field = some value ∧ comparer.equal value operand
  | .notEqual operand =>
      ¬∃ value, field = some value ∧ comparer.equal value operand
  | .less operand =>
      ∃ value, field = some value ∧ comparer.less value operand
  | .atMost operand =>
      ∃ value, field = some value ∧ comparer.atMost value operand
  | .greater operand =>
      ∃ value, field = some value ∧ comparer.less operand value
  | .atLeast operand =>
      ∃ value, field = some value ∧ comparer.atMost operand value
  | .within operands =>
      ∃ value, field = some value ∧ ∃ operand ∈ operands, comparer.equal value operand
  | .notWithin operands =>
      ¬∃ value, field = some value ∧ ∃ operand ∈ operands, comparer.equal value operand
  | .regex expression =>
      ∃ value, field = some value ∧ comparer.matchesRegex expression value
  | .not tests =>
      ¬AllHold comparer field tests

/-- All tests hold of a field. -/
def AllHold (comparer : Comparer) (field : Option Scalar) : List FieldTest → Prop
  | [] =>
      True
  | first :: rest =>
      first.Holds comparer field ∧ AllHold comparer field rest

end

end FieldTest

/-- A query on rows. -/
inductive Query
  | all (queries : List Query)
  | any (queries : List Query)
  | field (name : String) (tests : List FieldTest)

namespace Query

/-- The key of an operator, which no field can have. -/
def IsOperatorKey (key : String) : Prop :=
  key.toList.head? = some '$'

instance (key : String) : Decidable (IsOperatorKey key) := by
  unfold IsOperatorKey
  infer_instance

mutual

/-- The query of one member of a query document: a group, or the requirement on a field. -/
def ofMember? (key : String) : Json → Option Query
  | .array elements =>
      if key = "$and" then
        (ofEach? elements).map .all
      else if key = "$or" then
        (ofEach? elements).map .any
      else
        none
  | requirement =>
      if IsOperatorKey key then none else (FieldTest.ofRequirement? requirement).map (.field key)

/-- The queries of the members of a query document. -/
def ofMembers? : Members → Option (List Query)
  | [] =>
      some []
  | (key, value) :: rest => do
      let first ← ofMember? key value
      let others ← ofMembers? rest
      some (first :: others)

/-- The queries of the query documents in an array. -/
def ofEach? : List Json → Option (List Query)
  | [] =>
      some []
  | .object members :: rest => do
      let first ← ofMembers? members
      let others ← ofEach? rest
      some (.all first :: others)
  | _ :: _ =>
      none

end

/-- The query of a query document, whose members have to hold together; none when it is not well formed. -/
def ofDocument? : Json → Option Query
  | .object members =>
      (ofMembers? members).map .all
  | _ =>
      none

mutual

/-- A query selects a row. -/
def Selects (comparer : Comparer) (row : Row) : Query → Prop
  | .all queries =>
      AllSelect comparer row queries
  | .any queries =>
      AnySelects comparer row queries
  | .field name tests =>
      FieldTest.AllHold comparer (row name) tests

/-- All queries select a row. -/
def AllSelect (comparer : Comparer) (row : Row) : List Query → Prop
  | [] =>
      True
  | first :: rest =>
      first.Selects comparer row ∧ AllSelect comparer row rest

/-- Some query selects a row. -/
def AnySelects (comparer : Comparer) (row : Row) : List Query → Prop
  | [] =>
      False
  | first :: rest =>
      first.Selects comparer row ∨ AnySelects comparer row rest

end

end Query
end QueryFilter
