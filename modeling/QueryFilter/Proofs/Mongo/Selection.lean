import Mathlib.Data.List.Basic
import QueryFilter.Proofs.Elements
import QueryFilter.Proofs.Mongo.Query

/-!
# Query documents select what their conditions hold of

The document of a condition is well formed, and the query that is read from it selects exactly the rows of
which the condition holds.
-/

namespace QueryFilter

namespace Comparison

/-- The tests that the document of a comparison asks of its field. -/
def tests (comparison : Comparison) : List FieldTest :=
  match comparison.op with
  | .eq =>
      [.equal comparison.value]
  | .neq =>
      [.notEqual comparison.value]
  | .lt =>
      [.less comparison.value]
  | .lte =>
      [.atMost comparison.value]
  | .gt =>
      [.greater comparison.value]
  | .gte =>
      [.atLeast comparison.value]
  | .like =>
      [.regex (Pattern.regex comparison.value)]
  | .notLike =>
      [.not [.regex (Pattern.regex comparison.value)]]

end Comparison

namespace Membership

/-- The tests that the document of a membership test asks of its field. -/
def tests (membership : Membership) : List FieldTest :=
  match membership.op with
  | .within =>
      [.within membership.values]
  | .notWithin =>
      [.notWithin membership.values]

end Membership

namespace Condition

mutual

/-- The query that the document of a condition asks. -/
def query : Condition → Query
  | .group .and children =>
      .all [.all (queryEach children)]
  | .group .or children =>
      .all [.any (queryEach children)]
  | .compare comparison =>
      .all [.field comparison.property comparison.tests]
  | .member membership =>
      .all [.field membership.property membership.tests]

/-- The queries of conditions in a row. -/
def queryEach : List Condition → List Query
  | [] =>
      []
  | first :: rest =>
      first.query :: queryEach rest

end

theorem queryEach_eq_map (conditions : List Condition) : queryEach conditions = conditions.map query := by
  induction conditions with
  | nil => rfl
  | cons first rest inductionHypothesis => simp [queryEach, inductionHypothesis]

end Condition

/-! ## Documents are well formed -/

namespace FieldTest

/-- The value of a scalar is read by the scalar. -/
theorem ofOperator?_toJson
    (key : String)
    (operand : Scalar) :
    ofOperator? key operand.toJson = ofScalar? key operand := by
  cases operand <;> rfl

theorem ofRequirement?_toJson (operand : Scalar) : ofRequirement? operand.toJson = some [.equal operand] := by
  cases operand <;> rfl

theorem ofRequirement?_single
    (key : String)
    (operand : Json) :
    ofRequirement? (.single key operand) = (ofOperator? key operand).map ([·]) := rfl

end FieldTest

theorem Comparison.ofRequirement?_requirement (comparison : Comparison) :
    FieldTest.ofRequirement? comparison.requirement = some comparison.tests := by
  obtain ⟨property, op, value⟩ := comparison
  cases op with
  | eq => exact FieldTest.ofRequirement?_toJson value
  | like => rfl
  | notLike => rfl
  | _ =>
      simp only [requirement, FieldTest.ofRequirement?_single, FieldTest.ofOperator?_toJson]
      rfl

theorem Membership.ofRequirement?_requirement (membership : Membership) :
    FieldTest.ofRequirement?
        (.single membership.op.mongoKey (.array (membership.values.map Scalar.toJson))) =
      some membership.tests := by
  obtain ⟨property, op, datatype, values⟩ := membership
  rw [FieldTest.ofRequirement?_single, FieldTest.ofOperator?, Scalar.mapM_ofJson?_map_toJson]
  cases op <;> rfl

namespace Query

/-- A key that is no operator stands for the field of its name. -/
theorem ofDocument?_field
    {key : String}
    {requirement : Json}
    {tests : List FieldTest}
    (plain : ¬IsOperatorKey key)
    (read : FieldTest.ofRequirement? requirement = some tests) :
    ofDocument? (.single key requirement) = some (.all [.field key tests]) := by
  have member : ofMember? key requirement = some (.field key tests) := by
    cases requirement with
    | array elements => simp [FieldTest.ofRequirement?, Scalar.ofJson?] at read
    | _ => rw [ofMember?, if_neg plain, read] <;> simp
  simp [ofDocument?, Json.single, ofMembers?, member]

theorem ofEach?_eq_mapM (documents : List Json) : ofEach? documents = documents.mapM ofDocument? := by
  induction documents with
  | nil => rfl
  | cons first rest inductionHypothesis =>
      cases first with
      | object members =>
          rw [ofEach?, List.mapM_cons, inductionHypothesis, ofDocument?]
          cases ofMembers? members <;> rfl
      | _ => rfl

/-- The document of a connective stands for the group of what its elements stand for. -/
theorem ofDocument?_connective
    {connective : Connective}
    {documents : List Json}
    {queries : List Query}
    (read : documents.mapM ofDocument? = some queries) :
    ofDocument? (.single connective.mongoKey (.array documents)) =
      match connective with
      | .and => some (.all [.all queries])
      | .or => some (.all [.any queries]) := by
  rw [← ofEach?_eq_mapM] at read
  cases connective <;> simp [ofDocument?, Json.single, ofMembers?, ofMember?, Connective.mongoKey, read]

end Query

/-- The document of a condition is read as its query when no property has the key of an operator. -/
theorem Condition.ofDocument?_mongo
    {tree : Condition}
    (plain : ∀ name ∈ tree.properties, ¬Query.IsOperatorKey name) :
    Query.ofDocument? tree.mongo = some tree.query := by
  induction tree using Condition.groupInduction with
  | group connective children each =>
      have childrenRead : (children.map mongo).mapM Query.ofDocument? = some (children.map query) := by
        apply mapM_map_eq_some
        intro child member
        apply each child member
        intro name mentioned
        exact plain name (mem_properties_group_iff.2 ⟨child, member, mentioned⟩)
      rw [mongo, mongoEach_eq_map, Query.ofDocument?_connective childrenRead]
      cases connective <;> rw [query, queryEach_eq_map]
  | compare comparison =>
      have named := plain comparison.property (by simp [properties])
      exact Query.ofDocument?_field named comparison.ofRequirement?_requirement
  | member membership =>
      have named := plain membership.property (by simp [properties])
      exact Query.ofDocument?_field named membership.ofRequirement?_requirement

/-! ## Queries select -/

namespace Query

theorem allSelect_iff
    {comparer : Comparer}
    {row : Row}
    {queries : List Query} :
    AllSelect comparer row queries ↔ ∀ query ∈ queries, query.Selects comparer row := by
  induction queries with
  | nil => simp [AllSelect]
  | cons first rest inductionHypothesis => simp [AllSelect, inductionHypothesis]

theorem anySelects_iff
    {comparer : Comparer}
    {row : Row}
    {queries : List Query} :
    AnySelects comparer row queries ↔ ∃ query ∈ queries, query.Selects comparer row := by
  induction queries with
  | nil => simp [AnySelects]
  | cons first rest inductionHypothesis => simp [AnySelects, inductionHypothesis]

theorem selects_all_singleton_iff
    {comparer : Comparer}
    {row : Row}
    {query : Query} :
    (all [query]).Selects comparer row ↔ query.Selects comparer row := by
  simp [Selects, AllSelect]

theorem selects_field_iff
    {comparer : Comparer}
    {row : Row}
    {name : String}
    {tests : List FieldTest} :
    (all [field name tests]).Selects comparer row ↔ FieldTest.AllHold comparer (row name) tests := by
  rw [selects_all_singleton_iff, Selects]

end Query

/-- On a field with a value the tests of a comparison ask what the comparison asks. -/
theorem Comparison.allHold_tests_iff
    {comparer : Comparer}
    {comparison : Comparison}
    {field : Scalar} :
    FieldTest.AllHold comparer (some field) comparison.tests ↔ comparison.Accepts comparer field := by
  obtain ⟨property, op, value⟩ := comparison
  cases op <;> simp [tests, FieldTest.AllHold, FieldTest.Holds, Accepts]

theorem Membership.allHold_tests_iff
    {comparer : Comparer}
    {membership : Membership}
    {field : Scalar} :
    FieldTest.AllHold comparer (some field) membership.tests ↔ membership.Accepts comparer field := by
  obtain ⟨property, op, datatype, values⟩ := membership
  cases op <;> simp [tests, FieldTest.AllHold, FieldTest.Holds, Accepts]

/-- A row with a value in every field that a condition mentions is selected when the condition holds of it. -/
theorem Condition.selects_query_iff
    {comparer : Comparer}
    {row : Row}
    {tree : Condition}
    (given : ∀ name ∈ tree.properties, (row name).isSome) :
    tree.query.Selects comparer row ↔ tree.Holds comparer row := by
  induction tree using Condition.groupInduction with
  | group connective children each =>
      have childIff : ∀ child ∈ children, (child.query.Selects comparer row ↔ child.Holds comparer row) := by
        intro child member
        apply each child member
        intro name mentioned
        exact given name (mem_properties_group_iff.2 ⟨child, member, mentioned⟩)
      cases connective with
      | and =>
          rw [query, queryEach_eq_map, Query.selects_all_singleton_iff, Query.Selects,
            Query.allSelect_iff, List.forall_mem_map, Holds, allHold_iff]
          exact forall₂_congr childIff
      | or =>
          rw [query, queryEach_eq_map, Query.selects_all_singleton_iff, Query.Selects,
            Query.anySelects_iff, Holds, anyHolds_iff]
          simp only [List.mem_map, exists_exists_and_eq_and]
          apply exists_congr
          intro child
          exact and_congr_right (childIff child)
  | compare comparison =>
      obtain ⟨field, found⟩ := Option.isSome_iff_exists.1 (given comparison.property (by simp [properties]))
      rw [query, Query.selects_field_iff, Holds, found, Comparison.allHold_tests_iff]
      simp
  | member membership =>
      obtain ⟨field, found⟩ := Option.isSome_iff_exists.1 (given membership.property (by simp [properties]))
      rw [query, Query.selects_field_iff, Holds, found, Membership.allHold_tests_iff]
      simp

/--
The document of a condition is a well-formed query, and whatever equality, order and regular expressions
are, it selects a row with a value in every mentioned field exactly when the condition holds of the row.
-/
theorem mongo_selects_iff_holds
    (tree : Condition)
    (plain : ∀ name ∈ tree.properties, ¬Query.IsOperatorKey name) :
    ∃ query, Query.ofDocument? tree.mongo = some query ∧
      ∀ (comparer : Comparer) (row : Row),
        (∀ name ∈ tree.properties, (row name).isSome) →
          (query.Selects comparer row ↔ tree.Holds comparer row) := by
  refine ⟨tree.query, tree.ofDocument?_mongo plain, ?_⟩
  intro comparer row given
  exact tree.selects_query_iff given

/-- Scalars equal themselves, integers have their order, and an expression matches the text it anchors. -/
def Comparer.literal : Comparer :=
  { equal := fun field operand => field = operand
    less := fun
      | .number (.integer left _), .number (.integer right _) => left < right
      | _, _ => False
    atMost := fun
      | .number (.integer left _), .number (.integer right _) => left ≤ right
      | _, _ => False
    matchesRegex := fun expression field => expression = "^" ++ field.text ++ "$" }

/-- A group in a group, over a pattern, a list and an inequality. -/
def Condition.nestedSample : Condition :=
  .group .and
    [.like "name" "astra",
      .group .or
        [.member
          { property := "role", op := .notWithin, datatype := .string, values := [.string "guest"] },
          .neq "active" (.boolean false)]]

/-- A row with a value in every field that the sample mentions. -/
def Row.sample : Row := fun name =>
  [("name", Scalar.string "astra"), ("role", .string "guest"), ("active", .boolean true)].lookup name

theorem mongo_selects_iff_holds_nestedSample :
    (∀ name ∈ Condition.nestedSample.properties, ¬Query.IsOperatorKey name) ∧
      (∀ name ∈ Condition.nestedSample.properties, (Row.sample name).isSome) ∧
        ∃ query, Query.ofDocument? Condition.nestedSample.mongo = some query ∧
          (query.Selects .literal .sample ↔ Condition.nestedSample.Holds .literal .sample) := by
  have plain : ∀ name ∈ Condition.nestedSample.properties, ¬Query.IsOperatorKey name := by decide
  have given : ∀ name ∈ Condition.nestedSample.properties, (Row.sample name).isSome := by decide
  obtain ⟨query, read, selects⟩ := mongo_selects_iff_holds Condition.nestedSample plain
  exact ⟨plain, given, query, read, selects .literal .sample given⟩

end QueryFilter
