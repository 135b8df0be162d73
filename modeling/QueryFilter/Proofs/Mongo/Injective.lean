import Mathlib.Data.List.Basic
import QueryFilter.Proofs.Condition.WellFormed
import QueryFilter.Proofs.Json.Members
import QueryFilter.Proofs.Mongo.Selection

/-!
# Query documents determine their conditions

The document of a condition keeps everything: which groups there are and of which connective, also around a
single child, the names of properties even when they look like operators, patterns behind their expressions,
and the kinds that lists are tagged with. What a document stands over tells a group, which has an array,
from a leaf, which has tests; the tests of a leaf determine its operator and its operands.
-/

namespace QueryFilter

theorem Json.single_inj
    {leftName rightName : String}
    {left right : Json} :
    Json.single leftName left = Json.single rightName right ↔ leftName = rightName ∧ left = right := by
  simp [Json.single]

/-! ## Expressions of patterns -/

namespace Pattern

/-- The pattern that an expression was written for, read between its anchors. -/
def ofRegexChars : List Char → List Char
  | [] =>
      []
  | '.' :: '*' :: rest =>
      '%' :: ofRegexChars rest
  | '.' :: rest =>
      '_' :: ofRegexChars rest
  | '\\' :: char :: rest =>
      char :: ofRegexChars rest
  | char :: rest =>
      char :: ofRegexChars rest

/-- No character is written with a star in front, so a star behind a point belongs to the point. -/
theorem head?_flatMap_charRegex_ne_star (pattern : List Char) :
    (pattern.flatMap charRegex).head? ≠ some '*' := by
  cases pattern with
  | nil => simp
  | cons char rest =>
      rw [List.flatMap_cons, charRegex]
      split_ifs with percent underscore special
      · simp
      · simp
      · simp
      · intro star
        obtain rfl : char = '*' := by simpa using star
        exact special (by decide)

theorem ofRegexChars_point
    {rest : List Char}
    (noStar : rest.head? ≠ some '*') :
    ofRegexChars ('.' :: rest) = '_' :: ofRegexChars rest := by
  rw [ofRegexChars]
  rintro later rfl
  exact noStar rfl

theorem ofRegexChars_ordinary
    {char : Char}
    {rest : List Char}
    (ordinary : ¬isSpecial char = true) :
    ofRegexChars (char :: rest) = char :: ofRegexChars rest := by
  rw [ofRegexChars]
  · rintro later rfl rfl
    exact ordinary (by decide)
  · rintro rfl
    exact ordinary (by decide)
  · rintro next later rfl rfl
    exact ordinary (by decide)

/-- The pattern is read back from the expression of its characters. -/
theorem ofRegexChars_flatMap_charRegex (pattern : List Char) :
    ofRegexChars (pattern.flatMap charRegex) = pattern := by
  induction pattern with
  | nil => rfl
  | cons char rest inductionHypothesis =>
      rw [List.flatMap_cons, charRegex]
      split_ifs with percent underscore special
      · rw [percent]
        exact congrArg ('%' :: ·) inductionHypothesis
      · -- A bare point would be read together with a star behind it.
        rw [underscore]
        show ofRegexChars ('.' :: rest.flatMap charRegex) = _
        rw [ofRegexChars_point (head?_flatMap_charRegex_ne_star rest), inductionHypothesis]
      · exact congrArg (char :: ·) inductionHypothesis
      · show ofRegexChars (char :: rest.flatMap charRegex) = _
        rw [ofRegexChars_ordinary special, inductionHypothesis]

theorem regexChars_injective : Function.Injective regexChars := by
  intro left right equal
  have inner : left.flatMap charRegex = right.flatMap charRegex := by
    simpa [regexChars] using equal
  have readBack := congrArg ofRegexChars inner
  rwa [ofRegexChars_flatMap_charRegex, ofRegexChars_flatMap_charRegex] at readBack

/-- Patterns that are strings are equal when their expressions are. -/
theorem eq_of_regex_eq
    {left right : Scalar}
    (leftString : left.kind = .string)
    (rightString : right.kind = .string)
    (equal : regex left = regex right) :
    left = right := by
  obtain ⟨leftText, rfl⟩ := Scalar.exists_eq_string leftString
  obtain ⟨rightText, rfl⟩ := Scalar.exists_eq_string rightString
  have chars := regexChars_injective (String.ofList_injective equal)
  rw [String.toList_inj.1 chars]

end Pattern

/-! ## Tests of leaves -/

/-- The operator and the operand of a typed comparison are what its tests say. -/
theorem Comparison.eq_of_tests_eq
    {left right : Comparison}
    (leftTyped : left.IsTyped)
    (rightTyped : right.IsTyped)
    (property : left.property = right.property)
    (tests : left.tests = right.tests) :
    left = right := by
  obtain ⟨name, leftOp, leftValue⟩ := left
  obtain ⟨_, rightOp, rightValue⟩ := right
  obtain rfl := property
  have same : leftOp = rightOp ∧ leftValue = rightValue := by
    cases leftOp <;> cases rightOp <;>
      simp only [Comparison.tests, List.cons.injEq, reduceCtorEq, and_true, FieldTest.equal.injEq,
        FieldTest.notEqual.injEq, FieldTest.less.injEq, FieldTest.atMost.injEq, FieldTest.greater.injEq,
        FieldTest.atLeast.injEq, FieldTest.regex.injEq, FieldTest.not.injEq] at tests
    case like.like => exact ⟨rfl, Pattern.eq_of_regex_eq (leftTyped rfl) (rightTyped rfl) tests⟩
    case notLike.notLike => exact ⟨rfl, Pattern.eq_of_regex_eq (leftTyped rfl) (rightTyped rfl) tests⟩
    all_goals exact ⟨rfl, tests⟩
  obtain ⟨rfl, rfl⟩ := same
  rfl

/-- The tag of a typed list is the kind of its values, so the tests of a membership test determine it. -/
theorem Membership.eq_of_tests_eq
    {left right : Membership}
    (leftTyped : left.IsTyped)
    (rightTyped : right.IsTyped)
    (property : left.property = right.property)
    (tests : left.tests = right.tests) :
    left = right := by
  obtain ⟨name, leftOp, leftKind, leftValues⟩ := left
  obtain ⟨_, rightOp, rightKind, rightValues⟩ := right
  obtain rfl := property
  have same : leftOp = rightOp ∧ leftValues = rightValues := by
    cases leftOp <;> cases rightOp <;>
      simp only [Membership.tests, List.cons.injEq, reduceCtorEq, and_true, FieldTest.within.injEq,
        FieldTest.notWithin.injEq] at tests
    all_goals exact ⟨rfl, tests⟩
  obtain ⟨rfl, rfl⟩ := same
  obtain ⟨first, listed⟩ := List.exists_mem_of_ne_nil leftValues leftTyped.1
  have kinds : leftKind = rightKind := (leftTyped.2 first listed).symm.trans (rightTyped.2 first listed)
  rw [kinds]

theorem Comparison.tests_ne_tests
    (comparison : Comparison)
    (membership : Membership) :
    comparison.tests ≠ membership.tests := by
  obtain ⟨property, op, value⟩ := comparison
  obtain ⟨name, memberOp, datatype, values⟩ := membership
  cases op <;> cases memberOp <;> simp [tests, Membership.tests]

namespace Condition

/-- The tests that a leaf asks of its field; a group asks none. -/
def tests? : Condition → Option (List FieldTest)
  | .group _ _ =>
      none
  | .compare comparison =>
      some comparison.tests
  | .member membership =>
      some membership.tests

/-- The key of the document of a condition. -/
def mongoKey : Condition → String
  | .group connective _ =>
      connective.mongoKey
  | .compare comparison =>
      comparison.property
  | .member membership =>
      membership.property

/-- A document has one key, over what is read as the tests of a leaf or as no requirement at all. -/
theorem exists_mongo_eq_single (tree : Condition) :
    ∃ body, tree.mongo = .single tree.mongoKey body ∧ FieldTest.ofRequirement? body = tree.tests? := by
  cases tree with
  | group connective children =>
      refine ⟨.array (mongoEach children), ?_, rfl⟩
      rw [mongo, mongoKey]
  | compare comparison =>
      refine ⟨comparison.requirement, ?_, comparison.ofRequirement?_requirement⟩
      rw [mongo, mongoKey, Comparison.mongo]
  | member membership =>
      refine ⟨_, ?_, membership.ofRequirement?_requirement⟩
      rw [mongo, mongoKey, Membership.mongo]

/-- Conditions with the same document have the same key and ask the same tests. -/
theorem mongoKey_eq_and_tests?_eq
    {left right : Condition}
    (equal : left.mongo = right.mongo) :
    left.mongoKey = right.mongoKey ∧ left.tests? = right.tests? := by
  obtain ⟨leftBody, leftEqual, leftRead⟩ := left.exists_mongo_eq_single
  obtain ⟨rightBody, rightEqual, rightRead⟩ := right.exists_mongo_eq_single
  rw [leftEqual, rightEqual, Json.single_inj] at equal
  obtain ⟨keys, rfl⟩ := equal
  exact ⟨keys, leftRead.symm.trans rightRead⟩

end Condition

/-! ## Trees and filters -/

theorem Connective.mongoKey_injective : Function.Injective Connective.mongoKey := by
  intro left right equal
  cases left <;> cases right <;> first | rfl | exact absurd equal (by decide)

/-- Typed conditions with the same document are the same. -/
theorem Condition.eq_of_mongo_eq
    {left right : Condition}
    (leftTyped : left.IsTyped)
    (rightTyped : right.IsTyped)
    (equal : left.mongo = right.mongo) :
    left = right := by
  -- By the groups of the one tree; the tests tell whether the other has a group or a leaf in the same place.
  induction left using Condition.groupInduction generalizing right with
  | group connective children inductionHypothesis =>
      obtain ⟨keys, tests⟩ := mongoKey_eq_and_tests?_eq equal
      cases right with
      | group other others =>
          obtain rfl := Connective.mongoKey_injective keys
          rw [mongo, mongo, Json.single_inj, Json.array.injEq, mongoEach_eq_map, mongoEach_eq_map] at equal
          rw [isTyped_group_iff] at leftTyped rightTyped
          have sameChildren : children = others := by
            refine eq_of_map_eq_map ?_ equal.2
            intro child listed second secondListed
            exact inductionHypothesis child listed (leftTyped child listed) (rightTyped second secondListed)
          rw [sameChildren]
      | compare comparison => cases tests
      | member membership => cases tests
  | compare comparison =>
      obtain ⟨keys, tests⟩ := mongoKey_eq_and_tests?_eq equal
      cases right with
      | group other others => cases tests
      | compare second =>
          rw [isTyped_compare_iff] at leftTyped rightTyped
          rw [Comparison.eq_of_tests_eq leftTyped rightTyped keys (Option.some.inj tests)]
      | member membership => exact absurd (Option.some.inj tests) (comparison.tests_ne_tests membership)
  | member membership =>
      obtain ⟨keys, tests⟩ := mongoKey_eq_and_tests?_eq equal
      cases right with
      | group other others => cases tests
      | compare comparison =>
          exact absurd (Option.some.inj tests).symm (comparison.tests_ne_tests membership)
      | member second =>
          rw [isTyped_member_iff] at leftTyped rightTyped
          rw [Membership.eq_of_tests_eq leftTyped rightTyped keys (Option.some.inj tests)]

theorem Json.ofUInt64_injective : Function.Injective Json.ofUInt64 := by
  intro left right equal
  rw [Json.ofUInt64, Json.ofUInt64, Json.number.injEq, Number.ofUInt64, Number.ofUInt64,
    Number.integer.injEq] at equal
  exact UInt64.toNat_inj.1 (Int.ofNat_inj.1 equal)

namespace Filter

/-- The document of a filter is an object that holds what is set of the condition and of the counts. -/
theorem exists_mongo_eq_object (filter : Filter) :
    ∃ members : Members, filter.mongo = .object members ∧
      members.get? "filter" = filter.condition.map Condition.mongo ∧
        members.get? "limit" = filter.limit.map Json.ofUInt64 ∧
          members.get? "skip" = filter.skip.map Json.ofUInt64 := by
  refine ⟨_, rfl, ?_, ?_, ?_⟩ <;> simp [Members.get?_append, Members.get?_optional_of_ne]

/-- Filters with typed conditions and the same document agree on all but the order. -/
theorem eq_of_mongo_eq
    {left right : Filter}
    (leftTyped : ∀ tree ∈ left.condition, tree.IsTyped)
    (rightTyped : ∀ tree ∈ right.condition, tree.IsTyped)
    (equal : left.mongo = right.mongo) :
    left.condition = right.condition ∧ left.limit = right.limit ∧ left.skip = right.skip := by
  obtain ⟨leftMembers, leftObject, leftCondition, leftLimit, leftSkip⟩ := left.exists_mongo_eq_object
  obtain ⟨rightMembers, rightObject, rightCondition, rightLimit, rightSkip⟩ :=
    right.exists_mongo_eq_object
  rw [leftObject, rightObject, Json.object.injEq] at equal
  subst equal
  refine ⟨?_, ?_, ?_⟩
  · have documents := leftCondition.symm.trans rightCondition
    cases leftSet : left.condition with
    | none =>
        rw [leftSet, Option.map_none, eq_comm, Option.map_eq_none_iff] at documents
        exact documents.symm
    | some tree =>
        rw [leftSet, Option.map_some, eq_comm, Option.map_eq_some_iff] at documents
        obtain ⟨other, rightSet, sameDocument⟩ := documents
        rw [rightSet, Condition.eq_of_mongo_eq (leftTyped tree leftSet) (rightTyped other rightSet)
          sameDocument.symm]
  · exact Option.map_injective Json.ofUInt64_injective (leftLimit.symm.trans rightLimit)
  · exact Option.map_injective Json.ofUInt64_injective (leftSkip.symm.trans rightSkip)

end Filter

/--
Typed conditions with the same query document are the same condition. So filters with typed conditions and
the same document have the same condition and the same counts.
-/
theorem mongo_injective :
    (∀ left right : Condition, left.IsTyped → right.IsTyped → left.mongo = right.mongo → left = right) ∧
      ∀ left right : Filter,
        (∀ tree ∈ left.condition, tree.IsTyped) → (∀ tree ∈ right.condition, tree.IsTyped) →
          left.mongo = right.mongo →
            left.condition = right.condition ∧ left.limit = right.limit ∧ left.skip = right.skip := by
  constructor
  · intro left right leftTyped rightTyped equal
    exact Condition.eq_of_mongo_eq leftTyped rightTyped equal
  · intro left right leftTyped rightTyped equal
    exact Filter.eq_of_mongo_eq leftTyped rightTyped equal

/-- Names that look like operators, a pattern that looks like an expression, and an empty group. -/
def Condition.lookalikeSample (connective : Connective) : Condition :=
  .group connective
    [.group .or [],
      .eq "$and" (.string "$or"),
      .like "$regex" "^50%_.*\\$",
      .member { property := "$or", op := .notWithin, datatype := .boolean, values := [.boolean true] }]

theorem Condition.lookalikeSample_isTyped (connective : Connective) :
    (lookalikeSample connective).IsTyped := by
  rw [lookalikeSample, isTyped_group_iff]
  intro child listed
  simp only [List.mem_cons, List.not_mem_nil, or_false] at listed
  rcases listed with rfl | rfl | rfl | rfl
  · simp [isTyped_group_iff]
  · exact isTyped_compare_iff.2 (by decide)
  · exact isTyped_compare_iff.2 (by decide)
  · exact isTyped_member_iff.2 (by decide)

/-- The sample with a sort clause, which may leave its direction out. -/
def Filter.lookalikeSample (clause : String) : Filter where
  condition := some (.lookalikeSample .and)
  order := some { clauses := [clause] }
  limit := some 10
  skip := none

theorem mongo_injective_lookalikeSample :
    (Condition.lookalikeSample .and).IsTyped ∧ (Condition.lookalikeSample .or).IsTyped ∧
      (Condition.lookalikeSample .and).mongo ≠ (Condition.lookalikeSample .or).mongo ∧
        (Filter.lookalikeSample "x").mongo = (Filter.lookalikeSample "x asc").mongo ∧
          (Filter.lookalikeSample "x").condition = (Filter.lookalikeSample "x asc").condition := by
  have andTyped := Condition.lookalikeSample_isTyped .and
  have orTyped := Condition.lookalikeSample_isTyped .or
  obtain ⟨onTrees, onFilters⟩ := mongo_injective
  have isSet : ∀ clause, ∀ tree ∈ (Filter.lookalikeSample clause).condition, tree.IsTyped := by
    intro clause tree isSet
    obtain rfl := Option.some.inj isSet
    exact andTyped
  have sameDocument : (Filter.lookalikeSample "x").mongo = (Filter.lookalikeSample "x asc").mongo := by
    rfl
  refine ⟨andTyped, orTyped, ?_, sameDocument, (onFilters _ _ (isSet _) (isSet _) sameDocument).1⟩
  intro equal
  have trees := onTrees _ _ andTyped orTyped equal
  cases trees

end QueryFilter
