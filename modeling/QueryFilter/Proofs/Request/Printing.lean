import QueryFilter.Proofs.Request.WellFormed

/-!
# Conditions written as requests

Every condition is written in the grammar of requests in one way, with the words of the grammar in lower case.
What is written derives the condition when the condition is well formed and all its properties are names.
Requests state no other conditions, so these are all the conditions that requests can state.
-/

namespace QueryFilter

/-! ## The written request -/

namespace Connective

/-- The word of a connective in a request. -/
def requestWord : Connective → String
  | .and =>
      "and"
  | .or =>
      "or"

end Connective

namespace ComparisonOp

/-- The word of a comparison operator in a request; equality has none. -/
def requestWord? : ComparisonOp → Option String
  | .eq =>
      none
  | .neq =>
      some "neq"
  | .lt =>
      some "lt"
  | .lte =>
      some "lte"
  | .gt =>
      some "gt"
  | .gte =>
      some "gte"
  | .like =>
      some "like"
  | .notLike =>
      some "nlike"

end ComparisonOp

namespace MembershipOp

/-- The word of a membership operator in a request. -/
def requestWord : MembershipOp → String
  | .within =>
      "in"
  | .notWithin =>
      "nin"

end MembershipOp

namespace Comparison

/-- The request for a comparison: the property over the operand, or over the operator over the operand. -/
def toRequest (comparison : Comparison) : Json :=
  .single comparison.property
    (match comparison.op.requestWord? with
    | none => comparison.value.toJson
    | some word => .single word comparison.value.toJson)

end Comparison

namespace Membership

/-- The request for a membership test. -/
def toRequest (membership : Membership) : Json :=
  .single membership.property
    (.single membership.op.requestWord (.array (membership.values.map Scalar.toJson)))

end Membership

namespace Condition

mutual

/-- The request for a condition. -/
def toRequest : Condition → Json
  | .group connective children =>
      .single connective.requestWord (.array (toRequestEach children))
  | .compare comparison =>
      comparison.toRequest
  | .member membership =>
      membership.toRequest

/-- The requests for conditions in a row. -/
def toRequestEach : List Condition → List Json
  | [] =>
      []
  | first :: rest =>
      first.toRequest :: toRequestEach rest

end

theorem toRequestEach_eq_map (conditions : List Condition) :
    toRequestEach conditions = conditions.map toRequest := by
  induction conditions with
  | nil => rfl
  | cons first rest inductionHypothesis => simp [toRequestEach, inductionHypothesis]

end Condition

/-! ## What is written derives the condition -/

namespace Request

theorem derives_toRequest_compare
    {comparison : Comparison}
    (isTyped : comparison.IsTyped)
    (isName : IsName comparison.property) :
    Derives comparison.toRequest (.compare comparison) := by
  obtain ⟨property, op, value⟩ := comparison
  cases op with
  | eq => exact .equality isName
  | like =>
      obtain ⟨pattern, rfl⟩ := Scalar.exists_eq_string (isTyped rfl)
      exact .pattern isName (spells_of_mem (by decide))
  | notLike =>
      obtain ⟨pattern, rfl⟩ := Scalar.exists_eq_string (isTyped rfl)
      exact .pattern isName (spells_of_mem (by decide))
  | _ => exact .comparison isName (spells_of_mem (by decide))

/-- The listed scalars are all of the kind of the first one, so none of them is dropped. -/
theorem derives_toRequest_member
    {membership : Membership}
    (isTyped : membership.IsTyped)
    (isName : IsName membership.property) :
    Derives membership.toRequest (.member membership) := by
  obtain ⟨property, op, datatype, values⟩ := membership
  obtain ⟨nonempty, ofDatatype⟩ := isTyped
  have spelled : Spells membershipWords op.requestWord op := spells_of_mem (by cases op <;> decide)
  have scalars : (values.map Scalar.toJson).filterMap Scalar.ofJson? = values := by
    simp [List.filterMap_map]
  obtain ⟨first, rest, rfl⟩ := List.exists_cons_of_ne_nil nonempty
  obtain rfl : first.kind = datatype := ofDatatype first List.mem_cons_self
  have isFirst : Scalar.IsFirst ((first :: rest).map Scalar.toJson) first := by
    rw [Scalar.isFirst_iff, scalars, List.head?_cons]
  have selected : Scalar.AreOfKind first.kind ((first :: rest).map Scalar.toJson) (first :: rest) := by
    rw [Scalar.areOfKind_iff, scalars, List.filter_eq_self]
    intro value listed
    exact decide_eq_true (ofDatatype value listed)
  exact .membership isName spelled isFirst selected

/-- A well-formed condition over names is derived by its request, by the groups of the tree. -/
theorem derives_toRequest
    {tree : Condition}
    (wellFormed : tree.IsWellFormed)
    (names : ∀ name ∈ tree.properties, IsName name) :
    Derives tree.toRequest tree := by
  induction tree using Condition.groupInduction with
  | group connective children each =>
      obtain ⟨nonempty, childrenWellFormed⟩ := Condition.isWellFormed_group_iff.1 wellFormed
      have spelled : Spells connectiveWords connective.requestWord connective :=
        spells_of_mem (by cases connective <;> decide)
      have childDerives : ∀ child ∈ children, Derives child.toRequest child := by
        intro child listed
        apply each child listed (childrenWellFormed child listed)
        intro name mentioned
        exact names name (Condition.mem_properties_group_iff.2 ⟨child, listed, mentioned⟩)
      have pairDerives :
          ∀ pair ∈ children.map fun child => (child.toRequest, child), Derives pair.1 pair.2 := by
        simpa using childDerives
      have derives := Derives.group spelled (by simpa using nonempty) pairDerives
      rw [Condition.toRequest, Condition.toRequestEach_eq_map, Json.single]
      simpa [Function.comp_def] using derives
  | compare comparison =>
      rw [Condition.isWellFormed_compare_iff] at wellFormed
      exact derives_toRequest_compare wellFormed (names _ (by simp [Condition.properties]))
  | member membership =>
      rw [Condition.isWellFormed_member_iff] at wellFormed
      exact derives_toRequest_member wellFormed (names _ (by simp [Condition.properties]))

/-! ## What is derived is over names -/

/-- Every property of a condition that a request states is a name, rule by rule. -/
theorem Derives.isName_of_mem_properties
    {value : Json}
    {tree : Condition}
    (derives : Derives value tree) :
    ∀ name ∈ tree.properties, IsName name := by
  induction derives with
  | @group key connective derived spelled nonempty _ inductionHypothesis =>
      intro name mentioned
      obtain ⟨child, listed, mentionedByChild⟩ := Condition.mem_properties_group_iff.1 mentioned
      obtain ⟨pair, member, rfl⟩ := List.mem_map.1 listed
      exact inductionHypothesis pair member name mentionedByChild
  | equality isName =>
      exact List.forall_mem_singleton.2 isName
  | comparison isName spelled =>
      exact List.forall_mem_singleton.2 isName
  | pattern isName spelled =>
      exact List.forall_mem_singleton.2 isName
  | membership isName spelled isFirst selected =>
      exact List.forall_mem_singleton.2 isName

theorem exists_derives_iff
    {tree : Condition} :
    (∃ value, Derives value tree) ↔ tree.IsWellFormed ∧ ∀ name ∈ tree.properties, IsName name := by
  constructor
  · rintro ⟨value, derives⟩
    exact ⟨derives.isWellFormed, derives.isName_of_mem_properties⟩
  · rintro ⟨wellFormed, names⟩
    exact ⟨tree.toRequest, derives_toRequest wellFormed names⟩

/--
A condition is stated by some request exactly when it is well formed and none of its properties is a word of
the grammar, of which only the words of patterns can be names. The request that is written for it then states
it.
-/
theorem exists_condition_eq_ok_iff (tree : Condition) :
    ((∃ value, condition value = .ok tree) ↔
        tree.IsWellFormed ∧ ∀ name ∈ tree.properties, IsName name) ∧
      (condition tree.toRequest = .ok tree ↔
        tree.IsWellFormed ∧ ∀ name ∈ tree.properties, IsName name) := by
  simp only [condition_eq_ok_iff_statement, statement_eq_ok_iff_derives]
  refine ⟨exists_derives_iff, ?_⟩
  constructor
  · intro derives
    exact exists_derives_iff.1 ⟨tree.toRequest, derives⟩
  · rintro ⟨wellFormed, names⟩
    exact derives_toRequest wellFormed names

end Request

/-- Properties that are words in other places, below groups of one child and of several. -/
def Condition.namesakeSample : Condition :=
  .group .or
    [.group .or [.like "Like" "%"],
      .group .and
        [.eq "eq" (.boolean true),
          .lte "nlike" (.number (.ofUInt64 3)),
          .member
            { property := "and "
              op := .notWithin
              datatype := .string
              values := [.string "in", .string "in"] }]]

theorem Condition.namesakeSample_isWellFormed : namesakeSample.IsWellFormed := by
  refine isWellFormed_group_iff.2 ⟨by simp, ?_⟩
  intro child listed
  simp only [List.mem_cons, List.not_mem_nil, or_false] at listed
  rcases listed with rfl | rfl
  · refine isWellFormed_group_iff.2 ⟨by simp, ?_⟩
    exact List.forall_mem_singleton.2 (isWellFormed_compare_iff.2 (by decide))
  · refine isWellFormed_group_iff.2 ⟨by simp, ?_⟩
    intro leaf listed
    simp only [List.mem_cons, List.not_mem_nil, or_false] at listed
    rcases listed with rfl | rfl | rfl
    · exact isWellFormed_compare_iff.2 (by decide)
    · exact isWellFormed_compare_iff.2 (by decide)
    · exact isWellFormed_member_iff.2 (by decide)

namespace Request

theorem exists_condition_eq_ok_iff_namesakeSample :
    Condition.namesakeSample.IsWellFormed ∧
      (∀ name ∈ Condition.namesakeSample.properties, IsName name) ∧
        condition Condition.namesakeSample.toRequest = .ok .namesakeSample := by
  have wellFormed := Condition.namesakeSample_isWellFormed
  have names : ∀ name ∈ Condition.namesakeSample.properties, IsName name := by decide
  exact ⟨wellFormed, names, (exists_condition_eq_ok_iff .namesakeSample).2.2 ⟨wellFormed, names⟩⟩

end Request
end QueryFilter
