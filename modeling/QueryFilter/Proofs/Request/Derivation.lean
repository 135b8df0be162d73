import QueryFilter.Proofs.Elements
import QueryFilter.Proofs.Request.Selection

/-!
# The grammar of conditions

The request grammar as a relation between values and the conditions that they derive, one rule for each form
of a condition. The reading of a request accepts a value exactly when it derives a condition, and then
yields that condition.
-/

namespace QueryFilter
namespace Request

/--
A value derives a condition. Every object of the grammar has exactly one key; a group lists its elements
together with the conditions that they derive.
-/
inductive Derives : Json → Condition → Prop
  /-- A connective over a nonempty array groups what the elements derive. -/
  | group {key : String} {connective : Connective} {derived : List (Json × Condition)} :
      Spells connectiveWords key connective →
      derived ≠ [] →
      (∀ pair ∈ derived, Derives pair.1 pair.2) →
      Derives (.object [(key, .array (derived.map Prod.fst))])
        (.group connective (derived.map Prod.snd))
  /-- A property over a scalar is an equality. -/
  | equality {name : String} {scalar : Scalar} :
      IsName name →
      Derives (.object [(name, scalar.toJson)]) (.compare { property := name, op := .eq, value := scalar })
  /-- A property over a comparison with any scalar. -/
  | comparison {name key : String} {op : ComparisonOp} {scalar : Scalar} :
      IsName name →
      Spells comparisonWords key op →
      Derives (.object [(name, .object [(key, scalar.toJson)])])
        (.compare { property := name, op, value := scalar })
  /-- A property over a comparison with a pattern, which is a string. -/
  | pattern {name key pattern : String} {op : ComparisonOp} :
      IsName name →
      Spells patternWords key op →
      Derives (.object [(name, .object [(key, .string pattern)])])
        (.compare { property := name, op, value := .string pattern })
  /-- A property over a membership test, which keeps the scalars that have the kind of the first one. -/
  | membership {name key : String} {op : MembershipOp} {elements : List Json} {first : Scalar}
      {values : List Scalar} :
      IsName name →
      Spells membershipWords key op →
      Scalar.IsFirst elements first →
      Scalar.AreOfKind first.kind elements values →
      Derives (.object [(name, .object [(key, .array elements)])])
        (.member { property := name, op, datatype := first.kind, values })

/-! ## What is read is derived -/

theorem derives_of_operation
    {name key : String}
    {operand : Json}
    {tree : Condition}
    (isName : IsName name)
    (read : operation name key operand = .ok tree) :
    Derives (.object [(name, .object [(key, operand)])]) tree := by
  by_cases isComparison : IsWordOf comparisonWords key
  · obtain ⟨op, spelled⟩ := isWordOf_iff_exists_spells.1 isComparison
    by_cases isScalar : ∃ scalar : Scalar, operand = scalar.toJson
    · obtain ⟨scalar, rfl⟩ := isScalar
      rw [operation_comparison spelled] at read
      obtain rfl := Except.ok.inj read
      exact .comparison isName spelled
    · rw [operation_comparison_of_not_scalar spelled (not_exists.1 isScalar)] at read
      cases read
  by_cases isPattern : IsWordOf patternWords key
  · obtain ⟨op, spelled⟩ := isWordOf_iff_exists_spells.1 isPattern
    by_cases isString : ∃ pattern, operand = .string pattern
    · obtain ⟨pattern, rfl⟩ := isString
      rw [operation_pattern spelled] at read
      obtain rfl := Except.ok.inj read
      exact .pattern isName spelled
    · rw [operation_pattern_of_not_string spelled (not_exists.1 isString)] at read
      cases read
  by_cases isMembership : IsWordOf membershipWords key
  · obtain ⟨op, spelled⟩ := isWordOf_iff_exists_spells.1 isMembership
    rw [operation_membership spelled] at read
    by_cases isArray : ∃ elements, operand = .array elements
    · obtain ⟨elements, rfl⟩ := isArray
      by_cases hasScalar : ∃ first, Scalar.IsFirst elements first
      · obtain ⟨first, isFirst⟩ := hasScalar
        have selected : Scalar.AreOfKind first.kind elements _ := Scalar.areOfKind_iff.2 rfl
        rw [membership_array_of_isFirst isFirst selected] at read
        obtain rfl := Except.ok.inj read
        exact .membership isName spelled isFirst selected
      · rw [membership_array_of_no_scalar (not_exists.1 hasScalar)] at read
        cases read
    · rw [membership_of_not_array (not_exists.1 isArray)] at read
      cases read
  · rw [operation_of_not_operator isComparison isPattern isMembership] at read
    cases read

theorem derives_of_property
    {name : String}
    {value : Json}
    {tree : Condition}
    (isName : IsName name)
    (read : property name value = .ok tree) :
    Derives (.object [(name, value)]) tree := by
  by_cases isScalar : ∃ scalar : Scalar, value = scalar.toJson
  · obtain ⟨scalar, rfl⟩ := isScalar
    rw [property_toJson] at read
    obtain rfl := Except.ok.inj read
    exact .equality isName
  by_cases isObject : ∃ members, value = .object members
  · obtain ⟨members, rfl⟩ := isObject
    by_cases single : ∃ key operand, members = [(key, operand)]
    · obtain ⟨key, operand, rfl⟩ := single
      exact derives_of_operation isName read
    · push Not at single
      rw [property_object_of_not_single single] at read
      cases read
  · rw [property_of_not_scalar (not_exists.1 isObject) (not_exists.1 isScalar)] at read
    cases read

theorem derives_of_statement
    {value : Json}
    {tree : Condition}
    (read : statement value = .ok tree) :
    Derives value tree := by
  induction value using Json.groupInduction generalizing tree with
  | group key elements each =>
      rcases key_cases key with ⟨connective, spelled⟩ | reserved | name
      · by_cases empty : elements = []
        · rw [empty, statement_connective_empty spelled] at read
          cases read
        · rw [statement_connective_array spelled empty, map_eq_ok_iff] at read
          obtain ⟨children, childrenRead, rfl⟩ := read
          obtain ⟨derived, rfl, rfl, pairRead⟩ := mapM_eq_ok_iff.1 childrenRead
          have nonempty : derived ≠ [] := by
            intro none
            apply empty
            rw [none]
            rfl
          refine .group spelled nonempty ?_
          intro pair member
          exact each pair.1 (List.mem_map_of_mem member) (pairRead pair member)
      · rw [statement_reserved reserved] at read
        cases read
      · rw [statement_name name] at read
        exact derives_of_property name read
  | other value shape =>
      by_cases single : ∃ key operand, value = .object [(key, operand)]
      · obtain ⟨key, operand, rfl⟩ := single
        rcases key_cases key with ⟨connective, spelled⟩ | reserved | name
        · have notArray : ∀ elements, operand ≠ .array elements := by
            rintro elements rfl
            exact shape key elements rfl
          rw [statement_connective_of_not_array spelled notArray] at read
          cases read
        · rw [statement_reserved reserved] at read
          cases read
        · rw [statement_name name] at read
          exact derives_of_property name read
      · push Not at single
        rw [statement_of_not_single single] at read
        cases read

/-! ## What is derived is read -/

theorem Derives.statement_eq
    {value : Json}
    {tree : Condition}
    (derives : Derives value tree) :
    statement value = .ok tree := by
  induction derives with
  | @group key connective derived spelled nonempty _ inductionHypothesis =>
      have elementsNonempty : derived.map Prod.fst ≠ [] := by simpa using nonempty
      rw [statement_connective_array spelled elementsNonempty, map_eq_ok_iff]
      exact ⟨derived.map Prod.snd, mapM_eq_ok_iff.2 ⟨derived, rfl, rfl, inductionHypothesis⟩, rfl⟩
  | equality isName =>
      rw [statement_name isName, property_toJson]
      rfl
  | comparison isName spelled =>
      rw [statement_name isName, property_single, operation_comparison spelled]
  | pattern isName spelled =>
      rw [statement_name isName, property_single, operation_pattern spelled]
  | membership isName spelled isFirst selected =>
      rw [statement_name isName, property_single, operation_membership spelled,
        membership_array_of_isFirst isFirst selected]

theorem statement_eq_ok_iff_derives
    {value : Json}
    {tree : Condition} :
    statement value = .ok tree ↔ Derives value tree := by
  constructor
  · intro read
    exact derives_of_statement read
  · intro derives
    exact derives.statement_eq

/-- A value is read as a condition exactly when it derives that condition. -/
theorem condition_eq_ok_iff_derives (value : Json) (tree : Condition) :
    condition value = .ok tree ↔ Derives value tree := by
  rw [← statement_eq_ok_iff_derives]
  cases value with
  | object members => rw [condition]
  | _ => simp [condition, statement]

end Request
end QueryFilter
