import QueryFilter.Proofs.Request.Spelling
import QueryFilter.Request.Grammar

/-!
# Steps of reading a condition

What the reading of a condition does at one object, one equation for each kind of key and operand. The keys
are told apart by what they spell, and the operands by being scalars, arrays or objects with one key. With
the induction over groups these equations carry every statement about the reading.
-/

namespace QueryFilter

/--
Induction over the groups of a request: what holds of a group of which it holds of all elements, and of
everything that has not the shape of a group, holds of every value.
-/
@[elab_as_elim]
theorem Json.groupInduction
    {motive : Json → Prop}
    (group : ∀ key elements,
      (∀ element ∈ elements, motive element) → motive (.object [(key, .array elements)]))
    (other : ∀ value,
      (∀ key elements, value ≠ .object [(key, .array elements)]) → motive value)
    (value : Json) :
    motive value := by
  by_cases shape : ∃ key elements, value = .object [(key, .array elements)]
  · obtain ⟨key, elements, rfl⟩ := shape
    exact group key elements fun element _ => groupInduction group other element
  · push Not at shape
    exact other value shape
termination_by sizeOf value
decreasing_by
  subst_vars
  have smaller := List.sizeOf_lt_of_mem ‹element ∈ elements›
  simp only [Json.object.sizeOf_spec, Json.array.sizeOf_spec, List.cons.sizeOf_spec, Prod.mk.sizeOf_spec]
  omega

namespace Request

/-! ## Keys -/

/-- Every key is a connective, reserved or the name of a property. -/
theorem key_cases (key : String) :
    (∃ connective, Spells connectiveWords key connective) ∨ IsReserved key ∨ IsName key := by
  rw [← isWordOf_iff_exists_spells]
  by_cases connective : IsWordOf connectiveWords key
  · exact Or.inl connective
  · by_cases reserved : IsReserved key
    · exact Or.inr (Or.inl reserved)
    · exact Or.inr (Or.inr ⟨connective, reserved⟩)

/-- What an object with one key states: under a connective a group, under any other key what the key names. -/
theorem statement_single
    (key : String)
    (value : Json) :
    statement (.object [(key, value)]) =
      match Keyword.ofKey? key with
      | some (.connective connective) =>
          match value with
          | .array [] =>
              .error (.emptyArray key)
          | .array (first :: rest) =>
              (statements (first :: rest)).map (.group connective)
          | _ =>
              .error (.notAnArray key)
      | keyword? =>
          named key keyword? value := by
  unfold statement
  rfl

theorem statement_connective_array
    {key : String}
    {connective : Connective}
    {elements : List Json}
    (spelled : Spells connectiveWords key connective)
    (nonempty : elements ≠ []) :
    statement (.object [(key, .array elements)]) =
      (elements.mapM statement).map (.group connective) := by
  cases elements with
  | nil => contradiction
  | cons first rest =>
      rw [statement_single, ofKey?_eq_connective_iff.2 spelled]
      simp only [statements_eq_mapM]

theorem statement_connective_empty
    {key : String}
    {connective : Connective}
    (spelled : Spells connectiveWords key connective) :
    statement (.object [(key, .array [])]) = .error (.emptyArray key) := by
  rw [statement_single, ofKey?_eq_connective_iff.2 spelled]

theorem statement_connective_of_not_array
    {key : String}
    {connective : Connective}
    {value : Json}
    (spelled : Spells connectiveWords key connective)
    (notArray : ∀ elements, value ≠ .array elements) :
    statement (.object [(key, value)]) = .error (.notAnArray key) := by
  rw [statement_single, ofKey?_eq_connective_iff.2 spelled]
  cases value <;> simp_all

theorem statement_reserved
    {key : String}
    {value : Json}
    (reserved : IsReserved key) :
    statement (.object [(key, value)]) = .error (.reservedKeyword key) := by
  rcases reserved with comparison | membership
  · obtain ⟨op, spelled⟩ := isWordOf_iff_exists_spells.1 comparison
    rw [statement_single, ofKey?_eq_comparison_iff.2 (Or.inl spelled)]
    simp [named, Keyword.isReserved, isPattern_eq_false_of_spells spelled]
  · obtain ⟨op, spelled⟩ := isWordOf_iff_exists_spells.1 membership
    rw [statement_single, ofKey?_eq_membership_iff.2 spelled]
    simp [named, Keyword.isReserved]

theorem statement_name
    {key : String}
    {value : Json}
    (name : IsName key) :
    statement (.object [(key, value)]) = property key value := by
  obtain ⟨notConnective, notReserved⟩ := name
  rw [IsReserved, not_or] at notReserved
  rw [isWordOf_iff_exists_spells] at notConnective
  rw [isWordOf_iff_exists_spells, isWordOf_iff_exists_spells] at notReserved
  rw [statement_single]
  cases found : Keyword.ofKey? key with
  | none => rfl
  | some keyword =>
      cases keyword with
      | connective connective =>
          exact absurd ⟨connective, ofKey?_eq_connective_iff.1 found⟩ notConnective
      | comparison op =>
          rcases ofKey?_eq_comparison_iff.1 found with comparison | pattern
          · exact absurd ⟨op, comparison⟩ notReserved.1
          · simp [named, Keyword.isReserved, isPattern_of_spells pattern]
      | membership op =>
          exact absurd ⟨op, ofKey?_eq_membership_iff.1 found⟩ notReserved.2

theorem statement_of_not_single
    {value : Json}
    (notSingle : ∀ key operand, value ≠ .object [(key, operand)]) :
    statement value = .error .notAnObject := by
  rw [statement]
  exact notSingle

/-- A request is read as the condition that it states as an object. -/
theorem condition_eq_ok_iff_statement
    {value : Json}
    {tree : Condition} :
    condition value = .ok tree ↔ statement value = .ok tree := by
  cases value with
  | object members => rw [condition]
  | _ => simp [condition, statement]

/-! ## Operands -/

@[simp] theorem property_toJson
    (name : String)
    (scalar : Scalar) :
    property name scalar.toJson = .ok (Condition.eq name scalar) := by
  cases scalar <;> rfl

@[simp] theorem property_single
    (name key : String)
    (operand : Json) :
    property name (.object [(key, operand)]) = operation name key operand := rfl

theorem property_object_of_not_single
    {name : String}
    {members : Members}
    (notSingle : ∀ key operand, members ≠ [(key, operand)]) :
    property name (.object members) = .error .notAnObject := by
  rw [property]
  exact notSingle

theorem property_of_not_scalar
    {name : String}
    {value : Json}
    (notObject : ∀ members, value ≠ .object members)
    (notScalar : ∀ scalar : Scalar, value ≠ scalar.toJson) :
    property name value = .error (.unsupportedType name) := by
  have unread := Scalar.ofJson?_eq_none_iff.2 notScalar
  cases value <;> simp_all [property]

/-- Under a key that spells a comparison, of either kind, the operand is compared. -/
theorem operation_of_spells
    (name : String)
    {key : String}
    {op : ComparisonOp}
    (operand : Json)
    (spelled : Spells comparisonWords key op ∨ Spells patternWords key op) :
    operation name key operand = comparison name op operand := by
  rw [operation, ofKey?_eq_comparison_iff.2 spelled]

theorem operation_comparison
    {name key : String}
    {op : ComparisonOp}
    {scalar : Scalar}
    (spelled : Spells comparisonWords key op) :
    operation name key scalar.toJson =
      .ok (.compare { property := name, op, value := scalar }) := by
  rw [operation_of_spells _ _ (Or.inl spelled)]
  simp [comparison, isPattern_eq_false_of_spells spelled]

theorem operation_comparison_of_not_scalar
    {name key : String}
    {op : ComparisonOp}
    {operand : Json}
    (spelled : Spells comparisonWords key op)
    (notScalar : ∀ scalar : Scalar, operand ≠ scalar.toJson) :
    operation name key operand = .error (.unsupportedType name) := by
  rw [operation_of_spells _ _ (Or.inl spelled)]
  simp [comparison, isPattern_eq_false_of_spells spelled, Scalar.ofJson?_eq_none_iff.2 notScalar]

theorem operation_pattern
    {name key pattern : String}
    {op : ComparisonOp}
    (spelled : Spells patternWords key op) :
    operation name key (.string pattern) =
      .ok (.compare { property := name, op, value := .string pattern }) := by
  rw [operation_of_spells _ _ (Or.inr spelled)]
  simp [comparison, isPattern_of_spells spelled]

theorem operation_pattern_of_not_string
    {name key : String}
    {op : ComparisonOp}
    {operand : Json}
    (spelled : Spells patternWords key op)
    (notString : ∀ pattern, operand ≠ .string pattern) :
    operation name key operand = .error (.unsupportedType name) := by
  rw [operation_of_spells _ _ (Or.inr spelled)]
  cases operand <;> simp_all [comparison, isPattern_of_spells spelled]

theorem operation_membership
    {name key : String}
    {op : MembershipOp}
    {operand : Json}
    (spelled : Spells membershipWords key op) :
    operation name key operand = membership name op operand := by
  rw [operation, ofKey?_eq_membership_iff.2 spelled]

theorem operation_of_not_operator
    {name key : String}
    {operand : Json}
    (notComparison : ¬IsWordOf comparisonWords key)
    (notPattern : ¬IsWordOf patternWords key)
    (notMembership : ¬IsWordOf membershipWords key) :
    operation name key operand = .error (.invalidKeyword key) := by
  rw [isWordOf_iff_exists_spells] at notComparison notPattern notMembership
  rw [operation]
  split
  next op found =>
    rcases ofKey?_eq_comparison_iff.1 found with comparison | pattern
    · exact absurd ⟨op, comparison⟩ notComparison
    · exact absurd ⟨op, pattern⟩ notPattern
  next op found => exact absurd ⟨op, ofKey?_eq_membership_iff.1 found⟩ notMembership
  next => rfl

end Request
end QueryFilter
