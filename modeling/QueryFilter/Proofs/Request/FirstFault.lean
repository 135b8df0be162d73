import QueryFilter.Proofs.Request.Selection

/-!
# The first fault of a condition

A validator that visits a whole value and lists all of its faults in the order in which they stand: a faulty
node contributes its own fault only, a sound group the faults of its elements one after another. The reading
of a request, which ends at a fault, reports exactly the first one of this list.
-/

namespace QueryFilter

/-- The value is a string, a number or a boolean. -/
def Json.isScalar : Json → Bool
  | .string _ | .number _ | .bool _ =>
      true
  | .null | .array _ | .object _ =>
      false

theorem Json.isScalar_iff
    {value : Json} :
    value.isScalar = true ↔ ∃ scalar : Scalar, value = scalar.toJson := by
  constructor
  · intro isScalar
    cases value with
    | string text => exact ⟨.string text, rfl⟩
    | number value => exact ⟨.number value, rfl⟩
    | bool value => exact ⟨.boolean value, rfl⟩
    | _ => cases isScalar
  · rintro ⟨scalar, rfl⟩
    cases scalar <;> rfl

/-- Among elements there is a scalar exactly when there is a first one. -/
theorem Json.any_isScalar_iff
    {elements : List Json} :
    elements.any Json.isScalar = true ↔ ∃ first, Scalar.IsFirst elements first := by
  constructor
  · intro anyScalar
    induction elements with
    | nil => simp at anyScalar
    | cons element rest inductionHypothesis =>
        by_cases isScalar : element.isScalar = true
        · obtain ⟨scalar, rfl⟩ := Json.isScalar_iff.1 isScalar
          exact ⟨scalar, .here⟩
        · have anyLater : rest.any Json.isScalar = true := by simpa [isScalar] using anyScalar
          obtain ⟨first, isFirst⟩ := inductionHypothesis anyLater
          rw [Json.isScalar_iff, not_exists] at isScalar
          exact ⟨first, .later isScalar isFirst⟩
  · rintro ⟨first, isFirst⟩
    induction isFirst with
    | @here scalar rest =>
        have isScalar := Json.isScalar_iff.2 ⟨scalar, rfl⟩
        simp [isScalar]
    | later _ _ inductionHypothesis => simp [inductionHypothesis]

namespace Request

/-- The faults of an operand under a key in the place of an operator. -/
def operatorFaults (name key : String) (operand : Json) : List Fault :=
  if IsWordOf comparisonWords key then
    if operand.isScalar then [] else [.unsupportedType name]
  else if IsWordOf patternWords key then
    match operand with
    | .string _ =>
        []
    | _ =>
        [.unsupportedType name]
  else if IsWordOf membershipWords key then
    match operand with
    | .array elements =>
        if elements.any Json.isScalar then [] else [.emptyArray name]
    | _ =>
        [.notAnArray name]
  else
    [.invalidKeyword key]

/-- The faults of what a property stands over. -/
def propertyFaults (name : String) : Json → List Fault
  | .object [(key, operand)] =>
      operatorFaults name key operand
  | .object _ =>
      [.notAnObject]
  | value =>
      if value.isScalar then [] else [.unsupportedType name]

/-- The faults of a key that is no connective, over what it stands. -/
def namedFaults (key : String) (value : Json) : List Fault :=
  if IsReserved key then [.reservedKeyword key] else propertyFaults key value

mutual

/-- All faults of a value in the place of a condition, from left to right. -/
def statementFaults : Json → List Fault
  | .object [(key, .array elements)] =>
      if IsWordOf connectiveWords key then
        if elements.isEmpty then [.emptyArray key] else eachFaults elements
      else
        namedFaults key (.array elements)
  | .object [(key, value)] =>
      if IsWordOf connectiveWords key then [.notAnArray key] else namedFaults key value
  | _ =>
      [.notAnObject]

/-- All faults of the elements of a group, element by element. -/
def eachFaults : List Json → List Fault
  | [] =>
      []
  | first :: rest =>
      statementFaults first ++ eachFaults rest

end

/-- All faults of a request for a condition. -/
def faults : Json → List Fault
  | .object members =>
      statementFaults (.object members)
  | _ =>
      [.invalidField .condition]

theorem eachFaults_eq_flatMap (elements : List Json) :
    eachFaults elements = elements.flatMap statementFaults := by
  induction elements with
  | nil => rfl
  | cons first rest inductionHypothesis => simp [eachFaults, inductionHypothesis]

/-- The fault of an outcome, if it is one. -/
def fault? : Except Fault α → Option Fault
  | .error fault =>
      some fault
  | .ok _ =>
      none

@[simp] theorem fault?_error (fault : Fault) : fault? (.error fault : Except Fault α) = some fault := rfl

@[simp] theorem fault?_ok (value : α) : fault? (.ok value) = none := rfl

theorem fault?_eq_some_iff
    {outcome : Except Fault α}
    {fault : Fault} :
    fault? outcome = some fault ↔ outcome = .error fault := by
  cases outcome <;> simp

@[simp] theorem fault?_map
    (outcome : Except Fault α)
    (f : α → β) :
    fault? (outcome.map f) = fault? outcome := by
  cases outcome <;> rfl

/-- Reading stops at the first of all faults when it does so at every single element. -/
theorem fault?_mapM
    {read : α → Except Fault β}
    {validate : α → List Fault}
    {inputs : List α}
    (each : ∀ input ∈ inputs, fault? (read input) = (validate input).head?) :
    fault? (inputs.mapM read) = (inputs.flatMap validate).head? := by
  induction inputs with
  | nil => rfl
  | cons first rest inductionHypothesis =>
      have head := each first List.mem_cons_self
      have tail : fault? (rest.mapM read) = (rest.flatMap validate).head? := by
        apply inductionHypothesis
        intro input member
        exact each input (List.mem_cons_of_mem first member)
      rw [List.mapM_cons, List.flatMap_cons, List.head?_append, ← head, ← tail]
      cases read first with
      | error fault => rfl
      | ok value => cases rest.mapM read <;> rfl

/-! ## The reading of each node against its faults -/

theorem fault?_operation
    (name key : String)
    (operand : Json) :
    fault? (operation name key operand) = (operatorFaults name key operand).head? := by
  unfold operatorFaults
  split_ifs with isComparison isScalar isPattern isMembership
  · obtain ⟨op, spelled⟩ := isWordOf_iff_exists_spells.1 isComparison
    obtain ⟨scalar, rfl⟩ := Json.isScalar_iff.1 isScalar
    rw [operation_comparison spelled]
    rfl
  · obtain ⟨op, spelled⟩ := isWordOf_iff_exists_spells.1 isComparison
    rw [Json.isScalar_iff, not_exists] at isScalar
    rw [operation_comparison_of_not_scalar spelled isScalar]
    rfl
  · obtain ⟨op, spelled⟩ := isWordOf_iff_exists_spells.1 isPattern
    split
    next pattern =>
      rw [operation_pattern spelled]
      rfl
    next notString =>
      rw [operation_pattern_of_not_string spelled notString]
      rfl
  · obtain ⟨op, spelled⟩ := isWordOf_iff_exists_spells.1 isMembership
    rw [operation_membership spelled]
    split
    next elements =>
      split_ifs with anyScalar
      · obtain ⟨first, isFirst⟩ := Json.any_isScalar_iff.1 anyScalar
        rw [membership_array_of_isFirst isFirst (Scalar.areOfKind_iff.2 rfl)]
        rfl
      · rw [Json.any_isScalar_iff, not_exists] at anyScalar
        rw [membership_array_of_no_scalar anyScalar]
        rfl
    next notArray =>
      rw [membership_of_not_array notArray]
      rfl
  · rw [operation_of_not_operator isComparison isPattern isMembership]
    rfl

theorem fault?_property
    (name : String)
    (value : Json) :
    fault? (property name value) = (propertyFaults name value).head? := by
  unfold propertyFaults
  split
  next key operand => exact fault?_operation name key operand
  next members notSingle =>
    rw [property_object_of_not_single]
    · rfl
    · rintro key operand rfl
      exact notSingle key operand rfl
  next notSingle notObject =>
    split_ifs with isScalar
    · obtain ⟨scalar, rfl⟩ := Json.isScalar_iff.1 isScalar
      rw [property_toJson]
      rfl
    · rw [Json.isScalar_iff, not_exists] at isScalar
      rw [property_of_not_scalar notObject isScalar]
      rfl

theorem fault?_statement_of_not_connective
    {key : String}
    {value : Json}
    (notConnective : ¬IsWordOf connectiveWords key) :
    fault? (statement (.object [(key, value)])) = (namedFaults key value).head? := by
  unfold namedFaults
  split_ifs with reserved
  · rw [statement_reserved reserved]
    rfl
  · rw [statement_name ⟨notConnective, reserved⟩, fault?_property]

/-- The reading of a value in the place of a condition reports the first of all its faults. -/
theorem fault?_statement (value : Json) : fault? (statement value) = (statementFaults value).head? := by
  induction value using Json.groupInduction with
  | group key elements each =>
      rw [statementFaults]
      split_ifs with isConnective empty
      · obtain ⟨connective, spelled⟩ := isWordOf_iff_exists_spells.1 isConnective
        rw [List.isEmpty_iff.1 empty, statement_connective_empty spelled]
        rfl
      · obtain ⟨connective, spelled⟩ := isWordOf_iff_exists_spells.1 isConnective
        rw [List.isEmpty_iff] at empty
        rw [statement_connective_array spelled empty, fault?_map, eachFaults_eq_flatMap]
        exact fault?_mapM each
      · exact fault?_statement_of_not_connective isConnective
  | other value shape =>
      by_cases single : ∃ key operand, value = .object [(key, operand)]
      · obtain ⟨key, operand, rfl⟩ := single
        have notArray : ∀ elements, operand ≠ .array elements := by
          rintro elements rfl
          exact shape key elements rfl
        rw [statementFaults]
        · split_ifs with isConnective
          · obtain ⟨connective, spelled⟩ := isWordOf_iff_exists_spells.1 isConnective
            rw [statement_connective_of_not_array spelled notArray]
            rfl
          · exact fault?_statement_of_not_connective isConnective
        · exact notArray
      · push Not at single
        rw [statement_of_not_single single, statementFaults]
        · rfl
        · intro key elements
          exact single key (.array elements)
        · exact single

/-- A request for a condition is rejected with a fault exactly when that is the first of all its faults. -/
theorem condition_eq_error_iff_first_fault (value : Json) (fault : Fault) :
    condition value = .error fault ↔ ∃ later, faults value = fault :: later := by
  rw [← fault?_eq_some_iff, ← List.head?_eq_some_iff]
  cases value with
  | object members => rw [condition, faults, fault?_statement]
  | _ => simp [condition, faults]

end Request
end QueryFilter
