import QueryFilter.Proofs.Request.Derivation
import QueryFilter.Proofs.Stored.RoundTrip

/-!
# Requests and stored conditions are kept apart

A request and a stored condition have groups of the same shape over the same keys, and a request may name a
property `compare` or `member`. What tells them apart is below these keys: a stored leaf is a record of
several parts, and a property stands over a scalar or over an object with one key. So no value is both, and
a stored condition that comes as a request is rejected at its first leaf, or at an empty group before it.
-/

namespace QueryFilter

/-! ## Requests are not stored conditions -/

namespace Comparison

theorem ofStored?_toJson (scalar : Scalar) : ofStored? scalar.toJson = none := by
  cases scalar <;> rfl

/-- An object with one key has too few parts. -/
theorem ofStored?_single
    (key : String)
    (value : Json) :
    ofStored? (.object [(key, value)]) = none := by
  by_cases isProperty : key = "property"
  · simp [ofStored?, Members.get?, isProperty]
  · simp [ofStored?, Members.get?, isProperty]

end Comparison

namespace Membership

theorem ofStored?_toJson (scalar : Scalar) : ofStored? scalar.toJson = none := by
  cases scalar <;> rfl

/-- An object with one key has too few parts. -/
theorem ofStored?_single
    (key : String)
    (value : Json) :
    ofStored? (.object [(key, value)]) = none := by
  by_cases isProperty : key = "property"
  · simp [ofStored?, Members.get?, isProperty]
  · simp [ofStored?, Members.get?, isProperty]

end Membership

namespace Condition

/-- What is stored as no leaf of either kind is stored as no leaf under any key. -/
theorem leafOfStored?_eq_none
    {key : String}
    {value : Json}
    (noComparison : Comparison.ofStored? value = none)
    (noMembership : Membership.ofStored? value = none) :
    leafOfStored? key value = none := by
  simp [leafOfStored?, noComparison, noMembership]

/-- A property over a scalar is not stored. -/
theorem ofStored?_scalar
    (name : String)
    (scalar : Scalar) :
    ofStored? (.object [(name, scalar.toJson)]) = none := by
  have noLeaf : leafOfStored? name scalar.toJson = none :=
    leafOfStored?_eq_none (Comparison.ofStored?_toJson scalar) (Membership.ofStored?_toJson scalar)
  cases scalar <;> exact noLeaf

/-- A property over an operator is not stored. -/
theorem ofStored?_operator
    (name key : String)
    (operand : Json) :
    ofStored? (.object [(name, .object [(key, operand)])]) = none :=
  leafOfStored?_eq_none (Comparison.ofStored?_single key operand) (Membership.ofStored?_single key operand)

/-- A connective over an array is not stored when one of the elements is not. -/
theorem ofStored?_connective_eq_none
    {key : String}
    {connective : Connective}
    (spelled : Request.Spells Request.connectiveWords key connective)
    {elements : List Json}
    {element : Json}
    (listed : element ∈ elements)
    (unread : ofStored? element = none) :
    ofStored? (.object [(key, .array elements)]) = none := by
  have isConnective : Request.IsWordOf Request.connectiveWords key :=
    Request.isWordOf_iff_exists_spells.2 ⟨connective, spelled⟩
  have notCompare : key ≠ "compare" := by
    rintro rfl
    exact absurd isConnective (by decide)
  have notMember : key ≠ "member" := by
    rintro rfl
    exact absurd isConnective (by decide)
  rw [ofStored?, ofStoredEach?_eq_mapM, mapM_eq_none_of_mem listed unread]
  simp [leafOfStored?, notCompare, notMember]

end Condition

/-- What derives a condition as a request is not stored, by the rules of the grammar. -/
theorem Request.Derives.ofStored?_eq_none
    {value : Json}
    {tree : Condition}
    (derives : Derives value tree) :
    Condition.ofStored? value = none := by
  induction derives with
  | @group key connective derived spelled nonempty _ inductionHypothesis =>
      obtain ⟨pair, listed⟩ := List.exists_mem_of_ne_nil derived nonempty
      exact Condition.ofStored?_connective_eq_none spelled (List.mem_map_of_mem listed)
        (inductionHypothesis pair listed)
  | @equality name scalar _ => exact Condition.ofStored?_scalar name scalar
  | @comparison name key op scalar _ _ => exact Condition.ofStored?_operator name key scalar.toJson
  | @pattern name key pattern op _ _ => exact Condition.ofStored?_operator name key (.string pattern)
  | @membership name key op elements first values _ _ _ _ =>
      exact Condition.ofStored?_operator name key (.array elements)

/-! ## Stored conditions are not requests -/

/--
The fault for which a stored condition is rejected as a request. The first children of its groups lead to a
leaf, whose record has too many keys for the object of an operator, or to a group without children.
-/
def Condition.storedFault : Condition → Fault
  | .group connective [] =>
      .emptyArray connective.storedKey
  | .group _ (first :: _) =>
      first.storedFault
  | .compare _ =>
      .notAnObject
  | .member _ =>
      .notAnObject

theorem Condition.storedFault_eq (tree : Condition) :
    tree.storedFault = .notAnObject ∨ ∃ connective : Connective,
      tree.storedFault = .emptyArray connective.storedKey := by
  induction tree using Condition.groupInduction with
  | group connective children each =>
      cases children with
      | nil => exact Or.inr ⟨connective, by rw [storedFault]⟩
      | cons first rest =>
          rw [storedFault]
          exact each first List.mem_cons_self
  | compare comparison => exact Or.inl (by rw [storedFault])
  | member membership => exact Or.inl (by rw [storedFault])

namespace Request

theorem spells_storedKey (connective : Connective) :
    Spells connectiveWords connective.storedKey connective := by
  cases connective <;> exact spells_of_mem (by decide)

theorem statement_toStored (tree : Condition) : statement tree.toStored = .error tree.storedFault := by
  induction tree using Condition.groupInduction with
  | group connective children each =>
      rw [Condition.toStored, Condition.toStoredEach_eq_map, Json.single]
      cases children with
      | nil =>
          rw [Condition.storedFault]
          exact statement_connective_empty (spells_storedKey connective)
      | cons first rest =>
          rw [Condition.storedFault, List.map_cons,
            statement_connective_array (spells_storedKey connective) (List.cons_ne_nil _ _), List.mapM_cons,
            each first List.mem_cons_self]
          rfl
  | compare comparison =>
      rw [Condition.toStored, Json.single, statement_name (by decide), Condition.storedFault]
      exact property_object_of_not_single (by simp)
  | member membership =>
      rw [Condition.toStored, Json.single, statement_name (by decide), Condition.storedFault]
      exact property_object_of_not_single (by simp)

/--
No value is read both as a request for a condition and as a stored condition. The stored form of a condition
is read back as such, and it is rejected as a request: because an object with exactly one key is missing, or
for an empty array, as the first leaf or empty group in it tells.
-/
theorem requested_and_stored_disjoint :
    (∀ (value : Json) (requested stored : Condition),
        ¬(condition value = .ok requested ∧ Condition.ofStored? value = some stored)) ∧
      ∀ tree : Condition,
        Condition.ofStored? tree.toStored = some tree ∧
          condition tree.toStored = .error tree.storedFault ∧
            (tree.storedFault = .notAnObject ∨ ∃ connective : Connective,
              tree.storedFault = .emptyArray connective.storedKey) := by
  constructor
  · rintro value requested stored ⟨read, storedRead⟩
    rw [condition_eq_ok_iff_derives] at read
    rw [read.ofStored?_eq_none] at storedRead
    cases storedRead
  · intro tree
    refine ⟨tree.ofStored?_toStored, ?_, tree.storedFault_eq⟩
    rw [← statement_toStored]
    cases tree <;> rfl

end Request
end QueryFilter
