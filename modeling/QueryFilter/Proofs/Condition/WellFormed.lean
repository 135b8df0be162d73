import QueryFilter.Proofs.Condition

/-!
# Well-formed conditions

The type of conditions admits patterns that are numbers, lists of mixed kinds and empty groups. A condition
is typed when its operands fit their operators, and well formed when moreover no group is empty.
-/

namespace QueryFilter

/-- A pattern is a string; every other operator takes any scalar. -/
def Comparison.IsTyped (comparison : Comparison) : Prop :=
  comparison.op.isPattern = true → comparison.value.kind = .string

instance (comparison : Comparison) : Decidable comparison.IsTyped := by
  unfold Comparison.IsTyped
  infer_instance

/-- There is a listed value, and all of them have the kind that the list is tagged with. -/
def Membership.IsTyped (membership : Membership) : Prop :=
  membership.values ≠ [] ∧ ∀ value ∈ membership.values, value.kind = membership.datatype

instance (membership : Membership) : Decidable membership.IsTyped := by
  unfold Membership.IsTyped
  infer_instance

namespace Condition

/-- The operands of a leaf fit its operator. -/
def IsTypedNode : Condition → Prop
  | .group _ _ =>
      True
  | .compare comparison =>
      comparison.IsTyped
  | .member membership =>
      membership.IsTyped

/-- At every leaf of the condition the operands fit the operator. -/
def IsTyped (tree : Condition) : Prop :=
  EveryNode IsTypedNode tree

/-- A group has a child, and the operands of a leaf fit its operator. -/
def IsWellFormedNode : Condition → Prop
  | .group _ children =>
      children ≠ []
  | .compare comparison =>
      comparison.IsTyped
  | .member membership =>
      membership.IsTyped

/-- Every group of the condition has a child, and at every leaf the operands fit the operator. -/
def IsWellFormed (tree : Condition) : Prop :=
  EveryNode IsWellFormedNode tree

theorem isTyped_group_iff
    {connective : Connective}
    {children : List Condition} :
    (group connective children).IsTyped ↔ ∀ child ∈ children, child.IsTyped := by
  rw [IsTyped, everyNode_group_iff]
  exact and_iff_right trivial

@[simp] theorem isTyped_compare_iff
    {comparison : Comparison} :
    (compare comparison).IsTyped ↔ comparison.IsTyped :=
  everyNode_compare_iff

@[simp] theorem isTyped_member_iff
    {membership : Membership} :
    (member membership).IsTyped ↔ membership.IsTyped :=
  everyNode_member_iff

theorem isWellFormed_group_iff
    {connective : Connective}
    {children : List Condition} :
    (group connective children).IsWellFormed ↔
      children ≠ [] ∧ ∀ child ∈ children, child.IsWellFormed :=
  everyNode_group_iff

@[simp] theorem isWellFormed_compare_iff
    {comparison : Comparison} :
    (compare comparison).IsWellFormed ↔ comparison.IsTyped :=
  everyNode_compare_iff

@[simp] theorem isWellFormed_member_iff
    {membership : Membership} :
    (member membership).IsWellFormed ↔ membership.IsTyped :=
  everyNode_member_iff

end Condition
end QueryFilter
