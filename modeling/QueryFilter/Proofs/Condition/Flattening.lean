import QueryFilter.Proofs.Condition.Splicing

/-!
# Leaves and nesting of combined conditions

Combining moves the children of some groups one level up and does nothing else: the leaves stay the same, in
the same order. A tree alternates when no group is a child of a group of the same connective. The children of
an alternating group are no groups of its connective, so what is combined from alternating trees alternates.
-/

namespace QueryFilter
namespace Condition

/-! ## Leaves -/

mutual

/-- The comparisons and membership tests of a condition, from left to right. -/
def leaves : Condition → List Condition
  | .group _ children =>
      leavesEach children
  | .compare comparison =>
      [.compare comparison]
  | .member membership =>
      [.member membership]

/-- The comparisons and membership tests of conditions in a row. -/
def leavesEach : List Condition → List Condition
  | [] =>
      []
  | first :: rest =>
      first.leaves ++ leavesEach rest

end

theorem leavesEach_eq_flatMap (conditions : List Condition) :
    leavesEach conditions = conditions.flatMap leaves := by
  induction conditions with
  | nil => rfl
  | cons first rest inductionHypothesis => simp [leavesEach, inductionHypothesis]

theorem leaves_group
    (connective : Connective)
    (children : List Condition) :
    (group connective children).leaves = children.flatMap leaves := by
  rw [leaves, leavesEach_eq_flatMap]

/-- What a condition contributes to a group has the leaves of the condition. -/
theorem flatMap_leaves_spliced
    (connective : Connective)
    (tree : Condition) :
    (spliced connective tree).flatMap leaves = tree.leaves := by
  cases tree with
  | group inner children =>
      rw [spliced]
      split_ifs with same
      · rw [leaves_group]
      · simp
  | compare comparison => simp
  | member membership => simp

/-- What is combined has the leaves of the conditions, one condition after another. -/
theorem leaves_combine
    (connective : Connective)
    (conditions : List Condition) :
    (combine connective conditions).elim [] leaves = conditions.flatMap leaves := by
  have contributed : (conditions.flatMap (spliced connective)).flatMap leaves = conditions.flatMap leaves := by
    rw [List.flatMap_assoc]
    exact List.flatMap_congr fun tree _ => flatMap_leaves_spliced connective tree
  cases combined : combine connective conditions with
  | none => rw [← contributed, combine_eq_none_iff.1 combined, Option.elim_none, List.flatMap_nil]
  | some tree =>
      obtain ⟨-, rfl⟩ := combine_eq_some_iff.1 combined
      rw [Option.elim_some, leaves_group, contributed]

/-- Nothing is combined exactly when there are only empty groups of the connective. -/
theorem combine_eq_none_iff_forall_eq
    {connective : Connective}
    {conditions : List Condition} :
    combine connective conditions = none ↔ ∀ tree ∈ conditions, tree = .group connective [] := by
  rw [combine_eq_none_iff, List.flatMap_eq_nil_iff]
  exact forall₂_congr fun tree _ => spliced_eq_nil_iff

/-! ## Nesting -/

/-- No child of a group is a group of the same connective. -/
def IsAlternatingNode (node : Condition) : Prop :=
  ∀ connective, node.connective? = some connective →
    ∀ child ∈ node.children, child.connective? ≠ some connective

/-- No group of the condition, at whatever depth, has a child that is a group of the same connective. -/
def IsAlternating (tree : Condition) : Prop :=
  EveryNode IsAlternatingNode tree

theorem isAlternating_group_iff
    {connective : Connective}
    {children : List Condition} :
    (group connective children).IsAlternating ↔
      ∀ child ∈ children, child.connective? ≠ some connective ∧ child.IsAlternating := by
  have atRoot : IsAlternatingNode (group connective children) ↔
      ∀ child ∈ children, child.connective? ≠ some connective := by
    simp [IsAlternatingNode]
  rw [IsAlternating, everyNode_group_iff, atRoot, ← forall₂_and]
  rfl

theorem isAlternating_compare (comparison : Comparison) : (compare comparison).IsAlternating :=
  everyNode_compare_iff.2 (by simp [IsAlternatingNode, children])

/-- An alternating condition contributes no groups of the connective. -/
theorem IsAlternating.connective?_ne_of_mem_spliced
    {connective : Connective}
    {tree child : Condition}
    (alternating : tree.IsAlternating)
    (contributed : child ∈ spliced connective tree) :
    child.connective? ≠ some connective := by
  obtain ⟨atRoot, -⟩ := alternating
  rw [spliced_eq_ite] at contributed
  split_ifs at contributed with same
  · exact atRoot connective same child contributed
  · obtain rfl := List.mem_singleton.1 contributed
    exact same

/-- What is combined from alternating conditions alternates. -/
theorem isAlternating_of_combine
    {connective : Connective}
    {conditions : List Condition}
    {combined : Condition}
    (isCombined : combine connective conditions = some combined)
    (alternating : ∀ tree ∈ conditions, tree.IsAlternating) :
    combined.IsAlternating := by
  obtain ⟨-, rfl⟩ := combine_eq_some_iff.1 isCombined
  rw [isAlternating_group_iff]
  intro child listed
  obtain ⟨tree, member, contributed⟩ := List.mem_flatMap.1 listed
  have ofTree := alternating tree member
  exact ⟨ofTree.connective?_ne_of_mem_spliced contributed, ofTree.of_mem_spliced contributed⟩

end Condition
end QueryFilter
