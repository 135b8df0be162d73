import QueryFilter.Condition

/-!
# Nodes of condition trees

Induction over the groups of a tree, predicates that hold at every node of it, and the conditions under
which a single node is well formed.
-/

namespace QueryFilter
namespace Condition

/-- Induction over groups: what holds of a group of which it holds of all children, and of all leaves. -/
@[elab_as_elim]
theorem groupInduction
    {motive : Condition → Prop}
    (group : ∀ connective children,
      (∀ child ∈ children, motive child) → motive (.group connective children))
    (compare : ∀ comparison, motive (.compare comparison))
    (member : ∀ membership, motive (.member membership))
    (tree : Condition) :
    motive tree := by
  match tree with
  | .group connective children =>
      exact group connective children fun child _ => groupInduction group compare member child
  | .compare comparison => exact compare comparison
  | .member membership => exact member membership
termination_by sizeOf tree
decreasing_by
  have smaller := List.sizeOf_lt_of_mem ‹child ∈ children›
  simp only [Condition.group.sizeOf_spec]
  omega

/-- A leaf has no children. -/
theorem children_eq_nil
    {tree : Condition}
    (isLeaf : tree.connective? = none) :
    tree.children = [] := by
  cases tree with
  | group => cases isLeaf
  | compare => rfl
  | member => rfl

/-- A predicate holds at every node of a tree. -/
inductive EveryNode (good : Condition → Prop) : Condition → Prop
  | node {tree : Condition} :
      good tree →
      (∀ child ∈ tree.children, EveryNode good child) →
      EveryNode good tree

theorem EveryNode.root
    {good : Condition → Prop}
    {tree : Condition}
    (every : EveryNode good tree) :
    good tree := by
  obtain ⟨atRoot, -⟩ := every
  exact atRoot

theorem everyNode_group_iff
    {good : Condition → Prop}
    {connective : Connective}
    {children : List Condition} :
    EveryNode good (.group connective children) ↔
      good (.group connective children) ∧ ∀ child ∈ children, EveryNode good child := by
  constructor
  · rintro ⟨atRoot, below⟩
    exact ⟨atRoot, below⟩
  · rintro ⟨atRoot, below⟩
    exact .node atRoot below

theorem everyNode_compare_iff
    {good : Condition → Prop}
    {comparison : Comparison} :
    EveryNode good (.compare comparison) ↔ good (.compare comparison) := by
  constructor
  · rintro ⟨atRoot, -⟩
    exact atRoot
  · intro atRoot
    exact .node atRoot (by simp [children])

theorem everyNode_member_iff
    {good : Condition → Prop}
    {membership : Membership} :
    EveryNode good (.member membership) ↔ good (.member membership) := by
  constructor
  · rintro ⟨atRoot, -⟩
    exact atRoot
  · intro atRoot
    exact .node atRoot (by simp [children])

mutual

/-- The properties that a condition mentions, from left to right. -/
def properties : Condition → List String
  | .group _ children =>
      propertiesEach children
  | .compare comparison =>
      [comparison.property]
  | .member membership =>
      [membership.property]

/-- The properties that conditions in a row mention. -/
def propertiesEach : List Condition → List String
  | [] =>
      []
  | first :: rest =>
      first.properties ++ propertiesEach rest

end

theorem propertiesEach_eq_flatMap (conditions : List Condition) :
    propertiesEach conditions = conditions.flatMap properties := by
  induction conditions with
  | nil => rfl
  | cons first rest inductionHypothesis => simp [propertiesEach, inductionHypothesis]

theorem mem_properties_group_iff
    {connective : Connective}
    {children : List Condition}
    {name : String} :
    name ∈ (group connective children).properties ↔ ∃ child ∈ children, name ∈ child.properties := by
  rw [properties, propertiesEach_eq_flatMap, List.mem_flatMap]

end Condition
end QueryFilter
