import Mathlib.Data.List.Basic
import Mathlib.Tactic.SplitIfs
import QueryFilter.Proofs.Condition.Truth
import QueryFilter.Proofs.Condition.WellFormed

/-!
# Splicing of groups

Conditions are combined by splicing in the children of those that are groups of the same connective. This
keeps their truth under the connective, whatever the leaves are. It takes away one node for each group that
is spliced in, so it changes the conditions as soon as one of them is such a group.
-/

namespace QueryFilter
namespace Condition

/-- The group of conditions in which groups of the same connective are replaced by their children. -/
def flatGroup (connective : Connective) (conditions : List Condition) : Condition :=
  .group connective
    (conditions.flatMap fun tree =>
      if tree.connective? = some connective then tree.children else [tree])

/-- The children of a group of the connective, and any other condition as it is. -/
theorem spliced_eq_ite
    (connective : Connective)
    (tree : Condition) :
    spliced connective tree = if tree.connective? = some connective then tree.children else [tree] := by
  cases tree with
  | group inner children => simp [spliced]
  | compare comparison => rfl
  | member membership => rfl

/-- What holds at every node of a condition holds at every node of what it contributes to a group. -/
theorem EveryNode.of_mem_spliced
    {good : Condition → Prop}
    {connective : Connective}
    {tree child : Condition}
    (every : EveryNode good tree)
    (contributed : child ∈ spliced connective tree) :
    EveryNode good child := by
  rw [spliced_eq_ite] at contributed
  split_ifs at contributed
  · obtain ⟨-, below⟩ := every
    exact below child contributed
  · obtain rfl := List.mem_singleton.1 contributed
    exact every

theorem flatGroup_eq_group
    (connective : Connective)
    (conditions : List Condition) :
    flatGroup connective conditions = .group connective (conditions.flatMap (spliced connective)) := by
  rw [flatGroup, funext (spliced_eq_ite connective)]

/-! ## Truth -/

/-- What a condition contributes to a group is as true under the connective as the condition. -/
theorem joined_spliced
    (assignment : Assignment)
    (connective : Connective)
    (tree : Condition) :
    joined assignment connective (spliced connective tree) = tree.truth assignment := by
  cases tree with
  | group inner children =>
      rw [spliced]
      split_ifs with same
      · rw [truth_group, same]
      · simp
  | compare comparison => simp
  | member membership => simp

/-- Splicing keeps the truth of conditions under the connective. -/
theorem joined_flatMap_spliced
    (assignment : Assignment)
    (connective : Connective)
    (conditions : List Condition) :
    joined assignment connective (conditions.flatMap (spliced connective)) =
      joined assignment connective conditions := by
  induction conditions with
  | nil => rfl
  | cons first rest inductionHypothesis =>
      rw [List.flatMap_cons, joined_append, joined_spliced, joined_cons, inductionHypothesis]

theorem truth_flatGroup
    (assignment : Assignment)
    (connective : Connective)
    (conditions : List Condition) :
    (flatGroup connective conditions).truth assignment = (group connective conditions).truth assignment := by
  rw [flatGroup_eq_group, truth_group, truth_group, joined_flatMap_spliced]

/-! ## Size -/

mutual

/-- The number of nodes of a condition. -/
def size : Condition → Nat
  | .group _ children =>
      sizeEach children + 1
  | .compare _ =>
      1
  | .member _ =>
      1

/-- The number of nodes of conditions in a row. -/
def sizeEach : List Condition → Nat
  | [] =>
      0
  | first :: rest =>
      first.size + sizeEach rest

end

theorem sizeEach_append (conditions others : List Condition) :
    sizeEach (conditions ++ others) = sizeEach conditions + sizeEach others := by
  induction conditions with
  | nil => simp [sizeEach]
  | cons first rest inductionHypothesis => simp [sizeEach, inductionHypothesis, Nat.add_assoc]

/-- A group that is spliced in loses its own node. -/
theorem size_eq_sizeEach_spliced
    (connective : Connective)
    (tree : Condition) :
    tree.size =
      sizeEach (spliced connective tree) + if tree.connective? = some connective then 1 else 0 := by
  rw [spliced_eq_ite]
  split_ifs with same
  · cases tree with
    | group inner children => rw [size, children_group]
    | compare comparison => cases same
    | member membership => cases same
  · simp [sizeEach]

/-- Splicing takes away as many nodes as there are groups of the connective among the conditions. -/
theorem sizeEach_eq_sizeEach_flatMap_spliced
    (connective : Connective)
    (conditions : List Condition) :
    sizeEach conditions =
      sizeEach (conditions.flatMap (spliced connective)) +
        conditions.countP fun tree => tree.connective? = some connective := by
  induction conditions with
  | nil => rfl
  | cons first rest inductionHypothesis =>
      have ofFirst := size_eq_sizeEach_spliced connective first
      rw [List.flatMap_cons, sizeEach_append, sizeEach, List.countP_cons]
      simp only [decide_eq_true_eq]
      omega

/-- Splicing leaves conditions as they are exactly when none of them is a group of the connective. -/
theorem flatMap_spliced_eq_self_iff
    {connective : Connective}
    {conditions : List Condition} :
    conditions.flatMap (spliced connective) = conditions ↔
      ∀ tree ∈ conditions, tree.connective? ≠ some connective := by
  constructor
  · intro unchanged
    have sizes := sizeEach_eq_sizeEach_flatMap_spliced connective conditions
    rw [unchanged] at sizes
    have noGroup : conditions.countP (fun tree => tree.connective? = some connective) = 0 := by omega
    simpa [List.countP_eq_zero] using noGroup
  · intro noGroup
    have each : ∀ tree ∈ conditions, spliced connective tree = [tree] := by
      intro tree listed
      rw [spliced_eq_ite, if_neg (noGroup tree listed)]
    rw [List.flatMap_congr each, List.flatMap_singleton']

theorem flatGroup_eq_group_iff
    {connective : Connective}
    {conditions : List Condition} :
    flatGroup connective conditions = .group connective conditions ↔
      ∀ tree ∈ conditions, tree.connective? ≠ some connective := by
  rw [flatGroup_eq_group, Condition.group.injEq, flatMap_spliced_eq_self_iff]
  exact and_iff_right rfl

/-! ## Combination -/

/-- Only an empty group of the connective contributes nothing. -/
theorem spliced_eq_nil_iff
    {connective : Connective}
    {tree : Condition} :
    spliced connective tree = [] ↔ tree = .group connective [] := by
  cases tree with
  | group inner children =>
      rw [spliced]
      split_ifs with same
      · simp [same]
      · simp [same]
  | compare comparison => simp
  | member membership => simp

/-- Conditions combine to a group as soon as one of them is no empty group of the connective. -/
theorem combine_eq_some_flatGroup
    {connective : Connective}
    {conditions : List Condition}
    {tree : Condition}
    (listed : tree ∈ conditions)
    (contributing : tree ≠ .group connective []) :
    combine connective conditions = some (flatGroup connective conditions) := by
  refine combine_eq_some_iff.2 ⟨?_, flatGroup_eq_group connective conditions⟩
  intro empty
  exact contributing (spliced_eq_nil_iff.1 (List.flatMap_eq_nil_iff.1 empty tree listed))

theorem IsWellFormed.ne_group_nil
    {tree : Condition}
    (wellFormed : tree.IsWellFormed)
    (connective : Connective) :
    tree ≠ .group connective [] := by
  rintro rfl
  exact (isWellFormed_group_iff.1 wellFormed).1 rfl

/-- Well-formed conditions, if there is one, combine to a group. -/
theorem combine_eq_some_of_isWellFormed
    (connective : Connective)
    {conditions : List Condition}
    (nonempty : conditions ≠ [])
    (wellFormed : ∀ tree ∈ conditions, tree.IsWellFormed) :
    combine connective conditions = some (flatGroup connective conditions) := by
  obtain ⟨first, listed⟩ := List.exists_mem_of_ne_nil conditions nonempty
  exact combine_eq_some_flatGroup listed ((wellFormed first listed).ne_group_nil connective)

/-- What has been combined contributes what the conditions contribute one by one. -/
theorem flatMap_spliced_combine
    (connective : Connective)
    (conditions : List Condition) :
    (combine connective conditions).toList.flatMap (spliced connective) =
      conditions.flatMap (spliced connective) := by
  cases combined : combine connective conditions with
  | none => simp [combine_eq_none_iff.1 combined]
  | some tree =>
      obtain ⟨-, rfl⟩ := combine_eq_some_iff.1 combined
      simp

/-- What is combined depends only on what the conditions contribute. -/
theorem combine_congr
    {connective : Connective}
    {conditions others : List Condition}
    (same : conditions.flatMap (spliced connective) = others.flatMap (spliced connective)) :
    combine connective conditions = combine connective others := by
  rw [combine, combine, same]

/-- Combination keeps the truth of conditions under the connective, also when nothing is left of them. -/
theorem joined_combine
    (assignment : Assignment)
    (connective : Connective)
    (conditions : List Condition) :
    joined assignment connective (combine connective conditions).toList =
      joined assignment connective conditions := by
  rw [← joined_flatMap_spliced, flatMap_spliced_combine, joined_flatMap_spliced]

end Condition
end QueryFilter
