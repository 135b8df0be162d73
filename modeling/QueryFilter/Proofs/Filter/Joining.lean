import QueryFilter.Proofs.Condition.Splicing
import QueryFilter.Proofs.Filter.Run

/-!
# Clauses joined to filters

Requiring clauses makes a conjunction of the condition and the clauses, and admitting clauses a disjunction,
under every three-valued truth of the leaves, although groups are spliced and may vanish. No condition at all
reads as true. That is what an empty conjunction is, but not an empty disjunction, so for clauses that are
admitted it matters that something is left of them.
-/

namespace QueryFilter

namespace Condition

/-- No group of the condition, at whatever depth, is empty. -/
def HasNoEmptyGroup (tree : Condition) : Prop :=
  EveryNode (fun node => ∀ connective, node ≠ .group connective []) tree

theorem hasNoEmptyGroup_group_iff
    {connective : Connective}
    {children : List Condition} :
    (group connective children).HasNoEmptyGroup ↔
      children ≠ [] ∧ ∀ child ∈ children, child.HasNoEmptyGroup := by
  rw [HasNoEmptyGroup, everyNode_group_iff]
  refine and_congr_left fun _ => ?_
  simp

theorem hasNoEmptyGroup_compare (comparison : Comparison) : (compare comparison).HasNoEmptyGroup :=
  everyNode_compare_iff.2 (by simp)

/-- The condition as a whole is no empty group. -/
theorem HasNoEmptyGroup.ne_group_nil
    {tree : Condition}
    (nonempty : tree.HasNoEmptyGroup)
    (connective : Connective) :
    tree ≠ .group connective [] := by
  obtain ⟨atRoot, -⟩ := nonempty
  exact atRoot connective

/-- Conditions, if there is one, combine to a group that is as true as they are under the connective. -/
theorem exists_combine_eq_some
    (connective : Connective)
    {first : Condition}
    {rest : List Condition}
    (nonempty : first.HasNoEmptyGroup) :
    ∃ tree, combine connective (first :: rest) = some tree ∧
      ∀ assignment, tree.truth assignment = joined assignment connective (first :: rest) := by
  refine ⟨flatGroup connective (first :: rest), ?_, ?_⟩
  · exact combine_eq_some_flatGroup List.mem_cons_self (nonempty.ne_group_nil connective)
  · intro assignment
    rw [truth_flatGroup, truth_group]

end Condition

namespace Filter

/-- The truth of a filter for a row: that of its condition, and true when there is none. -/
def truth (assignment : Assignment) (filter : Filter) : Truth :=
  match filter.condition with
  | none =>
      .yes
  | some tree =>
      tree.truth assignment

/-- No condition reads as a conjunction of nothing. -/
theorem truth_eq_joined
    (assignment : Assignment)
    (filter : Filter) :
    filter.truth assignment = Condition.joined assignment .and filter.condition.toList := by
  rw [truth]
  cases filter.condition with
  | none => simp [Connective.neutral]
  | some tree => simp

/-- Required clauses are joined to the condition by conjunction. -/
theorem truth_and
    (assignment : Assignment)
    (filter : Filter)
    (clauses : List Condition) :
    (filter.and clauses).truth assignment =
      (filter.truth assignment).and (Condition.joined assignment .and clauses) := by
  calc
    (filter.and clauses).truth assignment
      = Condition.joined assignment .and
          (Condition.combine .and (filter.condition.toList ++ clauses)).toList := truth_eq_joined assignment _
    _ = Condition.joined assignment .and (filter.condition.toList ++ clauses) :=
          Condition.joined_combine assignment .and _
    _ = Connective.and.join (Condition.joined assignment .and filter.condition.toList)
          (Condition.joined assignment .and clauses) := Condition.joined_append assignment .and _ _
    _ = (filter.truth assignment).and (Condition.joined assignment .and clauses) := by
          rw [← truth_eq_joined, Connective.join]

theorem condition_or
    (filter : Filter)
    (clauses : List Condition) :
    (filter.or clauses).condition = Condition.combine .or (filter.condition.toList ++ clauses) := rfl

/--
Requiring clauses, of whatever shape, makes the conjunction of what was required before and of the clauses:
the filter is true of a row exactly when it was and all clauses are. Admitting clauses to a condition without
empty groups makes the disjunction of the condition and the clauses. Without a condition it makes the
disjunction of the clauses, when there is one and they have no empty groups, and of no clauses still no
condition. The other fields keep their content.
-/
theorem and_conjoins_or_disjoins (filter : Filter) (clauses : List Condition) :
    (∀ assignment,
        (filter.and clauses).truth assignment =
            (filter.truth assignment).and (Condition.joined assignment .and clauses) ∧
          ((filter.and clauses).truth assignment = .yes ↔
            filter.truth assignment = .yes ∧ ∀ clause ∈ clauses, clause.truth assignment = .yes)) ∧
      (∀ tree, filter.condition = some tree → tree.HasNoEmptyGroup →
          ∃ admitted, (filter.or clauses).condition = some admitted ∧
            ∀ assignment,
              admitted.truth assignment =
                (tree.truth assignment).or (Condition.joined assignment .or clauses)) ∧
        (filter.condition = none → clauses ≠ [] → (∀ clause ∈ clauses, clause.HasNoEmptyGroup) →
            ∃ admitted, (filter.or clauses).condition = some admitted ∧
              ∀ assignment, admitted.truth assignment = Condition.joined assignment .or clauses) ∧
          (filter.condition = none → (filter.or []).condition = none) ∧
            ∀ field ≠ .condition,
              (filter.and clauses).get field = filter.get field ∧
                (filter.or clauses).get field = filter.get field := by
  refine ⟨?_, ?_, ?_, ?_, ?_⟩
  · intro assignment
    refine ⟨truth_and assignment filter clauses, ?_⟩
    rw [truth_and, Truth.and_eq_yes_iff, Condition.joined_and_eq_yes_iff]
  · intro tree isSet nonempty
    rw [condition_or, isSet, Option.toList_some, List.singleton_append]
    exact Condition.exists_combine_eq_some .or nonempty
  · intro unset someClause nonempty
    rw [condition_or, unset, Option.toList_none, List.nil_append]
    obtain ⟨first, rest, rfl⟩ := List.exists_cons_of_ne_nil someClause
    exact Condition.exists_combine_eq_some .or (nonempty first List.mem_cons_self)
  · intro unset
    rw [condition_or, unset]
    rfl
  · intro field other
    exact ⟨get_combine_of_ne other, get_combine_of_ne other⟩

/-- A group of either connective in a group of the other one. -/
def nestedClause (outer inner : Connective) : Condition :=
  .group outer [.eq "tenant" (.number (.ofUInt64 7)), .group inner [.like "name" "a%"]]

theorem hasNoEmptyGroup_nestedClause (outer inner : Connective) :
    (nestedClause outer inner).HasNoEmptyGroup := by
  rw [nestedClause, Condition.hasNoEmptyGroup_group_iff, List.forall_mem_cons, List.forall_mem_singleton,
    Condition.hasNoEmptyGroup_group_iff, List.forall_mem_singleton]
  refine ⟨List.cons_ne_nil _ _, Condition.hasNoEmptyGroup_compare _, List.cons_ne_nil _ _, ?_⟩
  exact Condition.hasNoEmptyGroup_compare _

theorem and_conjoins_or_disjoins_nestedClause :
    let filter : Filter := { empty with condition := some (nestedClause .and .or), limit := some 10 }
    let clauses := [nestedClause .or .and, nestedClause .and .and]
    (nestedClause .and .or).HasNoEmptyGroup ∧ (∀ clause ∈ clauses, clause.HasNoEmptyGroup) ∧
      (∃ admitted, (filter.or clauses).condition = some admitted ∧
        ∀ assignment,
          admitted.truth assignment =
            ((nestedClause .and .or).truth assignment).or (Condition.joined assignment .or clauses)) ∧
        (∃ admitted, (empty.or clauses).condition = some admitted ∧
          ∀ assignment, admitted.truth assignment = Condition.joined assignment .or clauses) ∧
          (filter.or clauses).limit = some 10 := by
  intro filter clauses
  have noEmptyGroup : ∀ clause ∈ clauses, clause.HasNoEmptyGroup := by
    rw [List.forall_mem_cons, List.forall_mem_singleton]
    exact ⟨hasNoEmptyGroup_nestedClause .or .and, hasNoEmptyGroup_nestedClause .and .and⟩
  obtain ⟨-, toCondition, -, -, others⟩ := and_conjoins_or_disjoins filter clauses
  obtain ⟨-, -, toNone, -, -⟩ := and_conjoins_or_disjoins empty clauses
  have present := hasNoEmptyGroup_nestedClause .and .or
  refine ⟨present, noEmptyGroup, ?_, ?_, ?_⟩
  · exact toCondition (nestedClause .and .or) rfl present
  · exact toNone rfl (List.cons_ne_nil _ _) noEmptyGroup
  · exact (others .limit (by decide)).2

end Filter
end QueryFilter
