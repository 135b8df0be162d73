import QueryFilter.Proofs.Condition.Flattening
import QueryFilter.Proofs.Filter.Run

/-!
# Flat conditions of filters

Joining clauses keeps the leaves of the condition and of the clauses in order, and it keeps conditions flat:
from a condition and clauses in which no group has a child of its own connective, calls of both connectives,
in any mixture, never make one.
-/

namespace QueryFilter
namespace Filter

/-- In the condition, if it is set, no group has a child that is a group of the same connective. -/
def IsAlternating (filter : Filter) : Prop :=
  ∀ tree ∈ filter.condition, tree.IsAlternating

/-- Joining alternating clauses keeps the condition alternating. -/
theorem IsAlternating.combine
    {filter : Filter}
    (alternating : filter.IsAlternating)
    (connective : Connective)
    {clauses : List Condition}
    (clausesAlternate : ∀ clause ∈ clauses, clause.IsAlternating) :
    (filter.combine connective clauses).IsAlternating := by
  intro combined isCombined
  exact Condition.isAlternating_of_combine isCombined
    (forall_mem_condition_append alternating clausesAlternate)

/-- A run of calls with alternating clauses keeps the condition alternating throughout. -/
theorem IsAlternating.scanl_join
    {start : Filter}
    (alternating : start.IsAlternating)
    {calls : List (Connective × List Condition)}
    (clausesAlternate : ∀ call ∈ calls, ∀ clause ∈ call.2, clause.IsAlternating) :
    ∀ filter ∈ (calls.map fun call => Step.join call.1 call.2).scanl after start, filter.IsAlternating := by
  refine forall_mem_scanl alternating ?_
  rw [List.forall_mem_map]
  intro call listed filter reached
  rw [after_join]
  exact reached.combine call.1 (clausesAlternate call listed)

/--
Combining conditions keeps their leaves, one condition after another, and builds nothing exactly when all
of them are empty groups of the connective. It makes no group a child of a group of the same connective when
none was. So the condition of a filter in which there is no such child stays without one through every run
of calls that join clauses without such children, whatever the connectives of the calls.
-/
theorem flattening_keeps_leaves_and_alternation :
    (∀ connective conditions,
        (Condition.combine connective conditions).elim [] Condition.leaves =
            conditions.flatMap Condition.leaves ∧
          (Condition.combine connective conditions = none ↔
            ∀ tree ∈ conditions, tree = .group connective []) ∧
            ((∀ tree ∈ conditions, tree.IsAlternating) →
              ∀ combined ∈ Condition.combine connective conditions, combined.IsAlternating)) ∧
      ∀ (start : Filter) (calls : List (Connective × List Condition)),
        (∀ tree ∈ start.condition, tree.IsAlternating) →
          (∀ call ∈ calls, ∀ clause ∈ call.2, clause.IsAlternating) →
            ∀ filter ∈ (calls.map fun call => Step.join call.1 call.2).scanl after start,
              ∀ tree ∈ filter.condition, tree.IsAlternating := by
  refine ⟨?_, ?_⟩
  · intro connective conditions
    refine ⟨Condition.leaves_combine connective conditions, Condition.combine_eq_none_iff_forall_eq, ?_⟩
    intro alternating combined isCombined
    exact Condition.isAlternating_of_combine isCombined alternating
  · intro start calls alternating clausesAlternate
    exact IsAlternating.scanl_join alternating clausesAlternate

/-- A group of one connective that holds a leaf and a group of the other one. -/
def alternatingClause (outer inner : Connective) : Condition :=
  .group outer [.eq "tenant" (.number (.ofUInt64 7)), .group inner [.like "name" "a%", .group outer []]]

theorem isAlternating_alternatingClause
    {outer inner : Connective}
    (different : outer ≠ inner) :
    (alternatingClause outer inner).IsAlternating := by
  rw [alternatingClause, Condition.isAlternating_group_iff, List.forall_mem_cons, List.forall_mem_singleton,
    Condition.isAlternating_group_iff, List.forall_mem_cons, List.forall_mem_singleton,
    Condition.isAlternating_group_iff]
  have innerOther : (Condition.group inner [.like "name" "a%", .group outer []]).connective? ≠ some outer := by
    simpa using different.symm
  have outerOther : (Condition.group outer []).connective? ≠ some inner := by simpa using different
  exact ⟨⟨nofun, Condition.isAlternating_compare _⟩, innerOther, ⟨nofun, Condition.isAlternating_compare _⟩,
    outerOther, by simp⟩

/-- Calls of both connectives, with clauses of both shapes and without clauses. -/
def mixedCalls : List (Connective × List Condition) :=
  [(.and, [alternatingClause .and .or]), (.or, [alternatingClause .and .or, alternatingClause .or .and]),
    (.and, []), (.and, [.group .and []])]

theorem flattening_keeps_leaves_and_alternation_mixedCalls :
    let start : Filter := { empty with condition := some (alternatingClause .or .and) }
    (∀ call ∈ mixedCalls, ∀ clause ∈ call.2, clause.IsAlternating) ∧
      (start.run (mixedCalls.map fun call => .join call.1 call.2)).condition.isSome = true ∧
        (∀ filter ∈ (mixedCalls.map fun call => Step.join call.1 call.2).scanl after start,
          ∀ tree ∈ filter.condition, tree.IsAlternating) ∧
          ∀ combined ∈ Condition.combine .or [alternatingClause .and .or, alternatingClause .or .and],
            combined.IsAlternating := by
  intro start
  have first := isAlternating_alternatingClause (show Connective.and ≠ .or by decide)
  have second := isAlternating_alternatingClause (show Connective.or ≠ .and by decide)
  have clausesAlternate : ∀ call ∈ mixedCalls, ∀ clause ∈ call.2, clause.IsAlternating := by
    have empty : (Condition.group .and []).IsAlternating := by simp [Condition.isAlternating_group_iff]
    simp [mixedCalls, first, second, empty]
  obtain ⟨combining, running⟩ := flattening_keeps_leaves_and_alternation
  refine ⟨clausesAlternate, rfl, ?_, ?_⟩
  · refine running start mixedCalls ?_ clausesAlternate
    intro tree isSet
    obtain rfl := Option.some.inj isSet
    exact second
  · obtain ⟨-, -, ofAlternating⟩ :=
      combining .or [alternatingClause .and .or, alternatingClause .or .and]
    exact ofAlternating (by simp [first, second])

end Filter
end QueryFilter
