import QueryFilter.Proofs.Condition.Splicing
import QueryFilter.Proofs.Filter.Run

/-!
# Clauses joined call by call

Combining conditions is associative, as trees and not only in meaning: what has been combined already may
stand for the conditions that it was combined from, also when nothing was left of them. So clauses that are
joined to a filter in several calls of the same connective leave the condition of one call with all of them.
-/

namespace QueryFilter

namespace Condition

/-- Conditions in front of others may be combined first. -/
theorem combine_combine_append
    (connective : Connective)
    (conditions others : List Condition) :
    combine connective ((combine connective conditions).toList ++ others) =
      combine connective (conditions ++ others) := by
  apply combine_congr
  rw [List.flatMap_append, List.flatMap_append, flatMap_spliced_combine]

/-- Conditions behind others may be combined first. -/
theorem combine_append_combine
    (connective : Connective)
    (conditions others : List Condition) :
    combine connective (conditions ++ (combine connective others).toList) =
      combine connective (conditions ++ others) := by
  apply combine_congr
  rw [List.flatMap_append, List.flatMap_append, flatMap_spliced_combine]

/-- A group that is combined alone stays as it is, unless it is empty and vanishes. -/
theorem combine_group_eq_self_iff
    {connective : Connective}
    {children : List Condition} :
    combine connective [group connective children] = some (group connective children) ↔ children ≠ [] := by
  rw [combine_eq_some_iff, List.flatMap_singleton, spliced_group_self]
  exact and_iff_left rfl

end Condition

namespace Filter

/-- Two calls that join clauses are one call that joins all of them. -/
theorem combine_combine
    (filter : Filter)
    (connective : Connective)
    (clauses others : List Condition) :
    (filter.combine connective clauses).combine connective others =
      filter.combine connective (clauses ++ others) := by
  have conditions := Condition.combine_combine_append connective (filter.condition.toList ++ clauses) others
  rw [List.append_assoc] at conditions
  rw [combine, combine, combine, conditions]

/-- A run of calls that join clauses, of which there is a first one, is one call that joins all of them. -/
theorem run_joins
    (filter : Filter)
    (connective : Connective)
    (first : List Condition)
    (rest : List (List Condition)) :
    filter.run ((first :: rest).map (.join connective)) =
      filter.combine connective (first :: rest).flatten := by
  -- Call by call; the calls so far are the first call of what is left.
  induction rest generalizing first with
  | nil => simp
  | cons second later inductionHypothesis =>
      calc
        filter.run ((first :: second :: later).map (.join connective))
          = ((filter.combine connective first).combine connective second).run
              (later.map (.join connective)) := by simp
        _ = filter.run (((first ++ second) :: later).map (.join connective)) := by
              simp [combine_combine]
        _ = filter.combine connective ((first ++ second) :: later).flatten :=
              inductionHypothesis (first ++ second)
        _ = filter.combine connective (first :: second :: later).flatten := by simp

/--
Combining is associative. So however clauses are cut into consecutive calls of the same connective, the filter
is that of one call with all of them, and a further call without clauses leaves it as it is. A condition
that was not combined stays the same in such a call when it is a group of the connective with a child.
-/
theorem joins_regroup (connective : Connective) :
    (∀ conditions others,
        Condition.combine connective ((Condition.combine connective conditions).toList ++ others) =
            Condition.combine connective (conditions ++ others) ∧
          Condition.combine connective (conditions ++ (Condition.combine connective others).toList) =
            Condition.combine connective (conditions ++ others)) ∧
      (∀ (filter : Filter) (first : List Condition) (rest : List (List Condition)),
        filter.run ((first :: rest).map (.join connective)) =
            filter.after (.join connective (first :: rest).flatten) ∧
          (filter.run ((first :: rest).map (.join connective))).after (.join connective []) =
            filter.run ((first :: rest).map (.join connective))) ∧
        ∀ children,
          Condition.combine connective [.group connective children] = some (.group connective children) ↔
            children ≠ [] := by
  refine ⟨?_, ?_, ?_⟩
  · intro conditions others
    exact ⟨Condition.combine_combine_append connective conditions others,
      Condition.combine_append_combine connective conditions others⟩
  · intro filter first rest
    rw [run_joins, after_join, after_join]
    refine ⟨rfl, ?_⟩
    rw [combine_combine, List.append_nil]
  · intro children
    exact Condition.combine_group_eq_self_iff

end Filter
end QueryFilter
