import QueryFilter.Proofs.Condition.Splicing
import QueryFilter.Proofs.Filter.Run
import QueryFilter.Proofs.Request.WellFormed

/-!
# Filters stay well formed

A filter is well formed when its condition is, if it is set, and its order has a clause, if it is set. The
empty filter is, what a value is read as is, joining well-formed clauses never leaves an empty group, and so
every filter that a run goes through is well formed, whether its steps succeed or fail.
-/

namespace QueryFilter

/-- What a field may hold: a well-formed condition, an order with a clause, any count. -/
def Field.IsSound : (field : Field) → field.Content → Prop
  | .condition, (tree : Condition) =>
      tree.IsWellFormed
  | .order, (sorting : Order) =>
      sorting.clauses ≠ []
  | .limit, _ =>
      True
  | .skip, _ =>
      True

/-- What a field holds after an offer is sound. -/
theorem Field.isSound_of_contentOf
    {field : Field}
    {value : Json}
    {content : field.Content}
    (held : field.contentOf value = some content) :
    field.IsSound content := by
  cases field with
  | condition => exact Request.isWellFormed_of_condition (contentOf_condition_eq_some_iff.1 held)
  | order =>
      have fromClauses : ∃ clauses, Order.ofClauses? clauses = some content := by
        cases value with
        | string clause => exact ⟨[clause], held⟩
        | array elements => exact ⟨elements.filterMap Request.clause?, held⟩
        | _ => cases held
      obtain ⟨clauses, built⟩ := fromClauses
      obtain ⟨nonempty, clausesEqual⟩ := Order.ofClauses?_eq_some_iff.1 built
      show Order.clauses content ≠ []
      rw [clausesEqual]
      exact nonempty
  | limit => trivial
  | skip => trivial

namespace Condition

/-- Well-formed conditions combine to a well-formed one, if to any. -/
theorem isWellFormed_of_combine
    {connective : Connective}
    {conditions : List Condition}
    {combined : Condition}
    (wellFormed : ∀ condition ∈ conditions, condition.IsWellFormed)
    (built : combine connective conditions = some combined) :
    combined.IsWellFormed := by
  obtain ⟨nonempty, rfl⟩ := combine_eq_some_iff.1 built
  refine isWellFormed_group_iff.2 ⟨nonempty, ?_⟩
  intro child listed
  obtain ⟨condition, member, contributed⟩ := List.mem_flatMap.1 listed
  exact (wellFormed condition member).of_mem_spliced contributed

end Condition

namespace Filter

/-- The condition is well formed and the order has a clause, as far as they are set. -/
structure IsWellFormed (filter : Filter) : Prop where
  /-- The condition is well formed. -/
  condition : ∀ tree ∈ filter.condition, tree.IsWellFormed
  /-- The order has a clause. -/
  order : ∀ order ∈ filter.order, order.clauses ≠ []

/-- A filter is well formed when all its fields hold what they may hold. -/
theorem isWellFormed_iff_isSound
    {filter : Filter} :
    filter.IsWellFormed ↔ ∀ field, ∀ content ∈ filter.get field, field.IsSound content := by
  constructor
  · rintro ⟨condition, order⟩ field
    cases field with
    | condition => exact condition
    | order => exact order
    | limit => exact fun _ _ => trivial
    | skip => exact fun _ _ => trivial
  · intro sound
    exact ⟨sound .condition, sound .order⟩

theorem isWellFormed_empty : empty.IsWellFormed := by
  constructor
  · intro tree isSet
    cases isSet
  · intro order isSet
    cases isSet

/-- Taking in an object keeps a filter well formed. -/
theorem IsWellFormed.putMembers
    {filter : Filter}
    (wellFormed : filter.IsWellFormed)
    (members : Members) :
    (filter.putMembers members).IsWellFormed := by
  rw [isWellFormed_iff_isSound] at wellFormed ⊢
  intro field content held
  rw [Option.mem_def, get_putMembers] at held
  cases offered : members.get? field.key with
  | none =>
      rw [offered] at held
      exact wellFormed field content held
  | some value =>
      rw [offered] at held
      exact Field.isSound_of_contentOf held

/-- An offer keeps a filter well formed, whether the value is accepted or rejected. -/
theorem IsWellFormed.set_contentOf
    {filter : Filter}
    (wellFormed : filter.IsWellFormed)
    (field : Field)
    (value : Json) :
    (filter.set field (field.contentOf value)).IsWellFormed := by
  rw [isWellFormed_iff_isSound] at wellFormed ⊢
  intro other content held
  rw [Option.mem_def] at held
  by_cases same : field = other
  · subst same
    rw [get_set_self] at held
    exact Field.isSound_of_contentOf held
  · rw [get_set_of_ne same] at held
    exact wellFormed other content held

theorem IsWellFormed.combine
    {filter : Filter}
    (wellFormed : filter.IsWellFormed)
    (connective : Connective)
    {clauses : List Condition}
    (clausesWellFormed : ∀ clause ∈ clauses, clause.IsWellFormed) :
    (filter.combine connective clauses).IsWellFormed := by
  refine ⟨?_, wellFormed.order⟩
  intro tree built
  exact Condition.isWellFormed_of_combine
    (forall_mem_condition_append wellFormed.condition clausesWellFormed) built

/-- One step keeps a filter well formed, also when it fails. -/
theorem IsWellFormed.after
    {filter : Filter}
    (wellFormed : filter.IsWellFormed)
    {step : Step}
    (clausesWellFormed : ∀ clause ∈ step.clauses, clause.IsWellFormed) :
    (filter.after step).IsWellFormed := by
  cases step with
  | update members =>
      rw [after_update]
      exact wellFormed.putMembers members
  | offer field value =>
      rw [after_offer]
      exact wellFormed.set_contentOf field value
  | join connective clauses =>
      rw [after_join]
      exact wellFormed.combine connective clausesWellFormed

/-- A run from a well-formed filter goes through well-formed filters only. -/
theorem IsWellFormed.scanl
    {start : Filter}
    (wellFormed : start.IsWellFormed)
    {steps : List Step}
    (clausesWellFormed : ∀ step ∈ steps, ∀ clause ∈ step.clauses, clause.IsWellFormed) :
    ∀ filter ∈ steps.scanl Filter.after start, filter.IsWellFormed := by
  refine forall_mem_scanl wellFormed ?_
  intro step listed filter reached
  exact reached.after (clausesWellFormed step listed)

theorem isWellFormed_of_ofRequest
    {request : Json}
    {filter : Filter}
    (read : ofRequest request = .ok filter) :
    filter.IsWellFormed := by
  cases request with
  | object members =>
      rw [ofRequest_object] at read
      split at read
      · obtain rfl := Except.ok.inj read
        exact isWellFormed_empty.putMembers members
      · cases read
  | _ => cases read

/--
Every filter that a run from the empty filter goes through is well formed, whatever is offered, as long as
the joined clauses are; so is the filter of a request. The clauses are well formed when a request states
them, when they are built as comparisons and patterns, and when they are membership tests that are built
from values.
-/
theorem isWellFormed_of_run :
    (∀ steps : List Step,
        (∀ step ∈ steps, ∀ clause ∈ step.clauses, clause.IsWellFormed) →
          ∀ filter ∈ steps.scanl after empty, filter.IsWellFormed) ∧
      (∀ request filter, ofRequest request = .ok filter → filter.IsWellFormed) ∧
        (∀ value tree, Request.condition value = .ok tree → tree.IsWellFormed) ∧
          (∀ build ∈ [Condition.eq, Condition.neq, Condition.lt, Condition.lte, Condition.gt, Condition.gte],
            ∀ property value, (build property value).IsWellFormed) ∧
            (∀ build ∈ [Condition.like, Condition.notLike],
              ∀ property pattern, (build property pattern).IsWellFormed) ∧
              ∀ property op values membership,
                Membership.ofValues? property op values = some membership →
                  (Condition.member membership).IsWellFormed := by
  refine ⟨?_, ?_, ?_, ?_, ?_, ?_⟩
  · intro steps clausesWellFormed
    exact isWellFormed_empty.scanl clausesWellFormed
  · intro request filter read
    exact isWellFormed_of_ofRequest read
  · intro value tree read
    exact Request.isWellFormed_of_condition read
  · intro build listed property value
    exact Condition.isWellFormed_of_comparison_builder listed property value
  · intro build listed property pattern
    exact Condition.isWellFormed_of_pattern_builder listed property pattern
  · intro property op values membership built
    exact Condition.isWellFormed_member_iff.2 (Membership.isTyped_of_ofValues? built)

/-- A rejected condition, a group that is joined to nothing, and a list whose first scalar is a number. -/
def mixedRun : List Step :=
  [.offer .condition (.object [("and", .array [])]),
    .join .or [.like "name" "a%", .group .or [.eq "active" (.boolean true)]],
    .join .and [],
    .update
      [("where",
          .object
            [("year", .object [("in", .array [.null, .number (.ofUInt64 1999), .string "2000"])])]),
        ("order", .array [.null])]]

theorem isWellFormed_of_run_mixedRun :
    (∀ step ∈ mixedRun, ∀ clause ∈ step.clauses, clause.IsWellFormed) ∧
      (empty.run mixedRun).condition.isSome = true ∧
        ∀ filter ∈ mixedRun.scanl after empty, filter.IsWellFormed := by
  have clausesWellFormed : ∀ step ∈ mixedRun, ∀ clause ∈ step.clauses, clause.IsWellFormed := by
    intro step listed clause joined
    simp only [mixedRun, List.mem_cons, List.not_mem_nil, or_false] at listed
    rcases listed with rfl | rfl | rfl | rfl
    · cases joined
    · simp only [Step.clauses, List.mem_cons, List.not_mem_nil, or_false] at joined
      rcases joined with rfl | rfl
      · exact Condition.isWellFormed_compare_iff.2 (by decide)
      · refine Condition.isWellFormed_group_iff.2 ⟨by simp, ?_⟩
        intro child listed
        rw [List.mem_singleton.1 listed]
        exact Condition.isWellFormed_compare_iff.2 (by decide)
    · cases joined
    · cases joined
  exact ⟨clausesWellFormed, rfl, isWellFormed_of_run.1 mixedRun clausesWellFormed⟩

end Filter
end QueryFilter
