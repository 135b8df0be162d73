import Mathlib.Data.List.Induction
import QueryFilter.Proofs.Filter.Run

/-!
# Fields are independent over runs

After a run every field but the condition holds what the last value that was offered to it is read as, and
nothing when that value is rejected, so no content outlives a later rejection. The condition is that of the
run of the parts that concern it. Hence steps that do not concern a field may be left out or put in
anywhere.
-/

namespace QueryFilter
namespace Filter

/-- The value that a run offers last to a field, if it offers any. -/
def lastOffered? (field : Field) (steps : List Step) : Option Json :=
  (steps.filterMap (Step.offered? field)).getLast?

theorem lastOffered?_concat
    (field : Field)
    (steps : List Step)
    (step : Step) :
    lastOffered? field (steps ++ [step]) = (step.offered? field).or (lastOffered? field steps) := by
  rw [lastOffered?, lastOffered?, List.filterMap_append, List.getLast?_append]
  cases offered : step.offered? field <;> simp [offered]

/-- A field other than the condition holds what was offered to it last, or what it held at the start. -/
theorem get_run_of_ne
    {start : Filter}
    {field : Field}
    (other : field ≠ .condition)
    (steps : List Step) :
    (start.run steps).get field = (lastOffered? field steps).elim (start.get field) field.contentOf := by
  -- From the end, for the last step decides unless it offers nothing.
  induction steps using List.reverseRecOn with
  | nil => rfl
  | append_singleton earlier step inductionHypothesis =>
      rw [run_append, run_cons, run_nil, get_after_of_ne other, lastOffered?_concat, inductionHypothesis]
      cases step.offered? field <;> rfl

/-- On a field, a run does what the parts of its steps do that concern the field. -/
theorem get_run_parts
    {left right : Filter}
    {field : Field}
    (agree : left.get field = right.get field)
    (steps : List Step) :
    (left.run steps).get field = (right.run (steps.filterMap (Step.part? field))).get field := by
  induction steps generalizing left right with
  | nil => exact agree
  | cons step rest inductionHypothesis =>
      have afterStep := get_after_part agree step
      rw [run_cons]
      cases concerned : step.part? field with
      | none =>
          rw [concerned] at afterStep
          rw [List.filterMap_cons_none concerned]
          exact inductionHypothesis afterStep
      | some part =>
          rw [concerned] at afterStep
          rw [List.filterMap_cons_some concerned, run_cons]
          exact inductionHypothesis afterStep

/--
After any run, every field but the condition holds what the last value offered to it is read as, nothing
when that value is rejected, and its first content when none was offered. The condition is that of the run
of the parts that concern it. Runs that start with the same content of a field and differ only in what does
not concern the field end with the same content of it.
-/
theorem fields_independent (start : Filter) (steps : List Step) :
    (∀ field, field ≠ .condition →
        (start.run steps).get field =
          match lastOffered? field steps with
          | none => start.get field
          | some value =>
              match field.read value with
              | .ok content? => content?
              | .error _ => none) ∧
      (start.run steps).condition = (start.run (steps.filterMap (Step.part? .condition))).condition ∧
        ∀ (field : Field) (origin : Filter) (others : List Step),
          origin.get field = start.get field →
            others.filterMap (Step.part? field) = steps.filterMap (Step.part? field) →
              (origin.run others).get field = (start.run steps).get field := by
  refine ⟨?_, ?_, ?_⟩
  · intro field other
    rw [get_run_of_ne other]
    cases lastOffered? field steps <;> rfl
  · have agree : start.get .condition = start.get .condition := rfl
    exact get_run_parts agree steps
  · intro field origin others agree sameParts
    rw [get_run_parts agree others, get_run_parts rfl steps, sameParts]

/-- A run in which a limit is accepted and then rejected, between steps that fail for other fields. -/
def interleavedRun : List Step :=
  [.offer .limit (.number (.ofUInt64 3)),
    .update [("skip", .number (.ofUInt64 2)), ("where", .array [])],
    .offer .limit (.string "3"),
    .join .and [.eq "a" (.boolean true)],
    .offer .order (.null)]

theorem fields_independent_interleavedRun :
    (empty.run interleavedRun).get .limit = none ∧
      (empty.run interleavedRun).get .skip = some (2 : UInt64) ∧
        (empty.run interleavedRun).get .limit =
          (empty.run [.offer .limit (.number (.ofUInt64 3)), .offer .limit (.string "3")]).get .limit := by
  obtain ⟨ends, -, sameEnds⟩ := fields_independent empty interleavedRun
  refine ⟨?_, ?_, ?_⟩
  · exact ends .limit (by decide)
  · exact ends .skip (by decide)
  · exact (sameEnds .limit _ _ rfl rfl).symm

end Filter
end QueryFilter
