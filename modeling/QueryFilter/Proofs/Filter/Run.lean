import QueryFilter.Proofs.Filter.Update

/-!
# Steps and runs

A filter is changed step by step: by taking in an object, by an offer to one field, and by joining clauses
to the condition. A run is a list of steps; a fault of a step is reported and does not end the run. Of every
step it is said here which part of it concerns a field, and that the rest of it leaves the field alone.
-/

namespace QueryFilter
namespace Filter

/-- A change of a filter. -/
inductive Step
  /-- Offer the members of an object to the fields that they name. -/
  | update (members : Members)
  /-- Offer a value to a field. -/
  | offer (field : Field) (value : Json)
  /-- Require further clauses as well, or admit them instead. -/
  | join (connective : Connective) (clauses : List Condition)

namespace Step

/-- The filter after a step, and the fault that the step reports. -/
def apply (filter : Filter) : Step → Filter × Option Fault
  | .update members =>
      filter.update members
  | .offer field value =>
      filter.offer field value
  | .join .and clauses =>
      (filter.and clauses, none)
  | .join .or clauses =>
      (filter.or clauses, none)

/-- The clauses that a step joins to the condition. -/
def clauses : Step → List Condition
  | .update _ =>
      []
  | .offer _ _ =>
      []
  | .join _ clauses =>
      clauses

/-- The value that a step offers to a field, if it offers one. -/
def offered? (field : Field) : Step → Option Json
  | .update members =>
      members.get? field.key
  | .offer target value =>
      if target = field then some value else none
  | .join _ _ =>
      none

/--
The part of a step that concerns a field: of an object the one member under the key of the field, an offer
to the field itself, and for the condition the clauses that are joined.
-/
def part? (field : Field) : Step → Option Step
  | .update members =>
      (members.get? field.key).map fun value => .update [(field.key, value)]
  | .offer target value =>
      if target = field then some (.offer target value) else none
  | .join connective clauses =>
      if field = .condition then some (.join connective clauses) else none

end Step

/-- The filter after a step, whatever the step reports. -/
def after (filter : Filter) (step : Step) : Filter :=
  (step.apply filter).1

/-- The filter after the steps of a run. -/
def run (filter : Filter) (steps : List Step) : Filter :=
  steps.foldl after filter

@[simp] theorem after_update (filter : Filter) (members : Members) :
    filter.after (.update members) = filter.putMembers members := by
  rw [after, Step.apply, update_eq]

@[simp] theorem after_offer (filter : Filter) (field : Field) (value : Json) :
    filter.after (.offer field value) = filter.set field (field.contentOf value) := by
  rw [after, Step.apply, offer_eq]

@[simp] theorem after_join (filter : Filter) (connective : Connective) (clauses : List Condition) :
    filter.after (.join connective clauses) = filter.combine connective clauses := by
  cases connective <;> rfl

@[simp] theorem run_nil (filter : Filter) : filter.run [] = filter := rfl

@[simp] theorem run_cons (filter : Filter) (step : Step) (rest : List Step) :
    filter.run (step :: rest) = (filter.after step).run rest := rfl

theorem run_append
    (filter : Filter)
    (steps others : List Step) :
    filter.run (steps ++ others) = (filter.run steps).run others :=
  List.foldl_append

/-- What holds at the start and is kept by every step of a run holds of all filters that the run goes through. -/
theorem forall_mem_scanl
    {good : Filter → Prop}
    {start : Filter}
    {steps : List Step}
    (atStart : good start)
    (kept : ∀ step ∈ steps, ∀ filter, good filter → good (filter.after step)) :
    ∀ filter ∈ steps.scanl after start, good filter := by
  induction steps generalizing start with
  | nil =>
      intro filter visited
      rw [List.scanl_nil, List.mem_singleton] at visited
      rw [visited]
      exact atStart
  | cons step rest inductionHypothesis =>
      intro filter visited
      rw [List.scanl_cons, List.mem_cons] at visited
      rcases visited with rfl | later
      · exact atStart
      · have afterStep := kept step List.mem_cons_self start atStart
        refine inductionHypothesis afterStep ?_ filter later
        intro other listed
        exact kept other (List.mem_cons_of_mem step listed)

/-- Joining clauses changes the condition alone. -/
theorem get_combine_of_ne
    {filter : Filter}
    {connective : Connective}
    {clauses : List Condition}
    {field : Field}
    (other : field ≠ .condition) :
    (filter.combine connective clauses).get field = filter.get field := by
  cases field with
  | condition => contradiction
  | order => rfl
  | limit => rfl
  | skip => rfl

/-- What holds of the condition and of clauses holds of all that is combined when these are joined to it. -/
theorem forall_mem_condition_append
    {good : Condition → Prop}
    {filter : Filter}
    {clauses : List Condition}
    (present : ∀ tree ∈ filter.condition, good tree)
    (added : ∀ clause ∈ clauses, good clause) :
    ∀ tree ∈ filter.condition.toList ++ clauses, good tree := by
  rw [List.forall_mem_append]
  refine ⟨?_, added⟩
  intro tree isSet
  exact present tree (Option.mem_toList.1 isSet)

/-- What the condition becomes does not depend on the other fields. -/
theorem condition_combine_congr
    {left right : Filter}
    {connective : Connective}
    {clauses : List Condition}
    (agree : left.condition = right.condition) :
    (left.combine connective clauses).condition = (right.combine connective clauses).condition := by
  rw [combine, combine, agree]

/-- After a step a field other than the condition holds what the step offers it, or what it held before. -/
theorem get_after_of_ne
    {filter : Filter}
    {step : Step}
    {field : Field}
    (other : field ≠ .condition) :
    (filter.after step).get field = (step.offered? field).elim (filter.get field) field.contentOf := by
  cases step with
  | update members => rw [after_update, get_putMembers, Step.offered?]
  | offer target value =>
      rw [after_offer, Step.offered?]
      split_ifs with same
      · subst same
        exact get_set_self filter target (target.contentOf value)
      · exact get_set_of_ne same
  | join connective clauses =>
      rw [after_join]
      exact get_combine_of_ne other

/-- Filters that agree on a field still agree on it after a step of the one and its part for the other. -/
theorem get_after_part
    {left right : Filter}
    {field : Field}
    (agree : left.get field = right.get field)
    (step : Step) :
    (left.after step).get field = ((step.part? field).elim right right.after).get field := by
  cases step with
  | update members =>
      rw [after_update, get_putMembers, Step.part?]
      cases members.get? field.key with
      | none => exact agree
      | some value => simp [get_putMembers, Members.get?]
  | offer target value =>
      rw [after_offer, Step.part?]
      split_ifs with same
      · subst same
        rw [get_set_self, Option.elim_some, after_offer, get_set_self]
      · rw [get_set_of_ne same]
        exact agree
  | join connective clauses =>
      rw [after_join, Step.part?]
      split_ifs with isCondition
      · subst isCondition
        rw [Option.elim_some, after_join]
        exact condition_combine_congr agree
      · rw [get_combine_of_ne isCondition]
        exact agree

end Filter
end QueryFilter
