import QueryFilter.Proofs.Condition

/-!
# Three-valued truth of conditions

Whether a leaf holds of a row can be unknown, where a field has no value. A group is as true as its
connective makes of its children: a conjunction is true when all of them are and false when one of them is,
a disjunction the other way round, and a group is unknown otherwise. So an empty conjunction is true and an
empty disjunction false.
-/

namespace QueryFilter

/-- A truth value of three-valued logic. -/
inductive Truth
  | no
  | unknown
  | yes
  deriving DecidableEq, Repr

namespace Truth

/-- True when both are, false when one of them is. -/
def and : Truth → Truth → Truth
  | .yes, right =>
      right
  | .no, _ =>
      .no
  | .unknown, .no =>
      .no
  | .unknown, _ =>
      .unknown

/-- False when both are, true when one of them is. -/
def or : Truth → Truth → Truth
  | .no, right =>
      right
  | .yes, _ =>
      .yes
  | .unknown, .yes =>
      .yes
  | .unknown, _ =>
      .unknown

theorem and_eq_yes_iff
    {left right : Truth} :
    left.and right = .yes ↔ left = .yes ∧ right = .yes := by
  cases left <;> cases right <;> decide

end Truth

namespace Connective

/-- The truth of two conditions that are joined. -/
def join : Connective → Truth → Truth → Truth
  | .and =>
      Truth.and
  | .or =>
      Truth.or

/-- The truth of no conditions at all. -/
def neutral : Connective → Truth
  | .and =>
      .yes
  | .or =>
      .no

theorem join_assoc
    (connective : Connective)
    (first second third : Truth) :
    connective.join (connective.join first second) third =
      connective.join first (connective.join second third) := by
  cases connective <;> cases first <;> cases second <;> cases third <;> rfl

@[simp] theorem neutral_join
    (connective : Connective)
    (truth : Truth) :
    connective.join connective.neutral truth = truth := by
  cases connective <;> rfl

@[simp] theorem join_neutral
    (connective : Connective)
    (truth : Truth) :
    connective.join truth connective.neutral = truth := by
  cases connective <;> cases truth <;> rfl

end Connective

/-- A truth value for every leaf. -/
structure Assignment where
  /-- The truth of a comparison. -/
  comparison : Comparison → Truth
  /-- The truth of a membership test. -/
  membership : Membership → Truth

namespace Condition

mutual

/-- The truth of a condition. -/
def truth (assignment : Assignment) : Condition → Truth
  | .group connective children =>
      joined assignment connective children
  | .compare comparison =>
      assignment.comparison comparison
  | .member membership =>
      assignment.membership membership

/-- The truth of conditions in a row under a connective. -/
def joined (assignment : Assignment) (connective : Connective) : List Condition → Truth
  | [] =>
      connective.neutral
  | first :: rest =>
      connective.join (first.truth assignment) (joined assignment connective rest)

end

theorem truth_group
    (assignment : Assignment)
    (connective : Connective)
    (children : List Condition) :
    (group connective children).truth assignment = joined assignment connective children := by
  rw [truth]

@[simp] theorem joined_nil
    (assignment : Assignment)
    (connective : Connective) :
    joined assignment connective [] = connective.neutral := by
  rw [joined]

@[simp] theorem joined_cons
    (assignment : Assignment)
    (connective : Connective)
    (first : Condition)
    (rest : List Condition) :
    joined assignment connective (first :: rest) =
      connective.join (first.truth assignment) (joined assignment connective rest) := by
  rw [joined]

theorem joined_append
    (assignment : Assignment)
    (connective : Connective)
    (conditions others : List Condition) :
    joined assignment connective (conditions ++ others) =
      connective.join (joined assignment connective conditions) (joined assignment connective others) := by
  induction conditions with
  | nil => simp
  | cons first rest inductionHypothesis => simp [inductionHypothesis, Connective.join_assoc]

/-- A conjunction is true exactly when all of the conditions are. -/
theorem joined_and_eq_yes_iff
    {assignment : Assignment}
    {conditions : List Condition} :
    joined assignment .and conditions = .yes ↔ ∀ tree ∈ conditions, tree.truth assignment = .yes := by
  induction conditions with
  | nil => simp [Connective.neutral]
  | cons first rest inductionHypothesis =>
      rw [joined_cons, List.forall_mem_cons, ← inductionHypothesis, Connective.join, Truth.and_eq_yes_iff]

end Condition
end QueryFilter
