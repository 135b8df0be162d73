import QueryFilter.Proofs.Condition.WellFormed
import QueryFilter.Proofs.Request.Derivation

/-!
# Requests state well-formed conditions

Whatever a value is read as is well formed: the grammar has no empty group, asks a string of every pattern,
and keeps of a list the scalars of the kind of the first one. So are the conditions that are built in code.
-/

namespace QueryFilter

/-- A membership test that is built from values lists at least the first one of them. -/
theorem Membership.isTyped_of_ofValues?
    {property : String}
    {op : MembershipOp}
    {values : List Scalar}
    {membership : Membership}
    (built : ofValues? property op values = some membership) :
    membership.IsTyped := by
  refine ⟨?_, fun value listed => kind_eq_datatype_of_ofValues? built listed⟩
  cases values with
  | nil => cases built
  | cons first rest =>
      obtain rfl := Option.some.inj built
      have listed : first ∈ (first :: rest).filter fun value => value.kind = first.kind :=
        List.mem_filter.2 ⟨List.mem_cons_self, by simp⟩
      exact List.ne_nil_of_mem listed

/-- The scalars that have the kind of the first one are at least that one. -/
theorem Membership.isTyped_of_isFirst
    {property : String}
    {op : MembershipOp}
    {elements : List Json}
    {first : Scalar}
    {values : List Scalar}
    (isFirst : Scalar.IsFirst elements first)
    (selected : Scalar.AreOfKind first.kind elements values) :
    Membership.IsTyped { property, op, datatype := first.kind, values } := by
  rw [Scalar.isFirst_iff] at isFirst
  rw [Scalar.areOfKind_iff] at selected
  obtain ⟨rest, scalars⟩ := List.head?_eq_some_iff.1 isFirst
  have built : ofValues? property op (first :: rest) =
      some { property, op, datatype := first.kind, values } := by
    rw [ofValues?, ← scalars, selected]
  exact isTyped_of_ofValues? built

namespace Request

/-- What a value derives is well formed, rule by rule. -/
theorem Derives.isWellFormed
    {value : Json}
    {tree : Condition}
    (derives : Derives value tree) :
    tree.IsWellFormed := by
  induction derives with
  | @group key connective derived spelled nonempty _ inductionHypothesis =>
      refine Condition.isWellFormed_group_iff.2 ⟨by simpa using nonempty, ?_⟩
      intro child listed
      obtain ⟨pair, member, rfl⟩ := List.mem_map.1 listed
      exact inductionHypothesis pair member
  | equality isName =>
      rw [Condition.isWellFormed_compare_iff]
      intro isPattern
      cases isPattern
  | comparison isName spelled =>
      rw [Condition.isWellFormed_compare_iff]
      intro isPattern
      exact absurd isPattern (by simp [isPattern_eq_false_of_spells spelled])
  | pattern isName spelled =>
      rw [Condition.isWellFormed_compare_iff]
      intro isPattern
      rfl
  | membership isName spelled isFirst selected =>
      rw [Condition.isWellFormed_member_iff]
      exact Membership.isTyped_of_isFirst isFirst selected

/-- A condition that a request states is well formed. -/
theorem isWellFormed_of_condition
    {value : Json}
    {tree : Condition}
    (read : condition value = .ok tree) :
    tree.IsWellFormed := by
  cases value with
  | object members => exact (derives_of_statement read).isWellFormed
  | _ => cases read

end Request

namespace Condition

/-- A comparison with any scalar is well formed under every operator that takes any scalar. -/
theorem isWellFormed_of_comparison_builder
    {build : String → Scalar → Condition}
    (listed : build ∈ [eq, neq, lt, lte, gt, gte])
    (property : String)
    (value : Scalar) :
    (build property value).IsWellFormed := by
  simp only [List.mem_cons, List.not_mem_nil, or_false] at listed
  rcases listed with rfl | rfl | rfl | rfl | rfl | rfl <;>
    exact isWellFormed_compare_iff.2 fun isPattern => by cases isPattern

/-- A comparison with a pattern is well formed. -/
theorem isWellFormed_of_pattern_builder
    {build : String → String → Condition}
    (listed : build ∈ [like, notLike])
    (property pattern : String) :
    (build property pattern).IsWellFormed := by
  simp only [List.mem_cons, List.not_mem_nil, or_false] at listed
  rcases listed with rfl | rfl <;> exact isWellFormed_compare_iff.2 fun _ => rfl

end Condition
end QueryFilter
