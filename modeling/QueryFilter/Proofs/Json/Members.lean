import Mathlib.Data.List.Nodup
import QueryFilter.Json.Value

/-!
# Members of objects

Lookup in members that are joined, left out or reordered. When no name occurs twice, a name has a value
exactly when the pair of them is a member, so the order of the members does not matter.
-/

namespace QueryFilter
namespace Members

theorem get?_append
    (members others : Members)
    (name : String) :
    get? (members ++ others) name = (members.get? name).or (others.get? name) := by
  induction members with
  | nil => rfl
  | cons member rest inductionHypothesis =>
      obtain ⟨present, value⟩ := member
      by_cases same : present = name
      · simp [get?, same]
      · simp [get?, same, inductionHypothesis]

@[simp] theorem get?_optional_self
    (name : String)
    (value? : Option Json) :
    (optional name value?).get? name = value? := by
  cases value? <;> simp [optional, get?]

theorem get?_optional_of_ne
    {name other : String}
    {value? : Option Json}
    (different : name ≠ other) :
    (optional name value?).get? other = none := by
  cases value? <;> simp [optional, get?, different]

/-- Members under other names can be left out of a lookup. -/
theorem get?_filter
    {keep : String → Bool}
    {name : String}
    (kept : keep name = true)
    (members : Members) :
    get? (members.filter fun member => keep member.1) name = members.get? name := by
  induction members with
  | nil => rfl
  | cons member rest inductionHypothesis =>
      obtain ⟨present, value⟩ := member
      by_cases same : present = name
      · subst same
        simp [get?, kept]
      · cases keepPresent : keep present <;> simp [get?, keepPresent, same, inductionHypothesis]

/-- When no name occurs twice, the value of a name is what the name is paired with. -/
theorem get?_eq_some_iff_mem
    {members : Members}
    {name : String}
    {value : Json}
    (distinct : (members.map Prod.fst).Nodup) :
    members.get? name = some value ↔ (name, value) ∈ members := by
  induction members with
  | nil => simp [get?]
  | cons member rest inductionHypothesis =>
      obtain ⟨present, first⟩ := member
      obtain ⟨absent, restDistinct⟩ := List.nodup_cons.1 distinct
      by_cases same : present = name
      · subst same
        have notLater : (present, value) ∉ rest := by
          intro later
          exact absent (List.mem_map.2 ⟨(present, value), later, rfl⟩)
        simp [get?, notLater, eq_comm]
      · simp [get?, same, Ne.symm same, inductionHypothesis restDistinct]

/-- When no name occurs twice, the order of the members does not matter to a lookup. -/
theorem get?_eq_of_perm
    {members others : Members}
    (reordered : members.Perm others)
    (distinct : (members.map Prod.fst).Nodup)
    (name : String) :
    members.get? name = others.get? name := by
  have othersDistinct : (others.map Prod.fst).Nodup := (reordered.map Prod.fst).nodup_iff.1 distinct
  apply Option.ext
  intro value
  rw [get?_eq_some_iff_mem distinct, get?_eq_some_iff_mem othersDistinct, reordered.mem_iff]

theorem mem_of_get?
    {members : Members}
    {name : String}
    {value : Json}
    (found : members.get? name = some value) :
    (name, value) ∈ members := by
  induction members with
  | nil => cases found
  | cons member rest inductionHypothesis =>
      obtain ⟨present, first⟩ := member
      rw [get?] at found
      split at found
      case isTrue same =>
        obtain rfl := Option.some.inj found
        rw [same]
        exact List.mem_cons_self
      case isFalse => exact List.mem_cons_of_mem _ (inductionHypothesis found)

theorem forall_mem_optional_iff
    {good : String × Json → Prop}
    {name : String}
    {value? : Option Json} :
    (∀ member ∈ optional name value?, good member) ↔ ∀ value ∈ value?, good (name, value) := by
  cases value? <;> simp [optional]

/-- A value among members after an insertion is the inserted one or was there before. -/
theorem eq_or_mem_of_mem_insert
    {members : Members}
    {name : String}
    {value : Json}
    {member : String × Json}
    (listed : member ∈ members.insert name value) :
    member.2 = value ∨ member ∈ members := by
  induction members with
  | nil =>
      obtain rfl := List.mem_singleton.1 listed
      exact .inl rfl
  | cons first rest inductionHypothesis =>
      rw [insert] at listed
      split at listed
      all_goals rcases List.mem_cons.1 listed with rfl | later
      · exact .inl rfl
      · exact .inr (List.mem_cons_of_mem _ later)
      · exact .inr List.mem_cons_self
      · exact (inductionHypothesis later).imp_right (List.mem_cons_of_mem _)

end Members
end QueryFilter
