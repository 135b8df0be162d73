import Mathlib.Data.List.Nodup
import QueryFilter.Proofs.Condition
import QueryFilter.Proofs.Elements
import QueryFilter.Proofs.Json.Members
import QueryFilter.Stored.Read

/-!
# Stored values are read back

Every filter, and every part of one, is read back from its stored form as it was, also where no request could
have stated it: empty groups, lists that are empty or of mixed kinds, tags that fit no listed value, patterns
that are numbers, and orders without clauses.
-/

namespace QueryFilter

/-! ## Parts -/

namespace Stored

/-- Among values of distinct names a value is read back from its name. -/
theorem named?_string
    {values : List α}
    {nameOf : α → String}
    (distinct : (values.map nameOf).Nodup)
    {value : α}
    (listed : value ∈ values) :
    named? values nameOf (.string (nameOf value)) = some value := by
  show values.find? (fun other => nameOf other == nameOf value) = some value
  induction values with
  | nil => cases listed
  | cons first rest inductionHypothesis =>
      obtain ⟨absent, restDistinct⟩ := List.nodup_cons.1 distinct
      rcases List.mem_cons.1 listed with rfl | later
      · simp
      · have different : nameOf first ≠ nameOf value := by
          intro same
          exact absent (same ▸ List.mem_map_of_mem later)
        rw [List.find?_cons_of_neg (by simpa using different)]
        exact inductionHypothesis restDistinct later

/-- An array of written values is read back when each of them is. -/
theorem each?_array_map
    {write : α → Json}
    {read : Json → Option α}
    {values : List α}
    (each : ∀ value ∈ values, read (write value) = some value) :
    each? read (.array (values.map write)) = some values := by
  rw [each?, mapM_map_eq_some each, List.map_id']

/-- A part is read back, set or not, when no value of it is written as null. -/
theorem optional?_getD_map
    {write : α → Json}
    {read : Json → Option α}
    (readBack : ∀ value, read (write value) = some value)
    (notNull : ∀ value, write value ≠ .null)
    (part? : Option α) :
    optional? read ((part?.map write).getD .null) = some part? := by
  cases part? with
  | none => rfl
  | some value =>
      rw [Option.map_some, Option.getD_some, optional?, readBack, Option.map_some]
      exact notNull value

theorem count?_ofUInt64 (count : UInt64) : count? (.ofUInt64 count) = some count := by
  simp [Json.ofUInt64, Number.ofUInt64, count?]

end Stored

theorem ScalarKind.ofStored?_toStored (kind : ScalarKind) : ofStored? kind.toStored = some kind :=
  Stored.named?_string (by decide) (by cases kind <;> decide)

theorem ComparisonOp.ofStored?_storedName (op : ComparisonOp) :
    ofStored? (.string op.storedName) = some op :=
  Stored.named?_string (by decide) (by cases op <;> decide)

theorem MembershipOp.ofStored?_storedName (op : MembershipOp) :
    ofStored? (.string op.storedName) = some op :=
  Stored.named?_string (by decide) (by cases op <;> decide)

/-! ## Conditions -/

theorem Comparison.ofStored?_toStored (comparison : Comparison) :
    ofStored? comparison.toStored = some comparison := by
  obtain ⟨property, op, value⟩ := comparison
  have parts : ofParts? (.string property) (.string op.storedName) value.toJson =
      some { property, op, value } := by
    simp [ofParts?, Stored.text?, ComparisonOp.ofStored?_storedName]
  simpa [toStored, ofStored?, Members.get?] using parts

theorem Membership.ofStored?_toStored (membership : Membership) :
    ofStored? membership.toStored = some membership := by
  obtain ⟨property, op, datatype, values⟩ := membership
  have listed : Stored.each? Scalar.ofJson? (.array (values.map Scalar.toJson)) = some values :=
    Stored.each?_array_map fun value _ => value.ofJson?_toJson
  have parts :
      ofParts? (.string property) (.string op.storedName) datatype.toStored
          (.array (values.map Scalar.toJson)) =
        some { property, op, datatype, values } := by
    simp [ofParts?, Stored.text?, MembershipOp.ofStored?_storedName, ScalarKind.ofStored?_toStored, listed]
  simpa [toStored, ofStored?, Members.get?] using parts

namespace Condition

/-- Under the key of a connective, what the elements store are the children of a group. -/
theorem ofStored?_connective
    (connective : Connective)
    (elements : List Json) :
    ofStored? (.single connective.storedKey (.array elements)) =
      (elements.mapM ofStored?).map (.group connective) := by
  rw [← ofStoredEach?_eq_mapM]
  cases connective <;> simp [Json.single, ofStored?, Connective.storedKey]

/-- A condition is read back, by the groups of the tree. -/
theorem ofStored?_toStored (tree : Condition) : ofStored? tree.toStored = some tree := by
  induction tree using Condition.groupInduction with
  | group connective children each =>
      have childrenRead : (children.map toStored).mapM ofStored? = some children := by
        rw [mapM_map_eq_some each, List.map_id']
      rw [toStored, toStoredEach_eq_map, ofStored?_connective, childrenRead, Option.map_some]
  | compare comparison =>
      have leaf : ofStored? (compare comparison).toStored =
          (Comparison.ofStored? comparison.toStored).map compare := by
        rfl
      rw [leaf, comparison.ofStored?_toStored, Option.map_some]
  | member membership =>
      have leaf : ofStored? (member membership).toStored =
          (Membership.ofStored? membership.toStored).map member := by
        rfl
      rw [leaf, membership.ofStored?_toStored, Option.map_some]

theorem toStored_ne_null (tree : Condition) : tree.toStored ≠ .null := by
  cases tree <;> simp [toStored, Json.single]

end Condition

/-! ## Orders and filters -/

theorem Order.ofStored?_toStored (order : Order) : ofStored? order.toStored = some order := by
  obtain ⟨clauses⟩ := order
  have read : Stored.each? Stored.text? (.array (clauses.map Json.string)) = some clauses :=
    Stored.each?_array_map fun _ _ => rfl
  rw [toStored, ofStored?, read, Option.map_some]

namespace Filter

/-- The object of a filter has a part for each field that is set. -/
theorem exists_toStored_eq_object (filter : Filter) :
    ∃ members : Members, filter.toStored = .object members ∧
      partOf members .condition = (filter.condition.map Condition.toStored).getD .null ∧
        partOf members .order = (filter.order.map Order.toStored).getD .null ∧
          partOf members .limit = (filter.limit.map Json.ofUInt64).getD .null ∧
            partOf members .skip = (filter.skip.map Json.ofUInt64).getD .null := by
  refine ⟨_, rfl, ?_, ?_, ?_, ?_⟩ <;>
    simp [partOf, Field.key, Members.get?_append, Members.get?_optional_of_ne]

theorem ofStored?_toStored (filter : Filter) : ofStored? filter.toStored = some filter := by
  obtain ⟨members, object, conditionPart, orderPart, limitPart, skipPart⟩ := filter.exists_toStored_eq_object
  have condition := Stored.optional?_getD_map Condition.ofStored?_toStored Condition.toStored_ne_null
    filter.condition
  have order := Stored.optional?_getD_map Order.ofStored?_toStored (by simp [Order.toStored]) filter.order
  have limit := Stored.optional?_getD_map Stored.count?_ofUInt64 (by simp [Json.ofUInt64]) filter.limit
  have skip := Stored.optional?_getD_map Stored.count?_ofUInt64 (by simp [Json.ofUInt64]) filter.skip
  rw [object, ofStored?, conditionPart, orderPart, limitPart, skipPart, ofParts?, condition, order, limit,
    skip]
  rfl

end Filter

/--
Every filter is read back from its stored form as it was, and so is every condition, comparison, membership
test, order and scalar by itself. A value stores at most one scalar: it is read as a scalar only when it is
the value of that scalar, so strings, numbers and booleans are kept apart, and a number stays the integer or
the binary64 value that it is.
-/
theorem stored_roundTrip :
    (∀ filter : Filter, Filter.ofStored? filter.toStored = some filter) ∧
      (∀ tree : Condition, Condition.ofStored? tree.toStored = some tree) ∧
        (∀ comparison : Comparison, Comparison.ofStored? comparison.toStored = some comparison) ∧
          (∀ membership : Membership, Membership.ofStored? membership.toStored = some membership) ∧
            (∀ order : Order, Order.ofStored? order.toStored = some order) ∧
              ∀ (scalar : Scalar) (value : Json),
                Scalar.ofJson? value = some scalar ↔ value = scalar.toJson := by
  refine ⟨?_, ?_, ?_, ?_, ?_, ?_⟩
  · exact Filter.ofStored?_toStored
  · exact Condition.ofStored?_toStored
  · exact Comparison.ofStored?_toStored
  · exact Membership.ofStored?_toStored
  · exact Order.ofStored?_toStored
  · intro scalar value
    exact Scalar.ofJson?_eq_some_iff

end QueryFilter
