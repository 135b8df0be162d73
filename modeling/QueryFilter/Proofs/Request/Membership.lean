import QueryFilter.Proofs.Request.WellFormed

/-!
# Membership tests over mixed arrays

A membership test over an array has the kind of the first scalar and lists exactly the elements of that kind.
So elements that are no scalars may stand anywhere, and scalars of other kinds anywhere behind the first one,
without a difference, and arrays of one kind may be joined.
-/

namespace QueryFilter

/-- The kind of the scalar that a value is, if it is one. -/
def Json.kind? : Json → Option ScalarKind
  | .string _ =>
      some .string
  | .number _ =>
      some .number
  | .bool _ =>
      some .boolean
  | .null | .array _ | .object _ =>
      none

namespace Scalar

theorem kind?_eq_map_kind (value : Json) : value.kind? = (ofJson? value).map kind := by
  cases value <;> rfl

/-- The first kind among the elements is that of the first scalar. -/
theorem findSome?_kind?_eq_some_iff
    {elements : List Json}
    {kind : ScalarKind} :
    elements.findSome? Json.kind? = some kind ↔ ∃ first, IsFirst elements first ∧ first.kind = kind := by
  rw [funext kind?_eq_map_kind, ← List.head?_filterMap, ← List.map_filterMap, List.head?_map,
    Option.map_eq_some_iff]
  exact exists_congr fun first => and_congr_left fun _ => isFirst_iff.symm

/-- The scalars of a kind among the elements of an array, in order. -/
def ofKind (kind : ScalarKind) (elements : List Json) : List Scalar :=
  (elements.filterMap ofJson?).filter fun scalar => scalar.kind = kind

/-- The scalars of a kind are, as values, exactly the elements of that kind. -/
theorem map_toJson_ofKind
    (kind : ScalarKind)
    (elements : List Json) :
    (ofKind kind elements).map toJson = elements.filter fun element => element.kind? = some kind := by
  rw [ofKind]
  induction elements with
  | nil => rfl
  | cons element rest inductionHypothesis =>
      have ofElement := kind?_eq_map_kind element
      cases read : ofJson? element with
      | none =>
          rw [read, Option.map_none] at ofElement
          rw [List.filterMap_cons_none read, inductionHypothesis, List.filter_cons_of_neg (by simp [ofElement])]
      | some scalar =>
          rw [read, Option.map_some] at ofElement
          obtain rfl := ofJson?_eq_some_iff.1 read
          rw [List.filterMap_cons_some read]
          by_cases ofThisKind : scalar.kind = kind
          · rw [List.filter_cons_of_pos (by simpa using ofThisKind), List.map_cons, inductionHypothesis,
              List.filter_cons_of_pos (by simpa [ofElement] using ofThisKind)]
          · rw [List.filter_cons_of_neg (by simpa using ofThisKind), inductionHypothesis,
              List.filter_cons_of_neg (by simpa [ofElement] using ofThisKind)]

theorem ofKind_append
    (kind : ScalarKind)
    (elements others : List Json) :
    ofKind kind (elements ++ others) = ofKind kind elements ++ ofKind kind others := by
  rw [ofKind, List.filterMap_append, List.filter_append, ofKind, ofKind]

/-- Among elements of other kinds there is no scalar of the kind. -/
theorem ofKind_eq_nil
    {kind : ScalarKind}
    {elements : List Json}
    (others : ∀ element ∈ elements, element.kind? ≠ some kind) :
    ofKind kind elements = [] := by
  rw [← List.map_eq_nil_iff (f := toJson), map_toJson_ofKind, List.filter_eq_nil_iff]
  simpa using others

end Scalar

/-- A membership test whose values fit its kind is the one that is built from its values. -/
theorem Membership.ofValues?_values
    {membership : Membership}
    (isTyped : membership.IsTyped) :
    ofValues? membership.property membership.op membership.values = some membership := by
  obtain ⟨property, op, datatype, values⟩ := membership
  obtain ⟨nonempty, ofDatatype⟩ := isTyped
  obtain ⟨first, rest, rfl⟩ := List.exists_cons_of_ne_nil nonempty
  obtain rfl : first.kind = datatype := ofDatatype first List.mem_cons_self
  have unfiltered : (first :: rest).filter (fun value => value.kind = first.kind) = first :: rest := by
    rw [List.filter_eq_self]
    intro value listed
    exact decide_eq_true (ofDatatype value listed)
  rw [ofValues?, unfiltered]

namespace Request

/-- A membership test over an array, with the kind of the first scalar. -/
theorem operation_array_of_kind
    {key : String}
    {op : MembershipOp}
    (spelled : Spells membershipWords key op)
    (name : String)
    {elements : List Json}
    {kind : ScalarKind}
    (first : elements.findSome? Json.kind? = some kind) :
    operation name key (.array elements) =
      .ok (.member { property := name, op, datatype := kind, values := Scalar.ofKind kind elements }) := by
  obtain ⟨scalar, isFirst, rfl⟩ := Scalar.findSome?_kind?_eq_some_iff.1 first
  rw [operation_membership spelled]
  exact membership_array_of_isFirst isFirst (Scalar.areOfKind_iff.2 rfl)

theorem operation_array_of_no_kind
    {key : String}
    {op : MembershipOp}
    (spelled : Spells membershipWords key op)
    (name : String)
    {elements : List Json}
    (noKind : elements.findSome? Json.kind? = none) :
    operation name key (.array elements) = .error (.emptyArray name) := by
  rw [operation_membership spelled]
  apply membership_array_of_no_scalar
  intro first isFirst
  have found := Scalar.findSome?_kind?_eq_some_iff.2 ⟨first, isFirst, rfl⟩
  cases noKind.symm.trans found

/-- Arrays with the same first kind and the same scalars of that kind are read alike. -/
theorem operation_array_congr
    {key : String}
    {op : MembershipOp}
    (spelled : Spells membershipWords key op)
    (name : String)
    {elements others : List Json}
    (sameFirst : elements.findSome? Json.kind? = others.findSome? Json.kind?)
    (sameScalars : ∀ kind, elements.findSome? Json.kind? = some kind →
      Scalar.ofKind kind elements = Scalar.ofKind kind others) :
    operation name key (.array elements) = operation name key (.array others) := by
  cases first : elements.findSome? Json.kind? with
  | none =>
      rw [operation_array_of_no_kind spelled name first,
        operation_array_of_no_kind spelled name (sameFirst.symm.trans first)]
  | some kind =>
      rw [operation_array_of_kind spelled name first,
        operation_array_of_kind spelled name (sameFirst.symm.trans first), sameScalars kind first]

/-- Elements that are no scalars may be put in or left out anywhere. -/
theorem operation_array_insert_other
    {key : String}
    {op : MembershipOp}
    (spelled : Spells membershipWords key op)
    (name : String)
    (front back : List Json)
    {inserted : List Json}
    (noScalars : ∀ element ∈ inserted, element.kind? = none) :
    operation name key (.array (front ++ inserted ++ back)) = operation name key (.array (front ++ back)) := by
  apply operation_array_congr spelled
  · have noKind : inserted.findSome? Json.kind? = none := List.findSome?_eq_none_iff.2 noScalars
    rw [List.findSome?_append, List.findSome?_append, noKind, Option.or_none, List.findSome?_append]
  · intro kind _
    have noneOfKind : Scalar.ofKind kind inserted = [] := by
      apply Scalar.ofKind_eq_nil
      intro element listed
      rw [noScalars element listed]
      exact nofun
    rw [Scalar.ofKind_append, Scalar.ofKind_append, noneOfKind, List.append_nil, Scalar.ofKind_append]

/-- Behind a scalar, elements that have not the kind of the first one may be put in or left out anywhere. -/
theorem operation_array_insert_of_kind_ne
    {key : String}
    {op : MembershipOp}
    (spelled : Spells membershipWords key op)
    (name : String)
    {front : List Json}
    (back : List Json)
    {inserted : List Json}
    {kind : ScalarKind}
    (first : front.findSome? Json.kind? = some kind)
    (otherKinds : ∀ element ∈ inserted, element.kind? ≠ some kind) :
    operation name key (.array (front ++ inserted ++ back)) = operation name key (.array (front ++ back)) := by
  have firstInFront : ∀ behind, (front ++ behind).findSome? Json.kind? = some kind := by
    intro behind
    rw [List.findSome?_append, first, Option.some_or]
  apply operation_array_congr spelled
  · rw [List.append_assoc, firstInFront, firstInFront]
  · intro other found
    rw [List.append_assoc, firstInFront] at found
    obtain rfl := Option.some.inj found
    rw [Scalar.ofKind_append, Scalar.ofKind_append, Scalar.ofKind_eq_nil otherKinds, List.append_nil,
      Scalar.ofKind_append]

/--
A membership test over an array without scalars is rejected as empty. Over any other array it has the kind of
the first scalar, its values are exactly the elements of that kind, and built from these values it is the
same again. It stays the same when elements that are no scalars are put in or left out anywhere, or elements
of other kinds anywhere behind the first scalar. The values over two arrays of the same kind, one behind the
other, are those over the one and then those over the other.
-/
theorem membership_keeps_kind_of_first_scalar
    {key : String}
    {op : MembershipOp}
    (spelled : Spells membershipWords key op)
    (name : String) :
    (∀ elements : List Json, (∀ element ∈ elements, element.kind? = none) →
        operation name key (.array elements) = .error (.emptyArray name)) ∧
      (∀ (elements : List Json) (kind : ScalarKind), elements.findSome? Json.kind? = some kind →
        ∃ values : List Scalar,
          values.map Scalar.toJson = elements.filter (fun element => element.kind? = some kind) ∧
            operation name key (.array elements) =
              .ok (.member { property := name, op, datatype := kind, values }) ∧
              Membership.ofValues? name op values =
                some { property := name, op, datatype := kind, values }) ∧
        (∀ front inserted back : List Json, (∀ element ∈ inserted, element.kind? = none) →
          operation name key (.array (front ++ inserted ++ back)) =
            operation name key (.array (front ++ back))) ∧
          (∀ (front inserted back : List Json) (kind : ScalarKind),
            front.findSome? Json.kind? = some kind → (∀ element ∈ inserted, element.kind? ≠ some kind) →
              operation name key (.array (front ++ inserted ++ back)) =
                operation name key (.array (front ++ back))) ∧
            ∀ (elements others : List Json) (kind : ScalarKind),
              elements.findSome? Json.kind? = some kind → others.findSome? Json.kind? = some kind →
                ∃ values otherValues : List Scalar,
                  operation name key (.array elements) =
                      .ok (.member { property := name, op, datatype := kind, values }) ∧
                    operation name key (.array others) =
                        .ok (.member { property := name, op, datatype := kind, values := otherValues }) ∧
                      operation name key (.array (elements ++ others)) =
                        .ok (.member
                          { property := name, op, datatype := kind, values := values ++ otherValues }) := by
  refine ⟨?_, ?_, ?_, ?_, ?_⟩
  · intro elements noScalars
    exact operation_array_of_no_kind spelled name (List.findSome?_eq_none_iff.2 noScalars)
  · intro elements kind first
    refine ⟨Scalar.ofKind kind elements, Scalar.map_toJson_ofKind kind elements,
      operation_array_of_kind spelled name first, ?_⟩
    obtain ⟨scalar, isFirst, rfl⟩ := Scalar.findSome?_kind?_eq_some_iff.1 first
    exact Membership.ofValues?_values (Membership.isTyped_of_isFirst isFirst (Scalar.areOfKind_iff.2 rfl))
  · intro front inserted back noScalars
    exact operation_array_insert_other spelled name front back noScalars
  · intro front inserted back kind first otherKinds
    exact operation_array_insert_of_kind_ne spelled name back first otherKinds
  · intro elements others kind first otherFirst
    have joinedFirst : (elements ++ others).findSome? Json.kind? = some kind := by
      rw [List.findSome?_append, first, Option.some_or]
    refine ⟨Scalar.ofKind kind elements, Scalar.ofKind kind others,
      operation_array_of_kind spelled name first, operation_array_of_kind spelled name otherFirst, ?_⟩
    rw [operation_array_of_kind spelled name joinedFirst, Scalar.ofKind_append]

/-- Numbers among values of all other kinds, of which a number is the first scalar. -/
def mixedElements : List Json :=
  [.null, .array [.string "x"], .number (.ofUInt64 1999), .string "2000", .number (.ofUInt64 1999), .bool true]

theorem membership_keeps_kind_of_first_scalar_mixedElements :
    Spells membershipWords "nIn" .notWithin ∧
      operation "year" "nIn" (.array [.null, .object []]) = .error (.emptyArray "year") ∧
        mixedElements.findSome? Json.kind? = some .number ∧
          (∃ values : List Scalar,
            values.map Scalar.toJson = [.number (.ofUInt64 1999), .number (.ofUInt64 1999)] ∧
              operation "year" "nIn" (.array mixedElements) =
                .ok (.member { property := "year", op := .notWithin, datatype := .number, values })) ∧
            operation "year" "nIn" (.array ([.null] ++ [.array [.number (.ofUInt64 1)]] ++ mixedElements)) =
                operation "year" "nIn" (.array ([.null] ++ mixedElements)) ∧
              operation "year" "nIn" (.array (mixedElements ++ [.string "a"] ++ [.number (.ofUInt64 2)])) =
                  operation "year" "nIn" (.array (mixedElements ++ [.number (.ofUInt64 2)])) ∧
                ∃ values otherValues : List Scalar,
                  operation "year" "nIn" (.array (mixedElements ++ [.number (.ofUInt64 2)])) =
                    .ok (.member
                      { property := "year"
                        op := .notWithin
                        datatype := .number
                        values := values ++ otherValues }) := by
  have spelled : Spells membershipWords "nIn" .notWithin := ⟨"nin", by decide, by decide⟩
  have first : mixedElements.findSome? Json.kind? = some .number := by rfl
  obtain ⟨empty, someScalar, insertOther, insertKind, joined⟩ :=
    membership_keeps_kind_of_first_scalar spelled "year"
  refine ⟨spelled, empty [.null, .object []] ?_, first, ?_, ?_, ?_, ?_⟩
  · simp [Json.kind?]
  · obtain ⟨values, selected, read, -⟩ := someScalar mixedElements .number first
    exact ⟨values, selected, read⟩
  · exact insertOther [.null] _ mixedElements (by simp [Json.kind?])
  · exact insertKind mixedElements [.string "a"] [.number (.ofUInt64 2)] .number first (by simp [Json.kind?])
  · obtain ⟨values, otherValues, -, -, read⟩ :=
      joined mixedElements [.number (.ofUInt64 2)] .number first rfl
    exact ⟨values, otherValues, read⟩

end Request
end QueryFilter
