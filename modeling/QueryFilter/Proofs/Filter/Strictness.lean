import QueryFilter.Proofs.Filter.Update

/-!
# Strict and lenient reading agree

An object is taken in strictly, where the first fault ends the reading, or leniently, where faults stop
nothing and all sound values are kept. Both accept the same objects and then set the same fields; of a
rejected object the one reports the first fault and the other the last. Neither sees the order of the
members or any member under another key.
-/

namespace QueryFilter

/-- The key names one of the four fields. -/
def Field.isKey (key : String) : Bool :=
  key ∈ all.map Field.key

theorem Field.isKey_key (field : Field) : isKey field.key = true := by
  cases field <;> decide

namespace Filter

/-- The members that name a field decide the value of every field. -/
theorem get?_key_eq_of_perm
    {members others : Members}
    (distinct : (members.map Prod.fst).Nodup)
    (reordered :
      (members.filter fun member => Field.isKey member.1).Perm
        (others.filter fun member => Field.isKey member.1))
    (field : Field) :
    members.get? field.key = others.get? field.key := by
  rw [← Members.get?_filter field.isKey_key members, ← Members.get?_filter field.isKey_key others]
  refine Members.get?_eq_of_perm reordered ?_ field.key
  exact distinct.sublist (List.filter_sublist.map Prod.fst)

theorem rejections_congr
    {members others : Members}
    (same : ∀ field : Field, members.get? field.key = others.get? field.key) :
    Field.rejections members = Field.rejections others := by
  rw [Field.rejections, Field.rejections]
  congr 1
  funext field
  rw [Field.rejection?, Field.rejection?, same]

theorem putMembers_congr
    {members others : Members}
    (same : ∀ field : Field, members.get? field.key = others.get? field.key)
    (filter : Filter) :
    filter.putMembers members = filter.putMembers others := by
  apply ext_get
  intro field
  rw [get_putMembers, get_putMembers, same]

theorem exists_ofRequest_eq_ok_iff
    {members : Members} :
    (∃ filter, ofRequest (.object members) = .ok filter) ↔ Field.rejections members = [] := by
  rw [ofRequest_object]
  cases Field.rejections members <;> simp

theorem ofRequest_eq_ok_iff
    {members : Members}
    {filter : Filter} :
    ofRequest (.object members) = .ok filter ↔
      Field.rejections members = [] ∧ empty.putMembers members = filter := by
  rw [ofRequest_object]
  cases Field.rejections members <;> simp

theorem ofRequest_eq_error_iff
    {members : Members}
    {fault : Fault} :
    ofRequest (.object members) = .error fault ↔ (Field.rejections members).head? = some fault := by
  rw [ofRequest_object]
  cases Field.rejections members <;> simp

/-- What is taken in on an empty filter replaces the same fields of any other filter. -/
theorem get_putMembers_eq_ite
    (start : Filter)
    (members : Members)
    (field : Field) :
    (start.putMembers members).get field =
      if (members.get? field.key).isSome then (empty.putMembers members).get field
      else start.get field := by
  rw [get_putMembers, get_putMembers]
  cases members.get? field.key <;> rfl

/--
An object is accepted by the strict reading exactly when its update of any filter reports no fault, and then
the update of the empty filter is what the strict reading yields and that of another filter replaces exactly
the fields that the object has a key for. Of the faults of a rejected object the strict reading reports the
first and the update the last. After the update, a field that the object has a key for holds what the value
is read as, and nothing when the value is rejected; every other field is as before. Objects with the same
members under the keys of fields, in any order, are not told apart.
-/
theorem strict_and_lenient_agree (members : Members) (start : Filter) :
    ((∃ filter, ofRequest (.object members) = .ok filter) ↔ (start.update members).2 = none) ∧
      (∀ filter, ofRequest (.object members) = .ok filter →
        (empty.update members).1 = filter ∧
          ∀ field, (start.update members).1.get field =
            if (members.get? field.key).isSome then filter.get field else start.get field) ∧
        (∀ fault, ofRequest (.object members) = .error fault ↔
          (Field.rejections members).head? = some fault) ∧
          (start.update members).2 = (Field.rejections members).getLast? ∧
            (∀ field, (start.update members).1.get field =
              match members.get? field.key with
              | none => start.get field
              | some value =>
                  match field.read value with
                  | .ok content? => content?
                  | .error _ => none) ∧
              ∀ others : Members,
                (members.map Prod.fst).Nodup →
                  (members.filter fun member => Field.isKey member.1).Perm
                    (others.filter fun member => Field.isKey member.1) →
                    ofRequest (.object others) = ofRequest (.object members) ∧
                      start.update others = start.update members := by
  refine ⟨?_, ?_, ?_, ?_, ?_, ?_⟩
  · rw [exists_ofRequest_eq_ok_iff, update_eq, List.getLast?_eq_none_iff]
  · intro filter accepted
    obtain ⟨-, rfl⟩ := ofRequest_eq_ok_iff.1 accepted
    rw [update_eq, update_eq]
    exact ⟨rfl, start.get_putMembers_eq_ite members⟩
  · intro fault
    exact ofRequest_eq_error_iff
  · rw [update_eq]
  · intro field
    rw [update_eq, get_putMembers]
    cases members.get? field.key <;> rfl
  · intro others distinct reordered
    have same := get?_key_eq_of_perm distinct reordered
    rw [ofRequest_object, ofRequest_object, update_eq, update_eq, rejections_congr same,
      putMembers_congr same, putMembers_congr same]
    exact ⟨rfl, rfl⟩

/-- An object with two values that are rejected, one that is accepted, and one under another key. -/
def contestedObject : Members :=
  [("skip", .number (.ofUInt64 2)), ("limit", .string "ten"), ("note", .null), ("where", .array [])]

theorem strict_and_lenient_agree_contestedObject :
    ofRequest (.object contestedObject) = .error (.invalidField .condition) ∧
      (empty.update contestedObject).2 = some (.invalidField .limit) ∧
        (contestedObject.map Prod.fst).Nodup ∧
          empty.update
              [("where", .array []), ("limit", .string "ten"), ("skip", .number (.ofUInt64 2))] =
            empty.update contestedObject := by
  obtain ⟨-, -, strict, lenient, -, unseen⟩ := strict_and_lenient_agree contestedObject empty
  have distinct : (contestedObject.map Prod.fst).Nodup := by decide
  refine ⟨(strict _).2 rfl, lenient.trans rfl, distinct, ?_⟩
  exact (unseen _ distinct (List.reverse_perm _).symm).2

end Filter
end QueryFilter
