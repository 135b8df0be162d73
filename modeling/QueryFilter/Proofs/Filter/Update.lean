import Mathlib.Data.List.Basic
import QueryFilter.Filter
import QueryFilter.Proofs.Json.Members
import QueryFilter.Proofs.Request.FirstFault

/-!
# Fields of filters

The four fields of a filter seen alike: each has a content, and a value that is offered to it is read as a
content, as none, or as a fault. An offer sets its field to what the value is read as, leaves the other
fields alone and reports the fault, which is said here once for all fields. Both ways to take in an object
then come down to the same new fields and the same list of faults: the one reports the last fault of the
list and the other stops at the first.
-/

namespace QueryFilter

/-! ## Contents -/

namespace Field

/-- What a field holds when it is set. -/
def Content : Field → Type
  | .condition =>
      Condition
  | .order =>
      Order
  | .limit =>
      UInt64
  | .skip =>
      UInt64

/-- What a value is read as when it is offered to a field; an order without clauses is none and no fault. -/
def read : (field : Field) → Json → Except Fault (Option field.Content)
  | .condition, value =>
      (Request.condition value).map some
  | .order, value =>
      Request.order value
  | .limit, value =>
      (Request.count .limit value).map some
  | .skip, value =>
      (Request.count .skip value).map some

/-- What a field holds when a value was offered to it: nothing when the value is rejected. -/
def contentOf (field : Field) (value : Json) : Option field.Content :=
  match field.read value with
  | .ok content? =>
      content?
  | .error _ =>
      none

/-- The fault for which an object is rejected at a field, if its value for the field is rejected. -/
def rejection? (members : Members) (field : Field) : Option Fault :=
  (members.get? field.key).bind fun value => Request.fault? (field.read value)

/-- The faults of an object in the order of the fields, one for each value that is rejected. -/
def rejections (members : Members) : List Fault :=
  all.filterMap (rejection? members)

theorem mem_all (field : Field) : field ∈ all := by
  cases field <;> decide

/-- The condition is set to a tree exactly when the value is read as this tree. -/
theorem contentOf_condition_eq_some_iff
    {value : Json}
    {tree : Condition} :
    condition.contentOf value = some tree ↔ Request.condition value = .ok tree := by
  rw [contentOf, read]
  cases Request.condition value with
  | error fault => exact ⟨nofun, nofun⟩
  | ok other =>
      constructor
      · intro same
        exact congrArg Except.ok (Option.some.inj same)
      · intro same
        exact congrArg some (Except.ok.inj same)

end Field

namespace Filter

/-- The content of a field. -/
def get (filter : Filter) : (field : Field) → Option field.Content
  | .condition =>
      filter.condition
  | .order =>
      filter.order
  | .limit =>
      filter.limit
  | .skip =>
      filter.skip

/-- The filter with another content, or none, in one field. -/
def set (filter : Filter) : (field : Field) → Option field.Content → Filter
  | .condition, content? =>
      { filter with condition := content? }
  | .order, content? =>
      { filter with order := content? }
  | .limit, content? =>
      { filter with limit := content? }
  | .skip, content? =>
      { filter with skip := content? }

@[simp] theorem get_set_self
    (filter : Filter)
    (field : Field)
    (content? : Option field.Content) :
    (filter.set field content?).get field = content? := by
  cases field <;> rfl

theorem get_set_of_ne
    {filter : Filter}
    {field other : Field}
    {content? : Option field.Content}
    (different : field ≠ other) :
    (filter.set field content?).get other = filter.get other := by
  cases field <;> cases other <;> first | rfl | contradiction

/-- Filters are equal when they have the same content in every field. -/
theorem ext_get
    {left right : Filter}
    (agree : ∀ field, left.get field = right.get field) :
    left = right := by
  have condition : left.condition = right.condition := agree .condition
  have order : left.order = right.order := agree .order
  have limit : left.limit = right.limit := agree .limit
  have skip : left.skip = right.skip := agree .skip
  obtain ⟨leftCondition, leftOrder, leftLimit, leftSkip⟩ := left
  simp only at condition order limit skip
  rw [condition, order, limit, skip]

/-- An offer sets the field to what the value is read as, and reports the fault for which it is rejected. -/
theorem offer_eq
    (filter : Filter)
    (field : Field)
    (value : Json) :
    filter.offer field value =
      (filter.set field (field.contentOf value), Request.fault? (field.read value)) := by
  cases field with
  | condition =>
      rw [offer_condition, offerCondition, Field.contentOf, Field.read]
      cases Request.condition value <;> rfl
  | order =>
      rw [offer_order, offerOrder, Field.contentOf, Field.read]
      cases Request.order value <;> rfl
  | limit =>
      rw [offer_limit, offerLimit, Field.contentOf, Field.read]
      cases Request.count .limit value <;> rfl
  | skip =>
      rw [offer_skip, offerSkip, Field.contentOf, Field.read]
      cases Request.count .skip value <;> rfl

/-! ## The members of an object -/

/-- The filter with a field set to what an object's value for it is read as, if the object has one. -/
def putMember (members : Members) (filter : Filter) (field : Field) : Filter :=
  match members.get? field.key with
  | none =>
      filter
  | some value =>
      filter.set field (field.contentOf value)

/-- The filter with all fields set that an object has a value for. -/
def putMembers (filter : Filter) (members : Members) : Filter :=
  Field.all.foldl (putMember members) filter

theorem get_putMember_self
    (members : Members)
    (filter : Filter)
    (field : Field) :
    (putMember members filter field).get field =
      (members.get? field.key).elim (filter.get field) field.contentOf := by
  rw [putMember]
  cases members.get? field.key with
  | none => rfl
  | some value => exact get_set_self filter field (field.contentOf value)

theorem get_putMember_of_ne
    {members : Members}
    {filter : Filter}
    {field other : Field}
    (different : field ≠ other) :
    (putMember members filter field).get other = filter.get other := by
  rw [putMember]
  cases members.get? field.key with
  | none => rfl
  | some value => exact get_set_of_ne different

/-- Of several fields exactly those that the object has a value for are replaced. -/
theorem get_foldl_putMember
    (members : Members)
    (fields : List Field)
    (filter : Filter)
    (field : Field) :
    (fields.foldl (putMember members) filter).get field =
      if field ∈ fields then (members.get? field.key).elim (filter.get field) field.contentOf
      else filter.get field := by
  induction fields generalizing filter with
  | nil => rfl
  | cons first rest inductionHypothesis =>
      rw [List.foldl_cons, inductionHypothesis]
      by_cases same : first = field
      · subst same
        rw [get_putMember_self, if_pos List.mem_cons_self]
        cases members.get? first.key <;> simp
      · rw [get_putMember_of_ne same]
        simp [Ne.symm same]

/-- Taking in an object replaces the content of exactly those fields that the object has a value for. -/
theorem get_putMembers
    (filter : Filter)
    (members : Members)
    (field : Field) :
    (filter.putMembers members).get field =
      (members.get? field.key).elim (filter.get field) field.contentOf := by
  rw [putMembers, get_foldl_putMember, if_pos field.mem_all]

theorem offerMember_eq
    (members : Members)
    (outcome : Filter × Option Fault)
    (field : Field) :
    offerMember members outcome field =
      (putMember members outcome.1 field, (Field.rejection? members field).or outcome.2) := by
  rw [offerMember, putMember, Field.rejection?]
  cases members.get? field.key with
  | none => rfl
  | some value => simp [offer_eq]

theorem requireMember_eq
    (members : Members)
    (filter : Filter)
    (field : Field) :
    requireMember members filter field =
      match Field.rejection? members field with
      | none => .ok (putMember members filter field)
      | some fault => .error fault := by
  rw [requireMember, putMember, Field.rejection?]
  cases members.get? field.key with
  | none => rfl
  | some value =>
      simp only [Option.bind_some, offer_eq]
      cases Request.fault? (field.read value) <;> rfl

/-- Faults do not stop the offers, and the last one is reported. -/
theorem foldl_offerMember
    (members : Members)
    (fields : List Field)
    (outcome : Filter × Option Fault) :
    fields.foldl (offerMember members) outcome =
      (fields.foldl (putMember members) outcome.1,
        (fields.filterMap (Field.rejection? members)).getLast?.or outcome.2) := by
  induction fields generalizing outcome with
  | nil => rfl
  | cons field rest inductionHypothesis =>
      rw [List.foldl_cons, List.foldl_cons, inductionHypothesis, offerMember_eq]
      cases rejected : Field.rejection? members field with
      | none => rw [List.filterMap_cons_none rejected, Option.none_or]
      | some fault =>
          rw [List.filterMap_cons_some rejected, List.getLast?_cons]
          cases (rest.filterMap (Field.rejection? members)).getLast? <;> rfl

/-- The first fault stops the offers; without one they all take place. -/
theorem foldlM_requireMember
    (members : Members)
    (fields : List Field)
    (filter : Filter) :
    fields.foldlM (requireMember members) filter =
      match fields.filterMap (Field.rejection? members) with
      | [] => .ok (fields.foldl (putMember members) filter)
      | fault :: _ => .error fault := by
  induction fields generalizing filter with
  | nil => rfl
  | cons field rest inductionHypothesis =>
      rw [List.foldlM_cons, requireMember_eq]
      cases rejected : Field.rejection? members field with
      | none =>
          rw [List.filterMap_cons_none rejected]
          exact inductionHypothesis (putMember members filter field)
      | some fault =>
          rw [List.filterMap_cons_some rejected]
          rfl

/-- An update takes in all members and reports the last fault. -/
theorem update_eq
    (filter : Filter)
    (members : Members) :
    filter.update members = (filter.putMembers members, (Field.rejections members).getLast?) := by
  rw [update, foldl_offerMember, Option.or_none, putMembers, Field.rejections]

/-- The filter of a request takes in all members, unless there is a fault, of which the first is reported. -/
theorem ofRequest_object (members : Members) :
    ofRequest (.object members) =
      match Field.rejections members with
      | [] => .ok (empty.putMembers members)
      | fault :: _ => .error fault := by
  rw [ofRequest, foldlM_requireMember, putMembers, Field.rejections]

end Filter
end QueryFilter
