import QueryFilter.Request.Fields
import QueryFilter.Request.Grammar

/-!
# Filters

A filter holds what a request has set: a condition, an order, a limit and a number of rows to skip. A field
is set by offering it a value; a value that is rejected leaves the field unset, never with its old content,
and no field depends on another.
-/

namespace QueryFilter

/-- The parts of a request that are set. -/
structure Filter where
  /-- The condition on rows. -/
  condition : Option Condition
  /-- The sort order. -/
  order : Option Order
  /-- The greatest number of rows. -/
  limit : Option UInt64
  /-- The number of rows to skip. -/
  skip : Option UInt64
  deriving Repr

namespace Filter

/-- The filter with nothing set. -/
def empty : Filter :=
  { condition := none, order := none, limit := none, skip := none }

/-- Offer a condition: the filter afterwards, and the fault if the value is rejected. -/
def offerCondition (filter : Filter) (value : Json) : Filter × Option Fault :=
  match Request.condition value with
  | .ok condition =>
      ({ filter with condition := some condition }, none)
  | .error fault =>
      ({ filter with condition := none }, some fault)

/-- Offer an order; one without clauses unsets the field and is no fault. -/
def offerOrder (filter : Filter) (value : Json) : Filter × Option Fault :=
  match Request.order value with
  | .ok order =>
      ({ filter with order }, none)
  | .error fault =>
      ({ filter with order := none }, some fault)

/-- Offer a limit. -/
def offerLimit (filter : Filter) (value : Json) : Filter × Option Fault :=
  match Request.count .limit value with
  | .ok count =>
      ({ filter with limit := some count }, none)
  | .error fault =>
      ({ filter with limit := none }, some fault)

/-- Offer a number of rows to skip. -/
def offerSkip (filter : Filter) (value : Json) : Filter × Option Fault :=
  match Request.count .skip value with
  | .ok count =>
      ({ filter with skip := some count }, none)
  | .error fault =>
      ({ filter with skip := none }, some fault)

/-- Offer a value to a field. -/
def offer (filter : Filter) : Field → Json → Filter × Option Fault
  | .condition, value =>
      filter.offerCondition value
  | .order, value =>
      filter.offerOrder value
  | .limit, value =>
      filter.offerLimit value
  | .skip, value =>
      filter.offerSkip value

@[simp] theorem offer_condition (filter : Filter) (value : Json) :
    filter.offer .condition value = filter.offerCondition value := rfl

@[simp] theorem offer_order (filter : Filter) (value : Json) :
    filter.offer .order value = filter.offerOrder value := rfl

@[simp] theorem offer_limit (filter : Filter) (value : Json) :
    filter.offer .limit value = filter.offerLimit value := rfl

@[simp] theorem offer_skip (filter : Filter) (value : Json) :
    filter.offer .skip value = filter.offerSkip value := rfl

/-- Offer a field its value among the members; the fault is the latest one. -/
def offerMember (members : Members) (outcome : Filter × Option Fault) (field : Field) :
    Filter × Option Fault :=
  match members.get? field.key with
  | none =>
      outcome
  | some value =>
      let (filter, fault?) := outcome.1.offer field value
      (filter, fault?.or outcome.2)

/--
Offer the members of an object to the fields they name. Fields that the object does not name stay as they
are, a fault stops nothing, and the last fault is reported.
-/
def update (filter : Filter) (members : Members) : Filter × Option Fault :=
  Field.all.foldl (offerMember members) (filter, none)

/-- Set a field to its value among the members, or stop at the fault. -/
def requireMember (members : Members) (filter : Filter) (field : Field) : Except Fault Filter :=
  match members.get? field.key with
  | none =>
      .ok filter
  | some value =>
      match filter.offer field value with
      | (filter, none) =>
          .ok filter
      | (_, some fault) =>
          .error fault

/-- The filter of a request, or the first fault in the order of the fields. -/
def ofRequest : Json → Except Fault Filter
  | .object members =>
      Field.all.foldlM (requireMember members) empty
  | _ =>
      .error .invalidRequest

/-- Join the condition, if there is one, and further clauses into one flat group. -/
def combine (filter : Filter) (connective : Connective) (clauses : List Condition) : Filter :=
  { filter with condition := Condition.combine connective (filter.condition.toList ++ clauses) }

/-- Require further clauses as well. -/
def and (filter : Filter) (clauses : List Condition) : Filter :=
  filter.combine .and clauses

/-- Admit further clauses instead. -/
def or (filter : Filter) (clauses : List Condition) : Filter :=
  filter.combine .or clauses

end Filter
end QueryFilter
