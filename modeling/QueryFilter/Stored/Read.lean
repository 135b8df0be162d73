import QueryFilter.Backend
import QueryFilter.Stored.Write

/-!
# Stored form, reading

What writing produces is read back, and some more: a record may also be an array of its parts in order, a
name may also be the only key of an object over null, and keys that a record does not have are ignored. No
part is checked against another, so empty groups and lists of mixed kinds are read as they are.
-/

namespace QueryFilter
namespace Stored

/-- The text of a stored string. -/
def text? : Json → Option String
  | .string text =>
      some text
  | _ =>
      none

/-- The stored name of something that has no parts: a string, or the only key of an object over null. -/
def name? : Json → Option String
  | .string name =>
      some name
  | .object [(name, .null)] =>
      some name
  | _ =>
      none

/-- The value with a stored name among some values. -/
def named? (values : List α) (nameOf : α → String) (stored : Json) : Option α :=
  (name? stored).bind fun name => values.find? fun value => nameOf value == name

/-- Read the elements of a stored array. -/
def each? (read : Json → Option α) : Json → Option (List α)
  | .array elements =>
      elements.mapM read
  | _ =>
      none

/-- A part that counts as unset when it is null. -/
def optional? (read : Json → Option α) : Json → Option (Option α)
  | .null =>
      some none
  | stored =>
      (read stored).map some

/-- A count: an integer that is not negative and fits a word. -/
def count? : Json → Option UInt64
  | .number (.integer value _) =>
      if 0 ≤ value then some (UInt64.ofNat value.toNat) else none
  | _ =>
      none

end Stored

namespace ScalarKind

/-- The kind that a stored name tells. -/
def ofStored? : Json → Option ScalarKind :=
  Stored.named? [.string, .number, .boolean] name

end ScalarKind

namespace Connective

/-- The connective that a stored name tells. -/
def ofStored? : Json → Option Connective :=
  Stored.named? [.and, .or] storedName

end Connective

namespace ComparisonOp

/-- The comparison operators. -/
def all : List ComparisonOp :=
  [.eq, .neq, .lt, .lte, .gt, .gte, .like, .notLike]

/-- The comparison operator that a stored name tells. -/
def ofStored? : Json → Option ComparisonOp :=
  Stored.named? all storedName

end ComparisonOp

namespace MembershipOp

/-- The membership operator that a stored name tells. -/
def ofStored? : Json → Option MembershipOp :=
  Stored.named? [.within, .notWithin] storedName

end MembershipOp

namespace SortDirection

/-- The direction that a stored name tells. -/
def ofStored? : Json → Option SortDirection :=
  Stored.named? [.ascending, .descending] storedName

end SortDirection

namespace Backend

/-- The backend that a stored name tells. -/
def ofStored? : Json → Option Backend :=
  Stored.named? [.mysql, .mongo] name

end Backend

namespace Comparison

/-- The comparison with three stored parts. -/
def ofParts? (property op value : Json) : Option Comparison := do
  let property ← Stored.text? property
  let op ← ComparisonOp.ofStored? op
  let value ← Scalar.ofJson? value
  some { property, op, value }

/-- The comparison that a value stores. -/
def ofStored? : Json → Option Comparison
  | .array [property, op, value] =>
      ofParts? property op value
  | .object members => do
      let property ← Members.get? members "property"
      let op ← Members.get? members "op"
      let value ← Members.get? members "value"
      ofParts? property op value
  | _ =>
      none

end Comparison

namespace Membership

/-- The membership test with four stored parts. -/
def ofParts? (property op datatype values : Json) : Option Membership := do
  let property ← Stored.text? property
  let op ← MembershipOp.ofStored? op
  let datatype ← ScalarKind.ofStored? datatype
  let values ← Stored.each? Scalar.ofJson? values
  some { property, op, datatype, values }

/-- The membership test that a value stores. -/
def ofStored? : Json → Option Membership
  | .array [property, op, datatype, values] =>
      ofParts? property op datatype values
  | .object members => do
      let property ← Members.get? members "property"
      let op ← Members.get? members "op"
      let datatype ← Members.get? members "datatype"
      let values ← Members.get? members "values"
      ofParts? property op datatype values
  | _ =>
      none

end Membership

namespace Condition

/-- The leaf that a key tells the kind of. -/
def leafOfStored? (key : String) (value : Json) : Option Condition :=
  if key = "compare" then
    (Comparison.ofStored? value).map .compare
  else if key = "member" then
    (Membership.ofStored? value).map .member
  else
    none

mutual

/-- The condition that a value stores. -/
def ofStored? : Json → Option Condition
  | .object [(key, .array elements)] =>
      if key = "and" then
        (ofStoredEach? elements).map (.group .and)
      else if key = "or" then
        (ofStoredEach? elements).map (.group .or)
      else
        leafOfStored? key (.array elements)
  | .object [(key, value)] =>
      leafOfStored? key value
  | _ =>
      none

/-- The conditions that values in a row store. -/
def ofStoredEach? : List Json → Option (List Condition)
  | [] =>
      some []
  | first :: rest =>
      match ofStored? first with
      | none =>
          none
      | some condition =>
          (ofStoredEach? rest).map (condition :: ·)

end

theorem ofStoredEach?_eq_mapM (elements : List Json) :
    ofStoredEach? elements = elements.mapM ofStored? := by
  induction elements with
  | nil => rfl
  | cons first rest inductionHypothesis =>
      rw [List.mapM_cons, ofStoredEach?, inductionHypothesis]
      cases ofStored? first with
      | none => rfl
      | some condition => cases rest.mapM ofStored? <;> rfl

end Condition

namespace Order

/-- The order that a value stores; it may have no clause. -/
def ofStored? (stored : Json) : Option Order :=
  (Stored.each? Stored.text? stored).map fun clauses => { clauses }

end Order

namespace Filter

/-- The filter with four stored parts. -/
def ofParts? (condition order limit skip : Json) : Option Filter := do
  let condition ← Stored.optional? Condition.ofStored? condition
  let order ← Stored.optional? Order.ofStored? order
  let limit ← Stored.optional? Stored.count? limit
  let skip ← Stored.optional? Stored.count? skip
  some { condition, order, limit, skip }

/-- The stored part of a field, null when there is none. -/
def partOf (members : Members) (field : Field) : Json :=
  (members.get? field.key).getD .null

/-- The filter that a value stores; an array may leave out parts at its end. -/
def ofStored? : Json → Option Filter
  | .object members =>
      ofParts? (partOf members .condition) (partOf members .order) (partOf members .limit)
        (partOf members .skip)
  | .array [] =>
      some empty
  | .array [condition] =>
      ofParts? condition .null .null .null
  | .array [condition, order] =>
      ofParts? condition order .null .null
  | .array [condition, order, limit] =>
      ofParts? condition order limit .null
  | .array [condition, order, limit, skip] =>
      ofParts? condition order limit skip
  | _ =>
      none

end Filter
end QueryFilter
