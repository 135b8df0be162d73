import QueryFilter.Order
import QueryFilter.Request.Fault
import QueryFilter.Json.Value

/-!
# Order and counts of requests

An order is a string or an array, whose elements count when they are strings. A count is any number that is
not negative; its fraction is dropped, and what exceeds the largest word becomes the largest word.
-/

namespace QueryFilter
namespace Request

/-- The text of a value that is a string. -/
def clause? : Json → Option String
  | .string text =>
      some text
  | _ =>
      none

/-- The order of a request, none when it has no clause. -/
def order : Json → Except Fault (Option Order)
  | .string clause =>
      .ok (Order.ofClauses? [clause])
  | .array elements =>
      .ok (Order.ofClauses? (elements.filterMap clause?))
  | _ =>
      .error (.invalidField .order)

/-- The largest word of 64 bits. -/
def largestCount : Nat :=
  0xffffffffffffffff

/-- The count that a number stands for; a negative number is no count, but negative zero is zero. -/
def countOf? : Number → Option UInt64
  | .integer value _ =>
      if 0 ≤ value then some (UInt64.ofNat value.toNat) else none
  | .float value =>
      if value.IsNegative then none else some (UInt64.ofNat (min value.floorMagnitude largestCount))

/-- The count in a field of a request. -/
def count (field : Field) : Json → Except Fault UInt64
  | .number number =>
      match countOf? number with
      | some count =>
          .ok count
      | none =>
          .error (.invalidField field)
  | _ =>
      .error (.invalidField field)

end Request
end QueryFilter
