import QueryFilter.Request.Fault
import QueryFilter.Request.Keyword

/-!
# Conditions of requests

A request writes a condition as an object with exactly one key:

* a connective over a nonempty array of conditions,
* a property over a scalar, which means equality, or
* a property over an object whose only key is an operator.

A connective and an operator are told apart by position, so the same word may be a keyword in one place and
a name in another. The first fault from left to right ends the reading.
-/

namespace QueryFilter
namespace Request

/-- The condition of a property under a comparison operator: patterns have to be strings. -/
def comparison (property : String) (op : ComparisonOp) (operand : Json) : Except Fault Condition :=
  match op.isPattern, operand with
  | true, .string pattern =>
      .ok (.compare { property, op, value := .string pattern })
  | true, _ =>
      .error (.unsupportedType property)
  | false, operand =>
      match Scalar.ofJson? operand with
      | some value =>
          .ok (.compare { property, op, value })
      | none =>
          .error (.unsupportedType property)

/-- The condition of a property under a membership operator; elements that are no scalars are dropped. -/
def membership (property : String) (op : MembershipOp) (operand : Json) : Except Fault Condition :=
  match operand with
  | .array elements =>
      match Membership.ofValues? property op (elements.filterMap Scalar.ofJson?) with
      | some membership =>
          .ok (.member membership)
      | none =>
          .error (.emptyArray property)
  | _ =>
      .error (.notAnArray property)

/-- The condition of a property under an operator key. -/
def operation (property key : String) (operand : Json) : Except Fault Condition :=
  match Keyword.ofKey? key with
  | some (.comparison op) =>
      comparison property op operand
  | some (.membership op) =>
      membership property op operand
  | _ =>
      .error (.invalidKeyword key)

/-- The condition of a property over its value. -/
def property (name : String) (value : Json) : Except Fault Condition :=
  match value with
  | .object [(key, operand)] =>
      operation name key operand
  | .object _ =>
      .error .notAnObject
  | value =>
      match Scalar.ofJson? value with
      | some scalar =>
          .ok (Condition.eq name scalar)
      | none =>
          .error (.unsupportedType name)

/-- The condition of a key that is no connective. -/
def named (key : String) (keyword? : Option Keyword) (value : Json) : Except Fault Condition :=
  match keyword? with
  | some keyword =>
      if keyword.isReserved then .error (.reservedKeyword key) else property key value
  | none =>
      property key value

mutual

/-- The condition that a value states; anything but an object with exactly one key states none. -/
def statement : Json → Except Fault Condition
  | .object [(key, value)] =>
      match Keyword.ofKey? key with
      | some (.connective connective) =>
          match value with
          | .array [] =>
              .error (.emptyArray key)
          | .array (first :: rest) =>
              (statements (first :: rest)).map (.group connective)
          | _ =>
              .error (.notAnArray key)
      | keyword? =>
          named key keyword? value
  | _ =>
      .error .notAnObject

/-- The conditions that the elements of an array state, up to the first fault. -/
def statements : List Json → Except Fault (List Condition)
  | [] =>
      .ok []
  | first :: rest =>
      match statement first with
      | .error fault =>
          .error fault
      | .ok condition =>
          (statements rest).map (condition :: ·)

end

/-- The elements of an array are read one after another. -/
theorem statements_eq_mapM (elements : List Json) : statements elements = elements.mapM statement := by
  induction elements with
  | nil => rfl
  | cons first rest inductionHypothesis =>
      rw [List.mapM_cons, statements, inductionHypothesis]
      cases statement first <;> rfl

/-- The condition of a request. -/
def condition : Json → Except Fault Condition
  | .object members =>
      statement (.object members)
  | _ =>
      .error (.invalidField .condition)

end Request
end QueryFilter
