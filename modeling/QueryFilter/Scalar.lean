import QueryFilter.Json.Value

/-!
# Scalar operands

The operand of a condition is a string, a number or a boolean. Null, arrays and objects are no scalars.
-/

namespace QueryFilter

/-- The three kinds of scalars. -/
inductive ScalarKind
  | string
  | number
  | boolean
  deriving DecidableEq, Repr

/-- A scalar operand of a condition. -/
inductive Scalar
  | string (text : String)
  | number (value : Number)
  | boolean (value : Bool)
  deriving DecidableEq, Repr

namespace ScalarKind

/-- The name of a kind. -/
def name : ScalarKind → String
  | .string =>
      "string"
  | .number =>
      "number"
  | .boolean =>
      "boolean"

end ScalarKind

namespace Scalar

/-- The kind of a scalar. -/
def kind : Scalar → ScalarKind
  | .string _ =>
      .string
  | .number _ =>
      .number
  | .boolean _ =>
      .boolean

@[simp] theorem kind_string (text : String) : (string text).kind = .string := rfl

@[simp] theorem kind_number (value : Number) : (number value).kind = .number := rfl

@[simp] theorem kind_boolean (value : Bool) : (boolean value).kind = .boolean := rfl

/-- The scalar that a Json value is, if it is one. -/
def ofJson? : Json → Option Scalar
  | .string text =>
      some (.string text)
  | .number value =>
      some (.number value)
  | .bool value =>
      some (.boolean value)
  | _ =>
      none

/-- The Json value of a scalar. -/
def toJson : Scalar → Json
  | .string text =>
      .string text
  | .number value =>
      .number value
  | .boolean value =>
      .bool value

@[simp] theorem ofJson?_toJson (scalar : Scalar) : ofJson? scalar.toJson = some scalar := by
  cases scalar <;> rfl

/-- A value is read as a scalar exactly when it is the value of that scalar. -/
theorem ofJson?_eq_some_iff
    {value : Json}
    {scalar : Scalar} :
    ofJson? value = some scalar ↔ value = scalar.toJson := by
  constructor
  · intro read
    cases value <;> simp_all [ofJson?, toJson]
    all_goals
      subst read
      rfl
  · rintro rfl
    exact ofJson?_toJson scalar

/-- A value is no scalar when it is the value of none. -/
theorem ofJson?_eq_none_iff
    {value : Json} :
    ofJson? value = none ↔ ∀ scalar : Scalar, value ≠ scalar.toJson := by
  rw [Option.eq_none_iff_forall_ne_some]
  apply forall_congr'
  intro scalar
  exact not_congr ofJson?_eq_some_iff

theorem toJson_injective : Function.Injective toJson := by
  intro left right equal
  have same := congrArg ofJson? equal
  simpa using same

/-- A scalar of the kind of strings is a string. -/
theorem exists_eq_string
    {scalar : Scalar}
    (isString : scalar.kind = .string) :
    ∃ text, scalar = .string text := by
  cases scalar with
  | string text => exact ⟨text, rfl⟩
  | number value => cases isString
  | boolean value => cases isString

/-- The word of a truth value. -/
def booleanText (value : Bool) : String :=
  if value then "true" else "false"

/-- The text of a scalar: a string bare, a number or a boolean as written in Json. -/
def text : Scalar → String
  | .string text =>
      text
  | .number value =>
      value.text
  | .boolean value =>
      booleanText value

/-- The literal of a scalar: a string between single quotes as it stands, anything else its text. -/
def literal : Scalar → String
  | .string text =>
      "'" ++ text ++ "'"
  | scalar =>
      scalar.text

end Scalar
end QueryFilter
