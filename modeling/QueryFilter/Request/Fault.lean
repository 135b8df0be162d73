/-!
# Faults of requests

Why a request, or one of its fields, is rejected. A fault names the key at fault as the request spells it.
-/

namespace QueryFilter

/-- The four fields of a request. -/
inductive Field
  | condition
  | order
  | limit
  | skip
  deriving DecidableEq, Repr

namespace Field

/-- The key under which a request holds a field. -/
def key : Field → String
  | .condition =>
      "where"
  | .order =>
      "order"
  | .limit =>
      "limit"
  | .skip =>
      "skip"

/-- The fields in the order in which they are read. -/
def all : List Field :=
  [.condition, .order, .limit, .skip]

end Field

/-- The reason for which a request is rejected. -/
inductive Fault
  /-- The request as a whole is not an object. -/
  | invalidRequest
  /-- The value of a field has the wrong shape. -/
  | invalidField (field : Field)
  /-- An operator stands where the name of a property belongs. -/
  | reservedKeyword (key : String)
  /-- No operator of a property has this key. -/
  | invalidKeyword (key : String)
  /-- An object with exactly one key is missing. -/
  | notAnObject
  /-- The operand of this key has to be an array. -/
  | notAnArray (key : String)
  /-- The array of this key has no usable element. -/
  | emptyArray (key : String)
  /-- The value of this key has a type that is not accepted. -/
  | unsupportedType (key : String)
  deriving DecidableEq, Repr

namespace Fault

/-- The text of a fault. -/
def message : Fault → String
  | .invalidRequest =>
      "invalid filter: 'filter'"
  | .invalidField field =>
      "invalid filter: '" ++ field.key ++ "'"
  | .reservedKeyword key =>
      "reserved keyword: '" ++ key ++ "' cannot be used as a property name"
  | .invalidKeyword key =>
      "invalid keyword: '" ++ key ++ "'"
  | .notAnObject =>
      "not an object"
  | .notAnArray key =>
      "not an array: '" ++ key ++ "'"
  | .emptyArray key =>
      "empty array: '" ++ key ++ "'"
  | .unsupportedType key =>
      "not a supported type: '" ++ key ++ "'"

end Fault
end QueryFilter
