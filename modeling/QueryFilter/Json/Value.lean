import QueryFilter.Json.Number

/-!
# Json values

Objects keep their members in the order of insertion. A later member of an existing name replaces the value
and leaves the name where it stood.
-/

namespace QueryFilter

/-- A Json value. -/
inductive Json
  | null
  | bool (value : Bool)
  | number (value : Number)
  | string (text : String)
  | array (elements : List Json)
  | object (members : List (String × Json))
  deriving Repr, BEq

/-- Members of a Json object, in order. -/
abbrev Members := List (String × Json)

namespace Members

/-- Give a name a value: in place if the name is present, otherwise at the end. -/
def insert (members : Members) (name : String) (value : Json) : Members :=
  match members with
  | [] =>
      [(name, value)]
  | (present, old) :: rest =>
      if present = name then (name, value) :: rest else (present, old) :: insert rest name value

/-- The value of the first member of a name. -/
def get? (members : Members) (name : String) : Option Json :=
  match members with
  | [] =>
      none
  | (present, value) :: rest =>
      if present = name then some value else get? rest name

/-- The member for a part that may be missing. -/
def optional (name : String) (value? : Option Json) : Members :=
  match value? with
  | none =>
      []
  | some value =>
      [(name, value)]

end Members

namespace Json

/-- The object with one member. -/
def single (name : String) (value : Json) : Json :=
  .object [(name, value)]

/-- A count as a value. -/
def ofUInt64 (count : UInt64) : Json :=
  .number (Number.ofUInt64 count)

end Json
end QueryFilter
