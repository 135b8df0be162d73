import QueryFilter.Scalar

/-!
# Condition trees

A condition is a group of conditions joined by a connective, a comparison of a property with a scalar, or a
membership test of a property in a list of scalars. The type admits empty groups and lists of mixed kinds,
which can be stored and loaded; what requests produce is narrower.
-/

namespace QueryFilter

/-- How the conditions of a group are joined. -/
inductive Connective
  | and
  | or
  deriving DecidableEq, Repr

/-- The operator of a comparison. -/
inductive ComparisonOp
  | eq
  | neq
  | lt
  | lte
  | gt
  | gte
  | like
  | notLike
  deriving DecidableEq, Repr

/-- The operator of a membership test. -/
inductive MembershipOp
  | within
  | notWithin
  deriving DecidableEq, Repr

/-- A property compared with one scalar. -/
structure Comparison where
  /-- The name of the property. -/
  property : String
  /-- The operator. -/
  op : ComparisonOp
  /-- The operand on the right. -/
  value : Scalar
  deriving DecidableEq, Repr

/-- A property tested against a list of scalars. -/
structure Membership where
  /-- The name of the property. -/
  property : String
  /-- The operator. -/
  op : MembershipOp
  /-- The kind that the list is tagged with. -/
  datatype : ScalarKind
  /-- The listed scalars. -/
  values : List Scalar
  deriving DecidableEq, Repr

/-- A condition on the properties of a row. -/
inductive Condition
  | group (connective : Connective) (children : List Condition)
  | compare (comparison : Comparison)
  | member (membership : Membership)
  deriving Repr

namespace ComparisonOp

/-- The operator matches text patterns. -/
def isPattern : ComparisonOp → Bool
  | .like | .notLike =>
      true
  | _ =>
      false

end ComparisonOp

namespace Membership

/--
The membership test over those scalars that have the kind of the first one; none when there is no scalar
at all.
-/
def ofValues? (property : String) (op : MembershipOp) : List Scalar → Option Membership
  | [] =>
      none
  | first :: rest =>
      some
        { property
          op
          datatype := first.kind
          values := (first :: rest).filter fun value => value.kind = first.kind }

/-- Every listed scalar of a membership test built from values has the kind of its tag. -/
theorem kind_eq_datatype_of_ofValues?
    {property : String}
    {op : MembershipOp}
    {values : List Scalar}
    {membership : Membership}
    (built : ofValues? property op values = some membership)
    {value : Scalar}
    (listed : value ∈ membership.values) :
    value.kind = membership.datatype := by
  cases values with
  | nil => simp [ofValues?] at built
  | cons first rest =>
      obtain rfl := Option.some.inj built
      have filtered := List.mem_filter.1 listed
      simpa using filtered.2

end Membership

namespace Condition

/-- The connective of a group; leaves have none. -/
def connective? : Condition → Option Connective
  | .group connective _ =>
      some connective
  | .compare _ =>
      none
  | .member _ =>
      none

/-- The conditions of a group; leaves have none. -/
def children : Condition → List Condition
  | .group _ children =>
      children
  | .compare _ =>
      []
  | .member _ =>
      []

@[simp] theorem connective?_group (connective : Connective) (children : List Condition) :
    (group connective children).connective? = some connective := rfl

@[simp] theorem children_group (connective : Connective) (conditions : List Condition) :
    (group connective conditions).children = conditions := rfl

/-- The property equals the scalar. -/
def eq (property : String) (value : Scalar) : Condition :=
  .compare { property, op := .eq, value }

/-- The property differs from the scalar. -/
def neq (property : String) (value : Scalar) : Condition :=
  .compare { property, op := .neq, value }

/-- The property is less than the scalar. -/
def lt (property : String) (value : Scalar) : Condition :=
  .compare { property, op := .lt, value }

/-- The property is at most the scalar. -/
def lte (property : String) (value : Scalar) : Condition :=
  .compare { property, op := .lte, value }

/-- The property is greater than the scalar. -/
def gt (property : String) (value : Scalar) : Condition :=
  .compare { property, op := .gt, value }

/-- The property is at least the scalar. -/
def gte (property : String) (value : Scalar) : Condition :=
  .compare { property, op := .gte, value }

/-- The property matches the pattern. -/
def like (property : String) (pattern : String) : Condition :=
  .compare { property, op := .like, value := .string pattern }

/-- The property does not match the pattern. -/
def notLike (property : String) (pattern : String) : Condition :=
  .compare { property, op := .notLike, value := .string pattern }

/-- What a condition contributes to a group: a group of the same connective its children, all else itself. -/
def spliced (connective : Connective) : Condition → List Condition
  | .group inner children =>
      if inner = connective then children else [.group inner children]
  | leaf =>
      [leaf]

/-- One flat group of conditions under a connective; none when it would be empty. -/
def combine (connective : Connective) (conditions : List Condition) : Option Condition :=
  match conditions.flatMap (spliced connective) with
  | [] =>
      none
  | first :: rest =>
      some (.group connective (first :: rest))

@[simp] theorem spliced_group_self
    (connective : Connective)
    (children : List Condition) :
    spliced connective (group connective children) = children := by
  simp [spliced]

@[simp] theorem spliced_compare
    (connective : Connective)
    (comparison : Comparison) :
    spliced connective (compare comparison) = [compare comparison] := rfl

@[simp] theorem spliced_member
    (connective : Connective)
    (membership : Membership) :
    spliced connective (member membership) = [member membership] := rfl

/-- Nothing is combined exactly when no condition contributes anything. -/
theorem combine_eq_none_iff
    {connective : Connective}
    {conditions : List Condition} :
    combine connective conditions = none ↔ conditions.flatMap (spliced connective) = [] := by
  unfold combine
  split <;> simp_all

/-- What is combined is a group of the connective over all that the conditions contribute. -/
theorem combine_eq_some_iff
    {connective : Connective}
    {conditions : List Condition}
    {combined : Condition} :
    combine connective conditions = some combined ↔
      conditions.flatMap (spliced connective) ≠ [] ∧
        combined = group connective (conditions.flatMap (spliced connective)) := by
  unfold combine
  split
  case h_1 empty => simp [empty]
  case h_2 first rest found =>
      rw [found, Option.some.injEq]
      exact ⟨fun equal => ⟨List.cons_ne_nil first rest, equal.symm⟩, fun both => both.2.symm⟩

end Condition
end QueryFilter
