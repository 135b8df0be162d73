import QueryFilter.Proofs.Request.Reading

/-!
# Selection of listed scalars

Which elements of an array a membership test keeps: the first scalar decides the kind, and all scalars of
that kind are kept in order. Both are stated on the elements themselves and shown to be what the reading of
a membership test selects.
-/

namespace QueryFilter

namespace Scalar

/-- The first element of an array that is a scalar is this one. -/
inductive IsFirst : List Json → Scalar → Prop
  | here {scalar : Scalar} {rest : List Json} :
      IsFirst (scalar.toJson :: rest) scalar
  | later {scalar : Scalar} {element : Json} {rest : List Json} :
      (∀ other : Scalar, element ≠ other.toJson) →
      IsFirst rest scalar →
      IsFirst (element :: rest) scalar

/-- The elements of an array that are scalars of a kind are these, in order. -/
inductive AreOfKind (kind : ScalarKind) : List Json → List Scalar → Prop
  | nil :
      AreOfKind kind [] []
  | keep {scalar : Scalar} {rest : List Json} {values : List Scalar} :
      scalar.kind = kind →
      AreOfKind kind rest values →
      AreOfKind kind (scalar.toJson :: rest) (scalar :: values)
  | drop {element : Json} {rest : List Json} {values : List Scalar} :
      (∀ scalar : Scalar, scalar.kind = kind → element ≠ scalar.toJson) →
      AreOfKind kind rest values →
      AreOfKind kind (element :: rest) values

theorem isFirst_iff
    {elements : List Json}
    {scalar : Scalar} :
    IsFirst elements scalar ↔ (elements.filterMap ofJson?).head? = some scalar := by
  constructor
  · intro first
    induction first with
    | here => simp
    | later notScalar _ inductionHypothesis =>
        rw [List.filterMap_cons, ofJson?_eq_none_iff.2 notScalar]
        exact inductionHypothesis
  · intro found
    induction elements with
    | nil => simp at found
    | cons element rest inductionHypothesis =>
        cases read : ofJson? element with
        | none =>
            rw [List.filterMap_cons, read] at found
            exact .later (ofJson?_eq_none_iff.1 read) (inductionHypothesis found)
        | some first =>
            rw [List.filterMap_cons, read] at found
            obtain rfl := Option.some.inj found
            obtain rfl := ofJson?_eq_some_iff.1 read
            exact .here

theorem areOfKind_iff
    {kind : ScalarKind}
    {elements : List Json}
    {values : List Scalar} :
    AreOfKind kind elements values ↔
      (elements.filterMap ofJson?).filter (fun scalar => scalar.kind = kind) = values := by
  constructor
  · intro selected
    induction selected with
    | nil => rfl
    | keep ofKind _ inductionHypothesis => simp [ofKind, inductionHypothesis]
    | @drop element rest values otherwise _ inductionHypothesis =>
        cases read : ofJson? element with
        | none => simpa [read] using inductionHypothesis
        | some scalar =>
            have otherKind : scalar.kind ≠ kind := by
              intro ofKind
              exact otherwise scalar ofKind (ofJson?_eq_some_iff.1 read)
            simpa [read, otherKind] using inductionHypothesis
  · rintro rfl
    induction elements with
    | nil => exact .nil
    | cons element rest inductionHypothesis =>
        cases read : ofJson? element with
        | none =>
            rw [List.filterMap_cons_none read]
            refine .drop ?_ inductionHypothesis
            intro scalar ofKind
            exact ofJson?_eq_none_iff.1 read scalar
        | some scalar =>
            rw [List.filterMap_cons_some read]
            obtain rfl := ofJson?_eq_some_iff.1 read
            by_cases ofKind : scalar.kind = kind
            · rw [List.filter_cons_of_pos (by simpa using ofKind)]
              exact .keep ofKind inductionHypothesis
            · rw [List.filter_cons_of_neg (by simpa using ofKind)]
              refine .drop ?_ inductionHypothesis
              intro other otherKind equal
              apply ofKind
              rw [toJson_injective equal]
              exact otherKind

end Scalar

namespace Request

theorem membership_array_of_isFirst
    {name : String}
    {op : MembershipOp}
    {elements : List Json}
    {first : Scalar}
    {values : List Scalar}
    (isFirst : Scalar.IsFirst elements first)
    (selected : Scalar.AreOfKind first.kind elements values) :
    membership name op (.array elements) =
      .ok (.member { property := name, op, datatype := first.kind, values }) := by
  rw [Scalar.isFirst_iff] at isFirst
  rw [Scalar.areOfKind_iff] at selected
  obtain ⟨rest, scalars⟩ := List.head?_eq_some_iff.1 isFirst
  rw [scalars] at selected
  simp only [membership, scalars, Membership.ofValues?, selected]

theorem membership_array_of_no_scalar
    {name : String}
    {op : MembershipOp}
    {elements : List Json}
    (noScalar : ∀ first, ¬Scalar.IsFirst elements first) :
    membership name op (.array elements) = .error (.emptyArray name) := by
  have none : (elements.filterMap Scalar.ofJson?).head? = none := by
    rw [Option.eq_none_iff_forall_ne_some]
    intro first found
    exact noScalar first (Scalar.isFirst_iff.2 found)
  rw [List.head?_eq_none_iff] at none
  simp only [membership, none, Membership.ofValues?]

theorem membership_of_not_array
    {name : String}
    {op : MembershipOp}
    {operand : Json}
    (notArray : ∀ elements, operand ≠ .array elements) :
    membership name op operand = .error (.notAnArray name) := by
  cases operand <;> simp_all [membership]

end Request
end QueryFilter
