import QueryFilter.Proofs.Request.Reading

/-!
# Letter case of keywords

Two values are recasings of each other when they differ only in the case of keywords: of connectives and
reserved words over conditions, and of the operators of properties. They are read alike: as the same condition,
or with faults of the same kind that name a key in the one spelling or in the other.
-/

namespace QueryFilter

theorem Text.SameSpelling.refl (text : String) : SameSpelling text text :=
  sameSpelling_iff_lower_eq.2 rfl

/-- Faults are of the same kind, and the keys that they name agree up to case. -/
inductive Fault.SameUpToCase : Fault → Fault → Prop
  | invalidRequest :
      SameUpToCase .invalidRequest .invalidRequest
  | invalidField (field : Field) :
      SameUpToCase (.invalidField field) (.invalidField field)
  | reservedKeyword {key other : String} :
      Text.SameSpelling key other → SameUpToCase (.reservedKeyword key) (.reservedKeyword other)
  | invalidKeyword {key other : String} :
      Text.SameSpelling key other → SameUpToCase (.invalidKeyword key) (.invalidKeyword other)
  | notAnObject :
      SameUpToCase .notAnObject .notAnObject
  | notAnArray {key other : String} :
      Text.SameSpelling key other → SameUpToCase (.notAnArray key) (.notAnArray other)
  | emptyArray {key other : String} :
      Text.SameSpelling key other → SameUpToCase (.emptyArray key) (.emptyArray other)
  | unsupportedType {key other : String} :
      Text.SameSpelling key other → SameUpToCase (.unsupportedType key) (.unsupportedType other)

theorem Fault.SameUpToCase.refl (fault : Fault) : fault.SameUpToCase fault := by
  cases fault with
  | invalidRequest => exact .invalidRequest
  | invalidField field => exact .invalidField field
  | reservedKeyword key => exact .reservedKeyword (.refl key)
  | invalidKeyword key => exact .invalidKeyword (.refl key)
  | notAnObject => exact .notAnObject
  | notAnArray key => exact .notAnArray (.refl key)
  | emptyArray key => exact .emptyArray (.refl key)
  | unsupportedType key => exact .unsupportedType (.refl key)

namespace Request

/-! ## Keys -/

theorem spells_congr
    {table : List (String × α)}
    {key other : String}
    {meaning : α}
    (same : Text.SameSpelling key other) :
    Spells table key meaning ↔ Spells table other meaning := by
  rw [Text.sameSpelling_iff_lower_eq] at same
  simp only [Spells, Text.sameSpelling_iff_lower_eq, same]

theorem isWordOf_congr
    {table : List (String × α)}
    {key other : String}
    (same : Text.SameSpelling key other) :
    IsWordOf table key ↔ IsWordOf table other := by
  rw [isWordOf_iff_exists_spells, isWordOf_iff_exists_spells]
  exact exists_congr fun meaning => spells_congr same

theorem isReserved_congr
    {key other : String}
    (same : Text.SameSpelling key other) :
    IsReserved key ↔ IsReserved other :=
  or_congr (isWordOf_congr same) (isWordOf_congr same)

theorem isName_congr
    {key other : String}
    (same : Text.SameSpelling key other) :
    IsName key ↔ IsName other :=
  and_congr (not_congr (isWordOf_congr same)) (not_congr (isReserved_congr same))

theorem ofKey?_congr
    {key other : String}
    (same : Text.SameSpelling key other) :
    Keyword.ofKey? key = Keyword.ofKey? other := by
  rw [Keyword.ofKey?, Keyword.ofKey?, Text.sameSpelling_iff_lower_eq.1 same]

/-! ## Outcomes -/

/-- Both are accepted with the same result, or both are rejected with the same fault up to case. -/
inductive AgreeUpToCase : Except Fault α → Except Fault α → Prop
  | accepted (result : α) :
      AgreeUpToCase (.ok result) (.ok result)
  | rejected {fault other : Fault} :
      fault.SameUpToCase other → AgreeUpToCase (.error fault) (.error other)

theorem AgreeUpToCase.refl (outcome : Except Fault α) : AgreeUpToCase outcome outcome := by
  cases outcome with
  | error fault => exact .rejected (.refl fault)
  | ok result => exact .accepted result

theorem AgreeUpToCase.map
    {outcome other : Except Fault α}
    (agree : AgreeUpToCase outcome other)
    (f : α → β) :
    AgreeUpToCase (outcome.map f) (other.map f) := by
  cases agree with
  | accepted result => exact .accepted (f result)
  | rejected same => exact .rejected same

/-- Lists of which the elements are read alike are read alike. -/
theorem AgreeUpToCase.mapM
    {read : α → Except Fault β}
    {pairs : List (α × α)}
    (each : ∀ pair ∈ pairs, AgreeUpToCase (read pair.1) (read pair.2)) :
    AgreeUpToCase ((pairs.map Prod.fst).mapM read) ((pairs.map Prod.snd).mapM read) := by
  induction pairs with
  | nil => exact .accepted []
  | cons pair rest inductionHypothesis =>
      have head := each pair List.mem_cons_self
      have tail := inductionHypothesis fun other listed => each other (List.mem_cons_of_mem pair listed)
      rw [List.map_cons, List.map_cons, List.mapM_cons, List.mapM_cons]
      generalize read pair.1 = first at head
      generalize read pair.2 = second at head
      cases head with
      | rejected same => exact .rejected same
      | accepted result => exact tail.map (result :: ·)

/-! ## Values -/

/-- Where a value stands in a request for a condition. -/
inductive Place
  /-- Where a condition is stated. -/
  | statement
  /-- Under a connective. -/
  | elements
  /-- Under a property. -/
  | operand
  deriving DecidableEq, Repr

namespace Place

/-- The place under a key of a condition. -/
def under (key : String) : Place :=
  if IsWordOf connectiveWords key then .elements else .operand

end Place

/--
Values in the same place of a request differ at most in the case of keywords. Over conditions these are the
keys that cannot be names, and over operands all keys.
-/
inductive Recased : Place → Json → Json → Prop
  | same (place : Place) (value : Json) :
      Recased place value value
  | statement {pairs : List ((String × Json) × String × Json)} :
      (∀ pair ∈ pairs,
        pair.1.1 = pair.2.1 ∨ ¬IsName pair.1.1 ∧ Text.SameSpelling pair.1.1 pair.2.1) →
      (∀ pair ∈ pairs, Recased (.under pair.1.1) pair.1.2 pair.2.2) →
      Recased .statement (.object (pairs.map Prod.fst)) (.object (pairs.map Prod.snd))
  | elements {pairs : List (Json × Json)} :
      (∀ pair ∈ pairs, Recased .statement pair.1 pair.2) →
      Recased .elements (.array (pairs.map Prod.fst)) (.array (pairs.map Prod.snd))
  | operand {pairs : List ((String × Json) × String × Json)} :
      (∀ pair ∈ pairs, Text.SameSpelling pair.1.1 pair.2.1 ∧ pair.1.2 = pair.2.2) →
      Recased .operand (.object (pairs.map Prod.fst)) (.object (pairs.map Prod.snd))

/-- Objects with one key are recasings when their keys and their values are. -/
theorem Recased.single
    {key otherKey : String}
    {value other : Json}
    (keys : key = otherKey ∨ ¬IsName key ∧ Text.SameSpelling key otherKey)
    (values : Recased (.under key) value other) :
    Recased .statement (.single key value) (.single otherKey other) := by
  refine @Recased.statement [((key, value), otherKey, other)] ?_ ?_
  · exact List.forall_mem_singleton.2 keys
  · exact List.forall_mem_singleton.2 values

/-- Two values are read alike wherever they can stand in a place. -/
def Place.ReadAlike : Place → Json → Json → Prop
  | .statement, value, other =>
      AgreeUpToCase (Request.statement value) (Request.statement other)
  | .elements, value, other =>
      ∀ {key otherKey connective}, Spells connectiveWords key connective →
        Text.SameSpelling key otherKey →
          AgreeUpToCase (Request.statement (.object [(key, value)]))
            (Request.statement (.object [(otherKey, other)]))
  | .operand, value, other =>
      ∀ name, AgreeUpToCase (property name value) (property name other)

theorem Place.readAlike_same
    (place : Place)
    (value : Json) :
    place.ReadAlike value value := by
  cases place with
  | statement => exact .refl _
  | operand => exact fun name => .refl _
  | elements =>
      intro key otherKey connective spelled same
      have otherSpelled := (spells_congr same).1 spelled
      by_cases isArray : ∃ elements, value = .array elements
      · obtain ⟨elements, rfl⟩ := isArray
        by_cases empty : elements = []
        · rw [empty, statement_connective_empty spelled, statement_connective_empty otherSpelled]
          exact .rejected (.emptyArray same)
        · rw [statement_connective_array spelled empty, statement_connective_array otherSpelled empty]
          exact .refl _
      · rw [not_exists] at isArray
        rw [statement_connective_of_not_array spelled isArray,
          statement_connective_of_not_array otherSpelled isArray]
        exact .rejected (.notAnArray same)

/-- An operand is read alike under all spellings of an operator. -/
theorem agreeUpToCase_operation
    (name : String)
    {key other : String}
    (operand : Json)
    (same : Text.SameSpelling key other) :
    AgreeUpToCase (operation name key operand) (operation name other operand) := by
  rw [operation, operation, ← ofKey?_congr same]
  split
  · exact .refl _
  · exact .refl _
  · exact .rejected (.invalidKeyword same)

/-- Conditions under keys that agree, or agree up to case and are no names, are read alike. -/
theorem agreeUpToCase_statement_single
    {key otherKey : String}
    {value other : Json}
    (keys : key = otherKey ∨ ¬IsName key ∧ Text.SameSpelling key otherKey)
    (alike : (Place.under key).ReadAlike value other) :
    AgreeUpToCase (statement (.object [(key, value)])) (statement (.object [(otherKey, other)])) := by
  have same : Text.SameSpelling key otherKey := by
    rcases keys with rfl | ⟨-, same⟩
    · exact .refl key
    · exact same
  rcases key_cases key with ⟨connective, spelled⟩ | reserved | name
  · rw [Place.under, if_pos (isWordOf_iff_exists_spells.2 ⟨connective, spelled⟩)] at alike
    exact alike spelled same
  · rw [statement_reserved reserved, statement_reserved ((isReserved_congr same).1 reserved)]
    exact .rejected (.reservedKeyword same)
  · rw [Place.under, if_neg name.1] at alike
    obtain rfl := keys.resolve_right fun both => both.1 name
    rw [statement_name name, statement_name name]
    exact alike key

/-- Recasings are read alike, rule by rule. -/
theorem Recased.readAlike
    {place : Place}
    {value other : Json}
    (recased : Recased place value other) :
    place.ReadAlike value other := by
  induction recased with
  | same place value => exact place.readAlike_same value
  | @statement pairs keys _ inductionHypothesis =>
      rcases pairs with _ | ⟨pair, _ | ⟨second, rest⟩⟩
      · exact .refl _
      · exact agreeUpToCase_statement_single (keys pair List.mem_cons_self)
          (inductionHypothesis pair List.mem_cons_self)
      · rw [Place.ReadAlike, statement_of_not_single (by simp), statement_of_not_single (by simp)]
        exact .refl _
  | @elements pairs _ inductionHypothesis =>
      intro key otherKey connective spelled same
      have otherSpelled := (spells_congr same).1 spelled
      by_cases empty : pairs = []
      · subst empty
        exact Place.readAlike_same .elements (.array []) spelled same
      · rw [statement_connective_array spelled (by simpa using empty),
          statement_connective_array otherSpelled (by simpa using empty)]
        exact (AgreeUpToCase.mapM inductionHypothesis).map _
  | @operand pairs agree =>
      intro name
      rcases pairs with _ | ⟨pair, _ | ⟨second, rest⟩⟩
      · exact .refl _
      · obtain ⟨⟨key, operand⟩, otherKey, otherOperand⟩ := pair
        obtain ⟨same, rfl⟩ : Text.SameSpelling key otherKey ∧ operand = otherOperand :=
          agree _ List.mem_cons_self
        exact agreeUpToCase_operation name operand same
      · rw [property_object_of_not_single (by simp), property_object_of_not_single (by simp)]
        exact .refl _

/-- Requests for a condition that are recasings of each other are read alike. -/
theorem agreeUpToCase_condition
    {value other : Json}
    (recased : Recased .statement value other) :
    AgreeUpToCase (condition value) (condition other) := by
  cases recased with
  | same => exact .refl _
  | statement keys values =>
      rw [condition, condition]
      exact (Recased.statement keys values).readAlike

end Request
end QueryFilter
