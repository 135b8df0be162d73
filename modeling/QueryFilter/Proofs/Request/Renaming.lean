import QueryFilter.Proofs.Condition
import QueryFilter.Proofs.Request.Casing
import QueryFilter.Proofs.Request.Derivation

/-!
# Names of properties

A place in a request is a path through the arrays of its groups. The key at the end of a path is a name
exactly when the condition has a leaf there, and the leaf then has that name as its property, letter by
letter. Another name at the end of the path states the same condition with another property at that leaf.
-/

namespace QueryFilter

/-! ## Places -/

namespace Json

/-- The key of the object at the end of a path through the arrays under the keys on the way. -/
def keyAt? : List Nat → Json → Option String
  | [], .object [(key, _)] =>
      some key
  | index :: path, .object [(_, .array elements)] =>
      elements[index]?.bind (keyAt? path)
  | _, _ =>
      none

/-- The value with another key of the object at the end of a path. -/
def renameAt : List Nat → String → Json → Json
  | [], name, .object [(_, value)] =>
      .object [(name, value)]
  | index :: path, name, .object [(key, .array elements)] =>
      .object [(key, .array (elements.modify index (renameAt path name)))]
  | _, _, value =>
      value

theorem keyAt?_nil_single
    (key : String)
    (value : Json) :
    keyAt? [] (.object [(key, value)]) = some key := rfl

theorem keyAt?_cons_array
    (index : Nat)
    (path : List Nat)
    (key : String)
    (elements : List Json) :
    keyAt? (index :: path) (.object [(key, .array elements)]) = elements[index]?.bind (keyAt? path) := rfl

theorem keyAt?_cons_of_not_array
    {index : Nat}
    {path : List Nat}
    {key : String}
    {value : Json}
    (notArray : ∀ elements, value ≠ .array elements) :
    keyAt? (index :: path) (.object [(key, value)]) = none := by
  cases value with
  | array elements => exact absurd rfl (notArray elements)
  | _ => rfl

end Json

namespace Condition

/-- The property of a leaf. -/
def property? : Condition → Option String
  | .group _ _ =>
      none
  | .compare comparison =>
      some comparison.property
  | .member membership =>
      some membership.property

/-- A leaf with another property; a group as it is. -/
def withProperty (name : String) : Condition → Condition
  | .group connective children =>
      .group connective children
  | .compare comparison =>
      .compare { comparison with property := name }
  | .member membership =>
      .member { membership with property := name }

/-- The leaf at the end of a path through the children of groups. -/
def leafAt? : List Nat → Condition → Option Condition
  | [], .group _ _ =>
      none
  | index :: path, .group _ children =>
      children[index]?.bind (leafAt? path)
  | [], leaf =>
      some leaf
  | _ :: _, _ =>
      none

/-- The condition with another property of the leaf at the end of a path. -/
def renameAt : List Nat → String → Condition → Condition
  | [], name, tree =>
      tree.withProperty name
  | index :: path, name, .group connective children =>
      .group connective (children.modify index (renameAt path name))
  | _ :: _, _, leaf =>
      leaf

@[simp] theorem leafAt?_cons_group
    (index : Nat)
    (path : List Nat)
    (connective : Connective)
    (children : List Condition) :
    (group connective children).leafAt? (index :: path) = children[index]?.bind (leafAt? path) := rfl

/-- Exactly the leaf at the end of the path gets the other property. -/
theorem leafAt?_renameAt
    (tree : Condition)
    (path place : List Nat)
    (name : String) :
    (tree.renameAt path name).leafAt? place =
      if place = path then (tree.leafAt? path).map (withProperty name) else tree.leafAt? place := by
  induction path generalizing tree place with
  | nil => cases tree <;> cases place <;> rfl
  | cons index path inductionHypothesis =>
      cases tree with
      | compare comparison => cases place <;> simp [renameAt, leafAt?]
      | member membership => cases place <;> simp [renameAt, leafAt?]
      | group connective children =>
          cases place with
          | nil => rfl
          | cons position place =>
              rw [renameAt, leafAt?_cons_group, leafAt?_cons_group, List.getElem?_modify]
              by_cases same : index = position
              · subst same
                cases found : children[index]? with
                | none => simp [found]
                | some child => simp [found, inductionHypothesis]
              · simp [same, Ne.symm same]

end Condition

namespace Request

/-! ## Leaves and names -/

/-- A leaf is stated under its property, and under any other name as the leaf with that property. -/
theorem Derives.exists_name
    {value : Json}
    {tree : Condition}
    (derives : Derives value tree)
    (isLeaf : tree.connective? = none) :
    ∃ name operand, value = .object [(name, operand)] ∧ IsName name ∧ tree.property? = some name ∧
      (∀ elements, operand ≠ .array elements) ∧
        ∀ other, IsName other → Derives (.object [(other, operand)]) (tree.withProperty other) := by
  cases derives with
  | group => cases isLeaf
  | @equality name scalar isName =>
      refine ⟨name, scalar.toJson, rfl, isName, rfl, ?_, fun other isOther => .equality isOther⟩
      cases scalar <;> nofun
  | @comparison name key op scalar isName spelled =>
      exact ⟨name, _, rfl, isName, rfl, nofun, fun other isOther => .comparison isOther spelled⟩
  | @pattern name key pattern op isName spelled =>
      exact ⟨name, _, rfl, isName, rfl, nofun, fun other isOther => .pattern isOther spelled⟩
  | @membership name key op elements first values isName spelled isFirst selected =>
      exact ⟨name, _, rfl, isName, rfl, nofun, fun other isOther => .membership isOther spelled isFirst selected⟩

theorem Derives.leaf_key_iff
    {value : Json}
    {leaf : Condition}
    (derives : Derives value leaf)
    (isLeaf : leaf.connective? = none)
    (path : List Nat)
    (name : String) :
    (leaf.leafAt? path).bind Condition.property? = some name ↔
      value.keyAt? path = some name ∧ IsName name := by
  obtain ⟨key, operand, rfl, isName, named, notArray, -⟩ := derives.exists_name isLeaf
  cases path with
  | nil =>
      have atEnd : leaf.leafAt? [] = some leaf := by
        cases leaf with
        | group => cases isLeaf
        | _ => rfl
      rw [atEnd, Option.bind_some, named, Json.keyAt?_nil_single, Option.some.injEq]
      exact ⟨fun same => ⟨same, same ▸ isName⟩, fun both => both.1⟩
  | cons index path =>
      have behind : leaf.leafAt? (index :: path) = none := by
        cases leaf with
        | group => cases isLeaf
        | _ => rfl
      rw [behind, Json.keyAt?_cons_of_not_array notArray]
      simp

/-- The leaf at the end of a path has as its property the key at the end of the path, if that is a name. -/
theorem Derives.key_iff
    {value : Json}
    {tree : Condition}
    (derives : Derives value tree)
    (path : List Nat)
    (name : String) :
    (tree.leafAt? path).bind Condition.property? = some name ↔
      value.keyAt? path = some name ∧ IsName name := by
  induction tree using Condition.groupInduction generalizing value path with
  | compare comparison => exact derives.leaf_key_iff rfl path name
  | member membership => exact derives.leaf_key_iff rfl path name
  | group connective children each =>
      cases derives with
      | @group key _ derived spelled nonempty below =>
          cases path with
          | nil =>
              have noName : ¬IsName key := fun isName =>
                isName.1 (isWordOf_iff_exists_spells.2 ⟨connective, spelled⟩)
              rw [Json.keyAt?_nil_single, Option.some.injEq]
              refine iff_of_false nofun ?_
              rintro ⟨rfl, isName⟩
              exact noName isName
          | cons index path =>
              rw [Condition.leafAt?_cons_group, Json.keyAt?_cons_array, List.getElem?_map, List.getElem?_map]
              cases found : derived[index]? with
              | none => simp
              | some pair =>
                  have listed := List.mem_of_getElem? found
                  exact each pair.2 (List.mem_map_of_mem listed) (below pair listed) path

theorem Derives.renameAt_leaf
    {value : Json}
    {leaf : Condition}
    (derives : Derives value leaf)
    (isLeaf : leaf.connective? = none)
    {path : List Nat}
    {name other : String}
    (atEnd : value.keyAt? path = some name)
    (isOther : IsName other) :
    Derives (value.renameAt path other) (leaf.renameAt path other) := by
  obtain ⟨key, operand, rfl, -, -, notArray, renamed⟩ := derives.exists_name isLeaf
  cases path with
  | nil => exact renamed other isOther
  | cons index path =>
      rw [Json.keyAt?_cons_of_not_array notArray] at atEnd
      cases atEnd

/-- With another name at the end of a path, a value derives the condition with that property there. -/
theorem Derives.renameAt
    {value : Json}
    {tree : Condition}
    (derives : Derives value tree)
    {path : List Nat}
    {name other : String}
    (atEnd : value.keyAt? path = some name)
    (isName : IsName name)
    (isOther : IsName other) :
    Derives (value.renameAt path other) (tree.renameAt path other) := by
  induction tree using Condition.groupInduction generalizing value path with
  | compare comparison => exact derives.renameAt_leaf rfl atEnd isOther
  | member membership => exact derives.renameAt_leaf rfl atEnd isOther
  | group connective children each =>
      cases derives with
      | @group key _ derived spelled nonempty below =>
          cases path with
          | nil =>
              obtain rfl := Option.some.inj atEnd
              exact absurd (isWordOf_iff_exists_spells.2 ⟨connective, spelled⟩) isName.1
          | cons index path =>
              rw [Json.keyAt?_cons_array, List.getElem?_map, Option.bind_eq_some_iff] at atEnd
              obtain ⟨element, isElement, elementEnd⟩ := atEnd
              obtain ⟨pair, found, rfl⟩ := Option.map_eq_some_iff.1 isElement
              have listed := List.mem_of_getElem? found
              let renamed := (pair.1.renameAt path other, pair.2.renameAt path other)
              have renamedDerives : Derives renamed.1 renamed.2 :=
                each pair.2 (List.mem_map_of_mem listed) (below pair listed) elementEnd
              have elements : (derived.map Prod.fst).modify index (Json.renameAt path other) =
                  (derived.set index renamed).map Prod.fst := by
                rw [List.modify_eq_set_getElem?, List.getElem?_map, found, List.map_set]
                rfl
              have children : (derived.map Prod.snd).modify index (Condition.renameAt path other) =
                  (derived.set index renamed).map Prod.snd := by
                rw [List.modify_eq_set_getElem?, List.getElem?_map, found, List.map_set]
                rfl
              rw [Json.renameAt, Condition.renameAt, elements, children]
              refine .group spelled (by simpa using nonempty) ?_
              intro member memberListed
              rcases List.mem_or_eq_of_mem_set memberListed with unchanged | rfl
              · exact below member unchanged
              · exact renamedDerives

/-! ## Keys that are no keywords -/

/-- The words of patterns can be names. -/
theorem isName_of_isPatternWord
    {key : String}
    (isPattern : IsWordOf patternWords key) :
    IsName key := by
  obtain ⟨op, spelled⟩ := isWordOf_iff_exists_spells.1 isPattern
  have found := ofKey?_eq_comparison_iff.2 (Or.inr spelled)
  rcases key_cases key with ⟨connective, connectiveSpelled⟩ | reserved | name
  · cases found.symm.trans (ofKey?_eq_connective_iff.2 connectiveSpelled)
  · rcases reserved with comparison | membership
    · obtain ⟨other, otherSpelled⟩ := isWordOf_iff_exists_spells.1 comparison
      have sameOp : op = other := by
        simpa [found] using ofKey?_eq_comparison_iff.2 (Or.inl otherSpelled)
      cases (isPattern_of_spells spelled).symm.trans (sameOp ▸ isPattern_eq_false_of_spells otherSpelled)
    · obtain ⟨other, otherSpelled⟩ := isWordOf_iff_exists_spells.1 membership
      cases found.symm.trans (ofKey?_eq_membership_iff.2 otherSpelled)
  · exact name

/-- A key with a character outside ASCII spells no word inside ASCII. -/
theorem not_isWordOf_of_not_ascii
    {table : List (String × α)}
    (inAscii : ∀ entry ∈ table, entry.1.toList.all (·.toNat < 128) = true)
    {key : String}
    (notAscii : ∃ char ∈ key.toList, 128 ≤ char.toNat) :
    ¬IsWordOf table key := by
  rintro ⟨entry, listed, same⟩
  obtain ⟨char, inKey, outside⟩ := notAscii
  rw [Text.sameSpelling_iff_lower_eq, ← String.toList_inj, Text.toList_lower, Text.toList_lower] at same
  have folded : char.toLower ∈ entry.1.toList.map Char.toLower := same ▸ List.mem_map_of_mem inKey
  obtain ⟨letter, inWord, equal⟩ := List.mem_map.1 folded
  have inside : letter.toNat < 128 := by
    simpa using List.all_eq_true.1 (inAscii entry listed) letter inWord
  -- capital letters stay in ASCII when they are folded, and the character is none
  have noCapital : ¬Text.IsCapital char := fun capital => by
    have bound : char.toNat ≤ 90 := capital.2
    omega
  have codes := congrArg Char.toNat equal
  rw [Text.toNat_toLower, Text.toNat_toLower, if_neg noCapital] at codes
  split_ifs at codes with capital
  · have bound : letter.toNat ≤ 90 := capital.2
    omega
  · omega

theorem isName_of_not_ascii
    {key : String}
    (notAscii : ∃ char ∈ key.toList, 128 ≤ char.toNat) :
    IsName key := by
  refine ⟨not_isWordOf_of_not_ascii (by decide) notAscii, ?_⟩
  rintro (comparison | membership)
  · exact not_isWordOf_of_not_ascii (by decide) notAscii comparison
  · exact not_isWordOf_of_not_ascii (by decide) notAscii membership

theorem condition_single_name
    {key : String}
    (isName : IsName key)
    (value : Json) :
    condition (.single key value) = property key value := by
  rw [Json.single, condition, statement_name isName]

/--
Requests that differ only in the case of keywords, at whatever depth, are read as the same condition or
rejected with the same fault up to the case of the key it names. In a request that is read, a key over a
condition that is no keyword is, letter by letter, the property of the leaf in its place, and every leaf has
its property from there. Changing the case of such a key changes this property and nothing else. The words of
patterns are such keys, and a key with a character outside ASCII is never a keyword.
-/
theorem keyword_case_ignored_and_names_kept :
    (∀ value other, Recased .statement value other → AgreeUpToCase (condition value) (condition other)) ∧
      (∀ value tree, condition value = .ok tree →
        (∀ path name,
          (tree.leafAt? path).bind Condition.property? = some name ↔
            value.keyAt? path = some name ∧ IsName name) ∧
          ∀ path name other, value.keyAt? path = some name → IsName name → Text.SameSpelling name other →
            condition (value.renameAt path other) = .ok (tree.renameAt path other) ∧
              ∀ place,
                (tree.renameAt path other).leafAt? place =
                  if place = path then (tree.leafAt? path).map (Condition.withProperty other)
                  else tree.leafAt? place) ∧
        (∀ key, IsWordOf patternWords key → IsName key) ∧
          ∀ key, (∃ char ∈ key.toList, 128 ≤ char.toNat) →
            (∀ value, condition (.single key value) = property key value) ∧
              ∀ name operand, property name (.single key operand) = .error (.invalidKeyword key) := by
  refine ⟨?_, ?_, ?_, ?_⟩
  · intro value other recased
    exact agreeUpToCase_condition recased
  · intro value tree read
    have derives := derives_of_statement (condition_eq_ok_iff_statement.1 read)
    refine ⟨derives.key_iff, ?_⟩
    intro path name other atEnd isName same
    refine ⟨?_, fun place => Condition.leafAt?_renameAt tree path place other⟩
    have renamed := derives.renameAt atEnd isName ((isName_congr same).1 isName)
    rw [condition_eq_ok_iff_statement, renamed.statement_eq]
  · intro key isPattern
    exact isName_of_isPatternWord isPattern
  · intro key notAscii
    refine ⟨condition_single_name (isName_of_not_ascii notAscii), ?_⟩
    intro name operand
    rw [Json.single, property_single]
    exact operation_of_not_operator (not_isWordOf_of_not_ascii (by decide) notAscii)
      (not_isWordOf_of_not_ascii (by decide) notAscii) (not_isWordOf_of_not_ascii (by decide) notAscii)

/-- A property named like an operator beside a group, with given spellings of the keywords. -/
def casedRequest (outer inner op property : String) : Json :=
  .single outer
    (.array
      [.single "Like" (.string "x"),
        .single inner (.array [.single property (.single op (.number (.ofUInt64 18)))])])

/-- What the request states. -/
def casedCondition (property : String) : Condition :=
  .group .and
    [.eq "Like" (.string "x"), .group .or [.gte property (.number (.ofUInt64 18))]]

theorem recased_casedRequest :
    Recased .statement (casedRequest "and" "OR" "gte" "age") (casedRequest "AND" "or" "GtE" "age") := by
  have outerPlace : Place.under "and" = .elements := by decide
  have innerPlace : Place.under "OR" = .elements := by decide
  have leafPlace : Place.under "age" = .operand := by decide
  have leaf : Recased .statement (.single "age" (.single "gte" (.number (.ofUInt64 18))))
      (.single "age" (.single "GtE" (.number (.ofUInt64 18)))) := by
    refine .single (Or.inl rfl) ?_
    rw [leafPlace]
    refine @Recased.operand [(("gte", _), "GtE", _)] ?_
    exact List.forall_mem_singleton.2 ⟨by decide, rfl⟩
  have inner : Recased .statement
      (.single "OR" (.array [.single "age" (.single "gte" (.number (.ofUInt64 18)))]))
      (.single "or" (.array [.single "age" (.single "GtE" (.number (.ofUInt64 18)))])) := by
    refine .single (Or.inr (by decide)) ?_
    rw [innerPlace]
    exact @Recased.elements [(_, _)] (List.forall_mem_singleton.2 leaf)
  refine .single (Or.inr (by decide)) ?_
  rw [outerPlace]
  refine @Recased.elements [(_, _), (_, _)] ?_
  rw [List.forall_mem_cons, List.forall_mem_singleton]
  exact ⟨.same .statement _, inner⟩

theorem keyword_case_ignored_and_names_kept_casedRequest :
    Recased .statement (casedRequest "and" "OR" "gte" "age") (casedRequest "AND" "or" "GtE" "age") ∧
      AgreeUpToCase (condition (casedRequest "and" "OR" "gte" "age"))
        (condition (casedRequest "AND" "or" "GtE" "age")) ∧
        condition (casedRequest "and" "OR" "gte" "age") = .ok (casedCondition "age") ∧
          (casedRequest "and" "OR" "gte" "age").keyAt? [1, 0] = some "age" ∧
            condition (casedRequest "and" "OR" "gte" "AGE") = .ok (casedCondition "AGE") ∧
              IsName "Like" ∧
                property "age" (.single "lıke" (.string "x")) = .error (.invalidKeyword "lıke") := by
  obtain ⟨recasedAlike, ofAccepted, patternNames, notAscii⟩ := keyword_case_ignored_and_names_kept
  have read : condition (casedRequest "and" "OR" "gte" "age") = .ok (casedCondition "age") := by rfl
  have atEnd : (casedRequest "and" "OR" "gte" "age").keyAt? [1, 0] = some "age" := by rfl
  refine ⟨recased_casedRequest, recasedAlike _ _ recased_casedRequest, read, atEnd, ?_, ?_, ?_⟩
  · obtain ⟨-, renamed⟩ := ofAccepted _ _ read
    exact (renamed [1, 0] "age" "AGE" atEnd (by decide) (by decide)).1
  · exact patternNames "Like" (by decide)
  · exact (notAscii "lıke" ⟨'ı', by decide, by decide⟩).2 "age" (.string "x")

end Request
end QueryFilter
