import QueryFilter.Proofs.Condition.Flattening
import QueryFilter.Proofs.Filter.Strictness
import QueryFilter.Proofs.Json.Nesting
import QueryFilter.Proofs.Order.Sorting
import QueryFilter.Proofs.Request.Derivation
import QueryFilter.Stored.Write

/-!
# Nesting of what is written for a request

A group of a request is an object over an array, and so is the group in the query document and in the stored form.
So each level of groups takes two levels of nesting in all three, and the rest is decided at the leaves: only a
negated pattern nests deeper in the query document than in the request, and only an equality in the stored form,
each by one level. So for a filter that is decoded from a text, all of this is bounded by what the decoder lets a
text nest.
-/

namespace QueryFilter
namespace Condition

mutual

/--
The greatest number of groups around a leaf. A function that writes a condition calls itself once for each of them,
and once more for the leaf.
-/
def levels : Condition → Nat
  | .group _ children =>
      levelsEach children + 1
  | .compare _ =>
      0
  | .member _ =>
      0

/-- The greatest number of groups around a leaf of conditions in a row. -/
def levelsEach : List Condition → Nat
  | [] =>
      0
  | first :: rest =>
      max first.levels (levelsEach rest)

end

theorem levels_group_le_iff
    {connective : Connective}
    {children : List Condition}
    {bound : Nat} :
    (group connective children).levels ≤ bound + 1 ↔ ∀ child ∈ children, child.levels ≤ bound := by
  rw [levels, Nat.add_le_add_iff_right]
  induction children with
  | nil => simp [levelsEach]
  | cons first rest inductionHypothesis =>
      rw [levelsEach, Nat.max_le, inductionHypothesis, List.forall_mem_cons]

@[simp] theorem levels_compare (comparison : Comparison) : (compare comparison).levels = 0 := by
  rw [levels]

@[simp] theorem levels_member (membership : Membership) : (member membership).levels = 0 := by
  rw [levels]

end Condition

/-! ## Leaves -/

namespace Comparison

/-- In a query document an equality stands under no operator and a negated pattern under two. -/
theorem nesting_mongo (comparison : Comparison) :
    comparison.mongo.nesting = match comparison.op with
      | .eq => 1
      | .notLike => 3
      | _ => 2 := by
  obtain ⟨property, op, value⟩ := comparison
  cases op <;> simp [mongo, requirement, Json.nesting]

theorem nesting_toStored (comparison : Comparison) : comparison.toStored.nesting = 1 := by
  simp [toStored, Json.nesting, Json.nestingMembers]

end Comparison

namespace Membership

theorem nesting_mongo (membership : Membership) : membership.mongo.nesting = 3 := by
  simp [mongo, Json.nesting]

theorem nesting_toStored (membership : Membership) : membership.toStored.nesting = 2 := by
  simp [toStored, ScalarKind.toStored, Json.nesting, Json.nestingMembers]

end Membership

namespace Request

/-- A key for a comparison with any scalar is not one for equality, which has no key. -/
theorem ne_eq_of_spells
    {key : String}
    {op : ComparisonOp}
    (spelled : Spells comparisonWords key op ∨ Spells patternWords key op) :
    op ≠ .eq := by
  rintro rfl
  rcases spelled with ⟨word, listed, -⟩ | ⟨word, listed, -⟩
  · simp [comparisonWords] at listed
  · simp [patternWords] at listed

/-- A comparison is requested by an object, or under an operator by two of them. -/
theorem Derives.nesting_compare
    {source : Json}
    {comparison : Comparison}
    (derives : Derives source (.compare comparison)) :
    source.nesting = if comparison.op = .eq then 1 else 2 := by
  cases derives with
  | equality => simp [Json.nesting, Json.nestingMembers]
  | comparison _ spelled => simp [ne_eq_of_spells (.inl spelled), Json.nesting, Json.nestingMembers]
  | pattern _ spelled => simp [ne_eq_of_spells (.inr spelled), Json.nesting, Json.nestingMembers]

/-- A membership test is requested by two objects over an array. -/
theorem Derives.three_le_nesting_member
    {source : Json}
    {membership : Membership}
    (derives : Derives source (.member membership)) :
    3 ≤ source.nesting := by
  cases derives with
  | membership => simp [Json.nesting, Json.nestingMembers]

/-! ## Trees -/

/--
A measure of conditions that grows by at most two with each group around others is bounded by the nesting of the
request, up to what it exceeds the nesting at the leaves.
-/
theorem Derives.measure_le
    {value : Json}
    {tree : Condition}
    (derives : Derives value tree)
    (measure : Condition → Nat)
    (excess : Nat)
    (group : ∀ connective children bound, children ≠ [] →
      (∀ child ∈ children, measure child ≤ bound) → measure (.group connective children) ≤ bound + 2)
    (compare : ∀ comparison source, .compare comparison ∈ tree.leaves →
      Derives source (.compare comparison) → measure (.compare comparison) ≤ source.nesting + excess)
    (member : ∀ membership source, Derives source (.member membership) →
      measure (.member membership) ≤ source.nesting + excess) :
    measure tree ≤ value.nesting + excess := by
  induction derives with
  | @group key connective derived spelled nonempty eachDerives inductionHypothesis =>
      have children : ∀ child ∈ derived.map Prod.snd,
          measure child ≤ Json.nestingEach (derived.map Prod.fst) + excess := by
        intro child listed
        obtain ⟨pair, member, rfl⟩ := List.mem_map.1 listed
        have ofChild : measure pair.2 ≤ pair.1.nesting + excess := by
          apply inductionHypothesis pair member
          intro comparison source isLeaf
          apply compare
          rw [Condition.leaves_group, List.mem_flatMap]
          exact ⟨pair.2, listed, isLeaf⟩
        have below := Json.nesting_lt_of_mem_array (List.mem_map_of_mem (f := Prod.fst) member)
        rw [Json.nesting] at below
        omega
      have ofGroup := group connective _ _ (by simpa using nonempty) children
      simp only [Json.nesting, Json.nestingMembers, Nat.max_zero]
      omega
  | equality isName => exact compare _ _ (by simp [Condition.leaves]) (.equality isName)
  | comparison isName spelled => exact compare _ _ (by simp [Condition.leaves]) (.comparison isName spelled)
  | pattern isName spelled => exact compare _ _ (by simp [Condition.leaves]) (.pattern isName spelled)
  | membership isName spelled isFirst selected => exact member _ _ (.membership isName spelled isFirst selected)

/-- A group that is written as one key over what is written for its children adds two levels. -/
theorem nesting_group_le
    {write : Condition → Json}
    {children : List Condition}
    {bound : Nat}
    (key : String)
    (each : ∀ child ∈ children, (write child).nesting ≤ bound) :
    (Json.single key (.array (children.map write))).nesting ≤ bound + 2 := by
  have elements : (Json.array (children.map write)).nesting ≤ bound + 1 := by
    rw [Json.nesting_array_le_iff, List.forall_mem_map]
    exact each
  rw [Json.nesting_single]
  omega

section

variable {value : Json} {tree : Condition} {excess : Nat}

/-- Each level of groups takes two levels of nesting, and a leaf takes one more. -/
theorem Derives.two_mul_levels_lt (derives : Derives value tree) : 2 * tree.levels < value.nesting := by
  show 2 * tree.levels + 1 ≤ value.nesting + 0
  apply derives.measure_le (fun tree => 2 * tree.levels + 1) 0
  case group =>
    intro connective children bound nonempty each
    obtain ⟨first, firstListed⟩ := List.exists_mem_of_ne_nil children nonempty
    have positive := each first firstListed
    have levels : (Condition.group connective children).levels ≤ (bound - 1) / 2 + 1 := by
      rw [Condition.levels_group_le_iff]
      intro child listed
      have ofChild := each child listed
      omega
    omega
  case compare =>
    intro comparison source _ ofLeaf
    rw [ofLeaf.nesting_compare, Condition.levels_compare]
    split <;> omega
  case member =>
    intro membership source ofLeaf
    have ofMember := ofLeaf.three_le_nesting_member
    rw [Condition.levels_member]
    omega

/-- The query document nests as the request does, or by a level more if the condition has a negated pattern. -/
theorem Derives.nesting_mongo_le
    (derives : Derives value tree)
    (negated : ∀ comparison, .compare comparison ∈ tree.leaves → comparison.op = .notLike → 1 ≤ excess) :
    tree.mongo.nesting ≤ value.nesting + excess := by
  apply derives.measure_le (fun tree => tree.mongo.nesting)
  case group =>
    intro connective children bound _ each
    rw [Condition.mongo, Condition.mongoEach_eq_map]
    exact nesting_group_le connective.mongoKey each
  case compare =>
    intro comparison source isLeaf ofLeaf
    have ofNegated := negated comparison isLeaf
    rw [Condition.mongo, comparison.nesting_mongo, ofLeaf.nesting_compare]
    cases op : comparison.op <;> simp [op] at ofNegated ⊢
    all_goals omega
  case member =>
    intro membership source ofLeaf
    have ofMember := ofLeaf.three_le_nesting_member
    rw [Condition.mongo, membership.nesting_mongo]
    omega

/-- The stored form nests as the request does, or by a level more if the condition has an equality. -/
theorem Derives.nesting_toStored_le
    (derives : Derives value tree)
    (equality : ∀ comparison, .compare comparison ∈ tree.leaves → comparison.op = .eq → 1 ≤ excess) :
    tree.toStored.nesting ≤ value.nesting + excess := by
  apply derives.measure_le (fun tree => tree.toStored.nesting)
  case group =>
    intro connective children bound _ each
    rw [Condition.toStored, Condition.toStoredEach_eq_map]
    exact nesting_group_le connective.storedKey each
  case compare =>
    intro comparison source isLeaf ofLeaf
    have ofEquality := equality comparison isLeaf
    rw [Condition.toStored, Json.nesting_single, comparison.nesting_toStored, ofLeaf.nesting_compare]
    split_ifs with isEquality
    · have room := ofEquality isEquality
      omega
    · omega
  case member =>
    intro membership source ofLeaf
    have ofMember := ofLeaf.three_le_nesting_member
    rw [Condition.toStored, Json.nesting_single, membership.nesting_toStored]
    omega

end

end Request

/-! ## Filters -/

theorem Order.nesting_mongo_le (order : Order) : order.mongo.nesting ≤ 1 := by
  rw [mongo_eq_placed, Json.nesting_object_le_iff, List.forall_mem_map]
  intro column _
  rw [SortColumn.member]
  cases column.direction <;> simp [SortDirection.mongo, Json.nesting]

theorem Order.nesting_toStored_le (order : Order) : order.toStored.nesting ≤ 1 := by
  rw [toStored, Json.nesting_array_le_iff, List.forall_mem_map]
  intro clause _
  simp [Json.nesting]

namespace Filter

/-- An object of a filter's parts nests by a level more than its condition and its order, and has flat counts. -/
theorem nesting_parts_le
    {bound : Nat}
    {condition? order? : Option Json}
    (conditionBound : ∀ part ∈ condition?, part.nesting ≤ bound)
    (orderBound : ∀ part ∈ order?, part.nesting ≤ bound)
    (limit? skip? : Option UInt64)
    (conditionKey orderKey limitKey skipKey : String) :
    (Json.object
      (Members.optional conditionKey condition? ++ Members.optional orderKey order? ++
        Members.optional limitKey (limit?.map Json.ofUInt64) ++
        Members.optional skipKey (skip?.map Json.ofUInt64))).nesting ≤ bound + 1 := by
  have flat : ∀ count? : Option UInt64, ∀ part ∈ count?.map Json.ofUInt64, part.nesting ≤ bound := by
    intro count? part isPart
    obtain ⟨count, -, rfl⟩ := Option.map_eq_some_iff.1 isPart
    simp [Json.ofUInt64, Json.nesting]
  simp only [Json.nesting_object_le_iff, List.forall_mem_append, Members.forall_mem_optional_iff]
  exact ⟨⟨⟨conditionBound, orderBound⟩, flat limit?⟩, flat skip?⟩

/-- The filter is what a request is read as, strictly, or leniently without its rejected parts. -/
def IsRequestedBy (request : Json) (filter : Filter) : Prop :=
  ofRequest request = .ok filter ∨ ∃ members, request = .object members ∧ (empty.update members).1 = filter

section

variable {request : Json} {filter : Filter}

/-- In either way the members of the request are taken in. -/
theorem IsRequestedBy.exists_members
    (requested : filter.IsRequestedBy request) :
    ∃ members : Members, request = .object members ∧ filter = empty.putMembers members := by
  rcases requested with accepted | ⟨members, rfl, rfl⟩
  · cases request with
    | object members => exact ⟨members, rfl, (ofRequest_eq_ok_iff.1 accepted).2.symm⟩
    | _ => cases accepted
  · exact ⟨members, rfl, by rw [update_eq]⟩

/-- The condition of a requested filter is derived from a part of the request. -/
theorem IsRequestedBy.exists_derives
    {tree : Condition}
    (requested : filter.IsRequestedBy request)
    (isSet : filter.condition = some tree) :
    ∃ source, source.nesting < request.nesting ∧ Request.Derives source tree := by
  obtain ⟨members, rfl, rfl⟩ := requested.exists_members
  have held := (get_putMembers empty members .condition).symm.trans isSet
  cases found : members.get? Field.condition.key with
  | none =>
      rw [found] at held
      cases held
  | some source =>
      rw [found, Option.elim_some, Field.contentOf_condition_eq_some_iff] at held
      have isMember := Members.mem_of_get? found
      exact ⟨source, Json.nesting_lt_of_mem_object isMember,
        Request.statement_eq_ok_iff_derives.1 (Request.condition_eq_ok_iff_statement.1 held)⟩

theorem IsRequestedBy.nesting_pos (requested : filter.IsRequestedBy request) : 1 ≤ request.nesting := by
  obtain ⟨members, rfl, -⟩ := requested.exists_members
  simp [Json.nesting]

theorem IsRequestedBy.nesting_mongo_le (requested : filter.IsRequestedBy request) :
    filter.mongo.nesting ≤ request.nesting + 1 := by
  apply nesting_parts_le
  · intro part isPart
    obtain ⟨tree, isSet, rfl⟩ := Option.map_eq_some_iff.1 isPart
    obtain ⟨source, isPartOfRequest, derives⟩ := requested.exists_derives isSet
    have ofTree : tree.mongo.nesting ≤ source.nesting + 1 := derives.nesting_mongo_le fun _ _ _ => Nat.le_refl 1
    omega
  · intro part isPart
    obtain ⟨order, -, rfl⟩ := Option.map_eq_some_iff.1 isPart
    exact order.nesting_mongo_le.trans requested.nesting_pos

theorem IsRequestedBy.nesting_toStored_le (requested : filter.IsRequestedBy request) :
    filter.toStored.nesting ≤ request.nesting + 1 := by
  apply nesting_parts_le
  · intro part isPart
    obtain ⟨tree, isSet, rfl⟩ := Option.map_eq_some_iff.1 isPart
    obtain ⟨source, isPartOfRequest, derives⟩ := requested.exists_derives isSet
    have ofTree : tree.toStored.nesting ≤ source.nesting + 1 := derives.nesting_toStored_le fun _ _ _ => Nat.le_refl 1
    omega
  · intro part isPart
    obtain ⟨order, -, rfl⟩ := Option.map_eq_some_iff.1 isPart
    exact order.nesting_toStored_le.trans requested.nesting_pos

end

/--
A condition has at most half as many levels of groups as its request has levels of nesting besides the outermost.
Its query document nests at most one level deeper than the request, and no deeper without a negated pattern; its
stored form nests at most one level deeper, and no deeper without an equality. With a decoder that has a limit on
nesting, whatever filter a decoded value is taken for, each group of the condition and the leaf below take two levels
out of the limit, and the document and the stored form of the filter nest at most one level deeper than the value.
-/
theorem written_nesting_le_requested :
    (∀ value tree, Request.condition value = .ok tree →
      tree.levels ≤ (value.nesting - 1) / 2 ∧
      tree.mongo.nesting ≤ value.nesting + 1 ∧
      ((∀ comparison, .compare comparison ∈ tree.leaves → comparison.op ≠ .notLike) →
        tree.mongo.nesting ≤ value.nesting) ∧
      tree.toStored.nesting ≤ value.nesting + 1 ∧
      ((∀ comparison, .compare comparison ∈ tree.leaves → comparison.op ≠ .eq) →
        tree.toStored.nesting ≤ value.nesting)) ∧
    ∀ limit decode, Json.NestsWithin limit decode → ∀ text request, decode text = .ok request →
      request.nesting ≤ limit ∧
      ∀ filter : Filter, filter.IsRequestedBy request →
        (∀ tree ∈ filter.condition, 2 * (tree.levels + 1) ≤ request.nesting) ∧
        filter.mongo.nesting ≤ request.nesting + 1 ∧
        filter.toStored.nesting ≤ request.nesting + 1 := by
  constructor
  · intro value tree accepted
    have derives := Request.statement_eq_ok_iff_derives.1 (Request.condition_eq_ok_iff_statement.1 accepted)
    have levels := derives.two_mul_levels_lt
    refine ⟨by omega, derives.nesting_mongo_le fun _ _ _ => Nat.le_refl 1, ?_,
      derives.nesting_toStored_le fun _ _ _ => Nat.le_refl 1, ?_⟩
    · intro noNegated
      show tree.mongo.nesting ≤ value.nesting + 0
      exact derives.nesting_mongo_le fun comparison isLeaf isNegated => absurd isNegated (noNegated comparison isLeaf)
    · intro noEquality
      show tree.toStored.nesting ≤ value.nesting + 0
      exact derives.nesting_toStored_le fun comparison isLeaf isEquality =>
        absurd isEquality (noEquality comparison isLeaf)
  · intro limit decode within text request decoded
    refine ⟨within text request decoded, ?_⟩
    intro filter requested
    refine ⟨?_, requested.nesting_mongo_le, requested.nesting_toStored_le⟩
    intro tree isSet
    obtain ⟨source, isPartOfRequest, derives⟩ := requested.exists_derives isSet
    have levels := derives.two_mul_levels_lt
    omega

/-- A group over a negated pattern and a comparison. -/
def groupRequest : Json :=
  .object
    [("and", .array
      [.object [("file", .object [("nlike", .string "%.rs")])], .object [("open", .object [("neq", .bool true)])]])]

/-- The condition of the group. -/
def groupCondition : Condition :=
  .group .and [.notLike "file" "%.rs", .neq "open" (.boolean true)]

/-- A text whose condition is an equality. -/
def equalityText : String :=
  "\x7b\"where\":\x7b\"open\":true\x7d\x7d"

/-- The value of the text. -/
def equalityRequest : Json :=
  .object [("where", .object [("open", .bool true)])]

theorem written_nesting_le_requested_leafSamples :
    Request.condition groupRequest = .ok groupCondition ∧
      groupCondition.levels ≤ (groupRequest.nesting - 1) / 2 ∧
      groupCondition.mongo.nesting ≤ groupRequest.nesting + 1 ∧
      (∀ comparison, .compare comparison ∈ groupCondition.leaves → comparison.op ≠ .eq) ∧
      groupCondition.toStored.nesting ≤ groupRequest.nesting ∧
      Request.condition (.object [("open", .bool true)]) = .ok (.eq "open" (.boolean true)) ∧
      (∀ comparison, .compare comparison ∈ (Condition.eq "open" (.boolean true)).leaves →
        comparison.op ≠ .notLike) ∧
      (Condition.eq "open" (.boolean true)).mongo.nesting ≤ (Json.object [("open", .bool true)]).nesting ∧
      Json.NestsWithin Json.nestingLimit Json.decode ∧
      Json.decode equalityText = .ok equalityRequest ∧
      equalityRequest.nesting ≤ Json.nestingLimit ∧
      ∃ filter, ofRequest equalityRequest = .ok filter ∧
        filter.toStored.nesting ≤ equalityRequest.nesting + 1 := by
  obtain ⟨conditions, texts⟩ := written_nesting_le_requested
  have readGroup : Request.condition groupRequest = .ok groupCondition := by rfl
  obtain ⟨levels, document, -, -, stored⟩ := conditions _ _ readGroup
  have noEquality : ∀ comparison, .compare comparison ∈ groupCondition.leaves → comparison.op ≠ .eq := by
    intro comparison isLeaf
    simp [groupCondition, Condition.leaves, Condition.leavesEach, Condition.notLike, Condition.neq] at isLeaf
    rcases isLeaf with rfl | rfl <;> decide
  have readEquality : Request.condition (.object [("open", .bool true)]) = .ok (.eq "open" (.boolean true)) := by rfl
  obtain ⟨-, -, plainDocument, -, -⟩ := conditions _ _ readEquality
  have noNegated : ∀ comparison, .compare comparison ∈ (Condition.eq "open" (.boolean true)).leaves →
      comparison.op ≠ .notLike := by
    intro comparison isLeaf
    simp [Condition.leaves, Condition.eq] at isLeaf
    rw [isLeaf]
    decide
  have decoded : Json.decode equalityText = .ok equalityRequest := by cbv
  obtain ⟨limited, filters⟩ := texts _ _ Json.nestsWithin_decode _ _ decoded
  have accepted : ofRequest equalityRequest = .ok { empty with condition := some (.eq "open" (.boolean true)) } := by
    rfl
  exact ⟨readGroup, levels, document, noEquality, stored noEquality, readEquality, noNegated, plainDocument noNegated,
    Json.nestsWithin_decode, decoded, limited, _, accepted, (filters _ (.inl accepted)).2.2⟩

end Filter
end QueryFilter
