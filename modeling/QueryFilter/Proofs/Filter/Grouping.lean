import QueryFilter.Proofs.Condition.Splicing
import QueryFilter.Proofs.Filter.WellFormed

/-!
# Groups of requests and groups of clauses

Conditions are grouped in two ways: by a request that lists them under a connective, where groups are kept as
they are nested, and by joining them as clauses to a filter, where groups of the same connective are spliced
in. The two mean the same, and they are the same exactly when there is nothing to splice in.
-/

namespace QueryFilter

namespace Request

/-- A connective over values that are read as conditions groups these conditions. -/
theorem condition_connective_array
    {key : String}
    {connective : Connective}
    {values : List Json}
    {trees : List Condition}
    (spelled : Spells connectiveWords key connective)
    (nonempty : values ≠ [])
    (read : values.mapM condition = .ok trees) :
    condition (.single key (.array values)) = .ok (.group connective trees) := by
  obtain ⟨pairs, rfl, rfl, each⟩ := mapM_eq_ok_iff.1 read
  rw [condition_eq_ok_iff_statement, Json.single, statement_connective_array spelled nonempty,
    map_eq_ok_iff]
  refine ⟨pairs.map Prod.snd, mapM_eq_ok_iff.2 ⟨pairs, rfl, rfl, ?_⟩, rfl⟩
  intro pair listed
  exact condition_eq_ok_iff_statement.1 (each pair listed)

theorem isWellFormed_of_mapM_condition
    {values : List Json}
    {trees : List Condition}
    (read : values.mapM condition = .ok trees) :
    ∀ tree ∈ trees, tree.IsWellFormed := by
  obtain ⟨pairs, -, rfl, each⟩ := mapM_eq_ok_iff.1 read
  intro tree listed
  obtain ⟨pair, member, rfl⟩ := List.mem_map.1 listed
  exact isWellFormed_of_condition (each pair member)

end Request

namespace Filter

/-- A condition that is built and then joined with clauses is combined with them, whatever was there before. -/
theorem condition_run_offer_join
    {value : Json}
    {tree : Condition}
    (read : Request.condition value = .ok tree)
    (start : Filter)
    (connective : Connective)
    (clauses : List Condition) :
    (start.run [.offer .condition value, .join connective clauses]).condition =
      Condition.combine connective (tree :: clauses) := by
  have held : Field.condition.contentOf value = some tree := Field.contentOf_condition_eq_some_iff.2 read
  rw [run_cons, run_cons, run_nil, after_offer, after_join, held]
  rfl

/-- Clauses that are joined to an empty filter are combined. -/
theorem condition_run_empty_join
    (connective : Connective)
    (clauses : List Condition) :
    (empty.run [.join connective clauses]).condition = Condition.combine connective clauses := by
  rw [run_cons, run_nil, after_join]
  rfl

/--
Values that are each read as a condition are read together, under a connective, as the group of these
conditions. Building the first one and joining the others to it, on any filter, gives the same condition as
joining all of them to an empty filter: the group in which those that are groups of the same connective are
replaced by their children. Under every three-valued truth of the leaves it is as true as the group that is
read, and it is the same as that group exactly when none of the conditions is a group of the connective.
-/
theorem requested_and_joined_groups_agree
    {key : String}
    {connective : Connective}
    (spelled : Request.Spells Request.connectiveWords key connective)
    {value : Json}
    {tree : Condition}
    (read : Request.condition value = .ok tree)
    {values : List Json}
    {trees : List Condition}
    (readOthers : values.mapM Request.condition = .ok trees)
    (start : Filter) :
    Request.condition (.single key (.array (value :: values))) = .ok (.group connective (tree :: trees)) ∧
      (start.run [.offer .condition value, .join connective trees]).condition =
        some (.flatGroup connective (tree :: trees)) ∧
        (empty.run [.join connective (tree :: trees)]).condition =
          some (.flatGroup connective (tree :: trees)) ∧
          (∀ assignment,
            (Condition.group connective (tree :: trees)).truth assignment =
              (Condition.flatGroup connective (tree :: trees)).truth assignment) ∧
            (Condition.flatGroup connective (tree :: trees) = .group connective (tree :: trees) ↔
              ∀ child ∈ tree :: trees, child.connective? ≠ some connective) := by
  have readAll : (value :: values).mapM Request.condition = .ok (tree :: trees) := by
    rw [List.mapM_cons, read, readOthers]
    rfl
  have combined := Condition.combine_eq_some_of_isWellFormed connective (List.cons_ne_nil tree trees)
    (Request.isWellFormed_of_mapM_condition readAll)
  refine ⟨?_, ?_, ?_, ?_, ?_⟩
  · exact Request.condition_connective_array spelled (List.cons_ne_nil value values) readAll
  · rw [condition_run_offer_join read, combined]
  · rw [condition_run_empty_join, combined]
  · intro assignment
    exact (Condition.truth_flatGroup assignment connective (tree :: trees)).symm
  · exact Condition.flatGroup_eq_group_iff

/-- A group of either connective, with a group of one child inside. -/
def nestedRequest (key : String) : Json :=
  .single key
    (.array
      [.single "age" (.single "GTE" (.number (.ofUInt64 18))),
        .single "and" (.array [.single "like" (.string "x")])])

/-- What the nested request states. -/
def nestedCondition (connective : Connective) : Condition :=
  .group connective
    [.gte "age" (.number (.ofUInt64 18)), .group .and [.eq "like" (.string "x")]]

theorem requested_and_joined_groups_agree_nestedRequest :
    Request.Spells Request.connectiveWords "Or" .or ∧
      Request.condition (nestedRequest "and") = .ok (nestedCondition .and) ∧
        [nestedRequest "or"].mapM Request.condition = .ok [nestedCondition .or] ∧
          Request.condition (.single "Or" (.array [nestedRequest "and", nestedRequest "or"])) =
            .ok (.group .or [nestedCondition .and, nestedCondition .or]) ∧
            (empty.run [.join .or [nestedCondition .and, nestedCondition .or]]).condition =
              some (.group .or (nestedCondition .and :: (nestedCondition .or).children)) := by
  have spelled : Request.Spells Request.connectiveWords "Or" .or := ⟨"or", by decide, by decide⟩
  have read : Request.condition (nestedRequest "and") = .ok (nestedCondition .and) := by rfl
  have readOthers : [nestedRequest "or"].mapM Request.condition = .ok [nestedCondition .or] := by rfl
  obtain ⟨requested, -, joined, -⟩ := requested_and_joined_groups_agree spelled read readOthers empty
  exact ⟨spelled, read, readOthers, requested, joined⟩

end Filter
end QueryFilter
