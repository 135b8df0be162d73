import Mathlib.Data.List.Induction
import Mathlib.Logic.Function.Basic
import QueryFilter.Mongo
import QueryFilter.Proofs.Elements
import QueryFilter.Proofs.Order.Columns

/-!
# Orders of rows

Two rows are put in order by the first column in which they differ. The text of an order holds every clause,
so the first clause of a column decides; the sort document holds each column once, where it stood first but
with the direction that came last. Both put all rows alike exactly when these directions agree.
-/

namespace QueryFilter

/-! ## Lists without repetitions -/

theorem eraseDups_concat
    [DecidableEq α]
    (front : List α)
    (last : α) :
    (front ++ [last]).eraseDups =
      if last ∈ front then front.eraseDups else front.eraseDups ++ [last] := by
  have single : [last].eraseDups = [last] := rfl
  rw [List.eraseDups_append]
  by_cases repeated : last ∈ front <;> simp [List.removeAll, repeated, single]

/-- Repetitions do not matter to the first element with a property. -/
theorem find?_eraseDups
    [DecidableEq α]
    (elements : List α)
    (property : α → Bool) :
    elements.eraseDups.find? property = elements.find? property := by
  induction elements using List.reverseRecOn with
  | nil => rfl
  | append_singleton front last inductionHypothesis =>
      rw [eraseDups_concat, List.find?_append]
      split_ifs with repeated
      · rw [inductionHypothesis]
        cases has : property last with
        | false => simp [has]
        | true =>
            have found : (front.find? property).isSome := List.find?_isSome.2 ⟨last, repeated, has⟩
            rw [Option.or_of_isSome found]
      · rw [List.find?_append, inductionHypothesis]

/-! ## Columns that decide -/

namespace SortDirection

/-- The order of two rows, from the order of their values. -/
def orient : SortDirection → Ordering → Ordering
  | .ascending, ordering =>
      ordering
  | .descending, ordering =>
      ordering.swap

/-- Values that differ are put in another order by another direction. -/
theorem orient_injective
    {direction other : SortDirection}
    {ordering : Ordering}
    (differ : ordering ≠ .eq)
    (equal : direction.orient ordering = other.orient ordering) :
    direction = other := by
  cases direction <;> cases other <;> cases ordering <;> simp_all [orient]

theorem orient_ne_eq
    {ordering : Ordering}
    (direction : SortDirection)
    (differ : ordering ≠ .eq) :
    direction.orient ordering ≠ .eq := by
  cases direction <;> cases ordering <;> simp_all [orient]

end SortDirection

namespace SortColumn

/-- The first column of a name. -/
def first? (columns : List SortColumn) (name : String) : Option SortColumn :=
  columns.find? (·.name = name)

theorem first?_cons
    (column : SortColumn)
    (rest : List SortColumn)
    (name : String) :
    first? (column :: rest) name = if column.name = name then some column else first? rest name := by
  by_cases named : column.name = name <;> simp [first?, named]

theorem name_of_first?
    {columns : List SortColumn}
    {name : String}
    {column : SortColumn}
    (found : first? columns name = some column) :
    column.name = name := by
  simpa using List.find?_some found

/-- The first column whose name has a property is the first one of the first such name. -/
theorem find?_name_eq
    (columns : List SortColumn)
    (property : String → Bool) :
    columns.find? (fun column => property column.name) =
      ((columns.map name).find? property).bind (first? columns) := by
  induction columns with
  | nil => rfl
  | cons column rest inductionHypothesis =>
      cases has : property column.name with
      | true => simp [has, first?]
      | false =>
          have later : ∀ other ∈ (rest.map name).find? property,
              first? (column :: rest) other = first? rest other := by
            intro other found
            have different : column.name ≠ other := by
              rintro rfl
              exact Bool.false_ne_true (has.symm.trans (List.find?_some found))
            rw [first?_cons, if_neg different]
          rw [List.find?_cons_of_neg (by simp [has]), inductionHypothesis, List.map_cons,
            List.find?_cons_of_neg (by simp [has])]
          exact (Option.bind_congr later).symm

section Rows

variable {Value : Type}
variable (compareValues : Value → Value → Ordering)
variable (left right : String → Value)

/-- The values of two rows in a column differ. -/
def differ (name : String) : Bool :=
  compareValues (left name) (right name) ≠ .eq

/-- How columns put two rows: the first column in which the rows differ decides, in its direction. -/
def compareRows (columns : List SortColumn) : Ordering :=
  match columns.find? (fun column => differ compareValues left right column.name) with
  | some column =>
      column.direction.orient (compareValues (left column.name) (right column.name))
  | none =>
      .eq

variable {compareValues left right}

/-- The order depends on the first column of each name and on the order of the names without repetitions. -/
theorem compareRows_congr
    {columns others : List SortColumn}
    (names : others.map name = (columns.map name).eraseDups)
    (firsts : first? others = first? columns) :
    compareRows compareValues left right others = compareRows compareValues left right columns := by
  rw [compareRows, compareRows, find?_name_eq, find?_name_eq, names, find?_eraseDups, firsts]

/-- Rows that differ in one column are put by the first column of that name. -/
theorem compareRows_of_differ_iff
    {columns : List SortColumn}
    {name : String}
    (onlyThere : ∀ other, differ compareValues left right other = true ↔ other = name) :
    compareRows compareValues left right columns =
      (first? columns name).elim .eq (·.direction.orient (compareValues (left name) (right name))) := by
  have sameColumn : columns.find? (fun column => differ compareValues left right column.name) =
      first? columns name := by
    rw [first?]
    congr 1
    funext column
    rw [Bool.eq_iff_iff, onlyThere, decide_eq_true_iff]
  rw [compareRows, sameColumn]
  cases found : first? columns name with
  | none => rfl
  | some column =>
      obtain rfl := name_of_first? found
      rfl

/-- The order of values tells some value from another one and not from itself. -/
def TellsApart (compareValues : Value → Value → Ordering) : Prop :=
  ∃ value other, compareValues value value = .eq ∧ compareValues value other ≠ .eq

/-- Columns that put all rows alike have the same first column of each name. -/
theorem first?_eq_of_compareRows_eq
    {columns others : List SortColumn}
    (apart : TellsApart compareValues)
    (alike : ∀ left right,
      compareRows compareValues left right columns = compareRows compareValues left right others) :
    first? columns = first? others := by
  obtain ⟨value, other, same, different⟩ := apart
  funext name
  -- two rows that differ in this column only
  have onlyThere : ∀ present, differ compareValues (fun _ => value)
      (Function.update (fun _ => value) name other) present = true ↔ present = name := by
    intro present
    by_cases there : present = name
    · simp [differ, there, different]
    · simp [differ, there, same]
  have ordered := alike (fun _ => value) (Function.update (fun _ => value) name other)
  rw [compareRows_of_differ_iff onlyThere, compareRows_of_differ_iff onlyThere, Function.update_self] at ordered
  cases found : first? columns name with
  | none =>
      cases otherFound : first? others name with
      | none => rfl
      | some column =>
          rw [found, otherFound] at ordered
          exact absurd ordered.symm (column.direction.orient_ne_eq different)
  | some column =>
      cases otherFound : first? others name with
      | none =>
          rw [found, otherFound] at ordered
          exact absurd ordered (column.direction.orient_ne_eq different)
      | some otherColumn =>
          rw [found, otherFound] at ordered
          have direction := SortDirection.orient_injective different ordered
          have names := (name_of_first? found).trans (name_of_first? otherFound).symm
          cases column
          cases otherColumn
          simp_all

end Rows

/-! ## Sort documents -/

/-- The member of a sort document for a column. -/
def member (column : SortColumn) : String × Json :=
  (column.name, column.direction.mongo)

/-- The column of a member of a sort document; the numbers one and minus one are directions. -/
def ofMember? : String × Json → Option SortColumn
  | (name, .number (.integer direction _)) =>
      if direction = 1 then
        some { name, direction := .ascending }
      else if direction = -1 then
        some { name, direction := .descending }
      else
        none
  | _ =>
      none

/-- The columns of a sort document, in the order of its members. -/
def ofSortDocument? : Json → Option (List SortColumn)
  | .object members =>
      members.mapM ofMember?
  | _ =>
      none

@[simp] theorem ofMember?_member (column : SortColumn) : ofMember? column.member = some column := by
  obtain ⟨name, direction⟩ := column
  cases direction <;> rfl

/-- Put a column in the place of the one of its name, or behind all columns if there is none. -/
def place (columns : List SortColumn) (column : SortColumn) : List SortColumn :=
  match columns with
  | [] =>
      [column]
  | present :: rest =>
      if present.name = column.name then column :: rest else present :: place rest column

theorem insert_map_member
    (columns : List SortColumn)
    (column : SortColumn) :
    Members.insert (columns.map member) column.name column.direction.mongo =
      (place columns column).map member := by
  induction columns with
  | nil => rfl
  | cons present rest inductionHypothesis =>
      by_cases same : present.name = column.name
      · simp [member, Members.insert, place, same]
      · simp [member, Members.insert, place, same, ← inductionHypothesis]

theorem map_name_place
    (columns : List SortColumn)
    (column : SortColumn) :
    (place columns column).map name =
      if column.name ∈ columns.map name then columns.map name else columns.map name ++ [column.name] := by
  induction columns with
  | nil => rfl
  | cons present rest inductionHypothesis =>
      by_cases same : present.name = column.name
      · simp [place, same]
      · simp only [place, if_neg same, List.map_cons, inductionHypothesis, List.mem_cons, Ne.symm same,
          false_or]
        split_ifs <;> rfl

theorem first?_place
    (columns : List SortColumn)
    (column : SortColumn)
    (name : String) :
    first? (place columns column) name = if column.name = name then some column else first? columns name := by
  induction columns with
  | nil => exact first?_cons column [] name
  | cons present rest inductionHypothesis =>
      by_cases same : present.name = column.name
      · rw [place, if_pos same, first?_cons, first?_cons, same]
        split_ifs <;> rfl
      · rw [place, if_neg same, first?_cons, first?_cons, inductionHypothesis]
        by_cases named : present.name = name
        · rw [if_pos named, if_pos named, if_neg (named ▸ Ne.symm same)]
        · rw [if_neg named, if_neg named]

/-- Columns that are placed one after another stand in the order in which their names came up. -/
theorem map_name_foldl_place (columns : List SortColumn) :
    (columns.foldl place []).map name = (columns.map name).eraseDups := by
  induction columns using List.reverseRecOn with
  | nil => rfl
  | append_singleton front last inductionHypothesis =>
      rw [List.foldl_concat, map_name_place, inductionHypothesis, List.map_append, List.map_singleton,
        eraseDups_concat]
      simp only [List.mem_eraseDups]

/-- Of columns that are placed one after another, the last one of a name stays. -/
theorem first?_foldl_place (columns : List SortColumn) :
    first? (columns.foldl place []) = first? columns.reverse := by
  funext name
  induction columns using List.reverseRecOn with
  | nil => rfl
  | append_singleton front last inductionHypothesis =>
      rw [List.foldl_concat, first?_place, inductionHypothesis, List.reverse_concat, first?_cons]

end SortColumn

namespace Order

/-- The members of a sort document are the columns placed one after another. -/
theorem mongo_eq_placed (order : Order) :
    order.mongo = .object ((order.columns.foldl SortColumn.place []).map SortColumn.member) := by
  have members : order.columns.foldl
      (fun members column => Members.insert members column.name column.direction.mongo)
        (([] : List SortColumn).map SortColumn.member) =
          (order.columns.foldl SortColumn.place []).map SortColumn.member :=
    List.foldl_hom (List.map SortColumn.member) SortColumn.insert_map_member
  rw [List.map_nil] at members
  rw [mongo, members]

/-- The sort document is read as the columns placed one after another. -/
theorem ofSortDocument?_mongo (order : Order) :
    SortColumn.ofSortDocument? order.mongo = some (order.columns.foldl SortColumn.place []) := by
  rw [mongo_eq_placed, SortColumn.ofSortDocument?, mapM_map_eq_some fun column _ => column.ofMember?_member,
    List.map_id']

/--
The text and the sort document of an order are read as one list of columns each: the text as the clauses, the
document as the names in the order of their first clauses with the directions of their last ones. They put
all rows alike exactly when the first and the last clause of each name have the same direction.
-/
theorem sorts_alike_iff_directions_agree
    {order : Order}
    (areColumns : order.HasColumnClauses) :
    ∃ listed keys,
      (∀ columns, SortColumn.SpellsEach order.sql.toList columns ↔ columns = listed) ∧
      SortColumn.ofSortDocument? order.mongo = some keys ∧
      keys.map SortColumn.name = (listed.map SortColumn.name).eraseDups ∧
      SortColumn.first? keys = SortColumn.first? listed.reverse ∧
      ∀ {Value : Type} {compareValues : Value → Value → Ordering},
        SortColumn.TellsApart compareValues →
        ((∀ left right, SortColumn.compareRows compareValues left right keys =
            SortColumn.compareRows compareValues left right listed) ↔
          SortColumn.first? listed.reverse = SortColumn.first? listed) := by
  have spelled := spellsEach_sql areColumns
  have names := SortColumn.map_name_foldl_place order.columns
  have lasts := SortColumn.first?_foldl_place order.columns
  refine ⟨order.columns, _, ?_, order.ofSortDocument?_mongo, names, lasts, ?_⟩
  · intro columns
    constructor
    · intro otherSpelled
      exact otherSpelled.unique spelled
    · rintro rfl
      exact spelled
  · intro Value compareValues apart
    rw [← lasts]
    constructor
    · exact SortColumn.first?_eq_of_compareRows_eq apart
    · intro agree left right
      exact SortColumn.compareRows_congr names agree

/-- An order that repeats a column with the direction that it had. -/
def consistentSample : Order where
  clauses := ["year DESC", "title", "year desc"]

theorem sorts_alike_iff_directions_agree_consistentSample :
    consistentSample.HasColumnClauses ∧ SortColumn.TellsApart (compare : Nat → Nat → Ordering) ∧
      ∃ listed keys,
        SortColumn.SpellsEach "year DESC, title, year desc".toList listed ∧
        SortColumn.ofSortDocument? consistentSample.mongo = some keys ∧
        keys.map SortColumn.name = ["year", "title"] ∧
        ∀ left right : String → Nat,
          SortColumn.compareRows compare left right keys =
            SortColumn.compareRows compare left right listed := by
  have areColumns : consistentSample.HasColumnClauses := by
    intro clause listed
    simp only [consistentSample, List.mem_cons, List.not_mem_nil, or_false] at listed
    rcases listed with rfl | rfl | rfl
    · show ∃ column, SortColumn.Spells ("year".toList ++ ' ' :: "DESC".toList) column
      exact ⟨_, .directed (by decide) (SortDirection.ofWord?_eq_some_iff.1 rfl)⟩
    · exact ⟨_, .plain (by decide)⟩
    · show ∃ column, SortColumn.Spells ("year".toList ++ ' ' :: "desc".toList) column
      exact ⟨_, .directed (by decide) (SortDirection.ofWord?_eq_some_iff.1 rfl)⟩
  have apart : SortColumn.TellsApart (compare : Nat → Nat → Ordering) := ⟨0, 1, by decide, by decide⟩
  obtain ⟨listed, keys, onlyListed, document, names, -, alike⟩ :=
    sorts_alike_iff_directions_agree areColumns
  have isListed : consistentSample.columns = listed := (onlyListed _).1 (spellsEach_sql areColumns)
  have columns : consistentSample.columns =
      [⟨"year", .descending⟩, ⟨"title", .ascending⟩, ⟨"year", .descending⟩] := by
    decide
  have agree : SortColumn.first? listed.reverse = SortColumn.first? listed := by
    rw [← isListed, columns]
    funext name
    simp only [List.reverse_cons, List.reverse_nil, List.nil_append, List.cons_append, SortColumn.first?_cons]
  refine ⟨areColumns, apart, listed, keys, (onlyListed listed).2 rfl, document, ?_, (alike apart).2 agree⟩
  rw [names, ← isListed, columns]
  rfl

/-- An order that repeats a column with the other direction. -/
def contradictorySample : Order where
  clauses := ["year", "year desc"]

/-- The first clause of a column decides in the text and the last one in the sort document. -/
theorem repeated_column_sorts_apart :
    ¬∀ order : Order, order.HasColumnClauses →
      ∀ listed keys,
        SortColumn.SpellsEach order.sql.toList listed →
        SortColumn.ofSortDocument? order.mongo = some keys →
        ∀ left right : String → Nat,
          SortColumn.compareRows compare left right keys =
            SortColumn.compareRows compare left right listed := by
  intro alike
  have areColumns : contradictorySample.HasColumnClauses := by
    intro clause listed
    simp only [contradictorySample, List.mem_cons, List.not_mem_nil, or_false] at listed
    rcases listed with rfl | rfl
    · exact ⟨_, .plain (by decide)⟩
    · show ∃ column, SortColumn.Spells ("year".toList ++ ' ' :: "desc".toList) column
      exact ⟨_, .directed (by decide) (SortDirection.ofWord?_eq_some_iff.1 rfl)⟩
  have sameOrder := alike contradictorySample areColumns _ _ (spellsEach_sql areColumns)
    contradictorySample.ofSortDocument?_mongo (fun _ => 0) (fun _ => 1)
  have columns : contradictorySample.columns = [⟨"year", .ascending⟩, ⟨"year", .descending⟩] := by
    decide
  rw [columns] at sameOrder
  exact absurd sameOrder (by decide)

end Order
end QueryFilter
