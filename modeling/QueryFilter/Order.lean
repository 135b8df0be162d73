import QueryFilter.Text.Blank

/-!
# Sort orders

An order is a list of clauses as the caller wrote them. A clause is read as a column and a direction: the
direction is the last word when that word names one, and everything before it is the column.
-/

namespace QueryFilter

/-- The direction of a sort column. -/
inductive SortDirection
  | ascending
  | descending
  deriving DecidableEq, Repr

/-- A column to sort by and its direction. -/
structure SortColumn where
  /-- The name of the column. -/
  name : String
  /-- The direction of the column. -/
  direction : SortDirection
  deriving DecidableEq, Repr

/-- A list of sort clauses. -/
structure Order where
  /-- The clauses, as written. -/
  clauses : List String
  deriving DecidableEq, Repr

namespace SortDirection

/-- The direction that a word names, in any ASCII case. -/
def ofWord? (word : List Char) : Option SortDirection :=
  if word.map Char.toLower = ['a', 's', 'c'] then
    some .ascending
  else if word.map Char.toLower = ['d', 'e', 's', 'c'] then
    some .descending
  else
    none

end SortDirection

namespace SortColumn

/-- The column of a clause without blanks at its ends; an empty clause has none. -/
def ofTrimmed? (clause : List Char) : Option SortColumn :=
  match clause with
  | [] =>
      none
  | _ :: _ =>
      let word := (clause.reverse.takeWhile (!Text.isBlank ·)).reverse
      let front := (clause.reverse.dropWhile (!Text.isBlank ·)).reverse
      match SortDirection.ofWord? word, front with
      | some direction, _ :: _ =>
          some { name := String.ofList (Text.trimEnd front), direction }
      | _, _ =>
          some { name := String.ofList clause, direction := .ascending }

/-- The column of a clause; a clause of blanks has none. -/
def ofClause? (clause : String) : Option SortColumn :=
  ofTrimmed? (Text.trim clause.toList)

end SortColumn

namespace Order

/-- The order with these clauses; none when there is no clause. -/
def ofClauses? : List String → Option Order
  | [] =>
      none
  | first :: rest =>
      some { clauses := first :: rest }

theorem ofClauses?_eq_some_iff
    {clauses : List String}
    {order : Order} :
    ofClauses? clauses = some order ↔ clauses ≠ [] ∧ order.clauses = clauses := by
  cases clauses with
  | nil => simp [ofClauses?]
  | cons first rest =>
      obtain ⟨own⟩ := order
      simp [ofClauses?, eq_comm]

/-- The columns of an order, clause by clause. -/
def columns (order : Order) : List SortColumn :=
  order.clauses.filterMap SortColumn.ofClause?

end Order
end QueryFilter
