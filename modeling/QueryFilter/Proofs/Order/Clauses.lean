import Mathlib.Data.List.DropRight
import QueryFilter.Proofs.Order.Columns

/-!
# Clauses read as columns

Every clause with a character that is not blank is read as one column. Of the clause without the blanks around
it, a last word behind blanks that names a direction is that direction, and what stands in front of these
blanks is the column; otherwise all of it is the column, in ascending direction.
-/

namespace QueryFilter

/-! ## Trimmed texts -/

namespace Text

/-- The text is trimmed, and with blanks around it, or none, it is the other one. -/
def IsTrimOf (text other : List Char) : Prop :=
  IsTrimmed text ∧
    ∃ front back, other = front ++ text ++ back ∧ (∀ char ∈ front, isBlank char = true) ∧
      ∀ char ∈ back, isBlank char = true

/-- What is trimmed away at the end of a text are blanks, and no blank is left there. -/
theorem exists_trimEnd_append (text : List Char) :
    ∃ blanks, trimEnd text ++ blanks = text ∧ (∀ char ∈ blanks, isBlank char = true) ∧
      ∀ char ∈ (trimEnd text).getLast?, isBlank char = false := by
  refine ⟨text.rtakeWhile isBlank, List.rdropWhile_append_rtakeWhile, ?_, ?_⟩
  · intro char listed
    exact List.mem_rtakeWhile_imp listed
  · intro char atEnd
    obtain ⟨nonempty, rfl⟩ := List.mem_getLast?_eq_getLast atEnd
    exact Bool.eq_false_iff.2 (List.rdropWhile_last_not isBlank text nonempty)

theorem head?_trimStart_visible (text : List Char) :
    ∀ char ∈ (trimStart text).head?, isBlank char = false := by
  intro char atStart
  have first := List.head?_dropWhile_not isBlank text
  rw [trimStart, Option.mem_def] at atStart
  rwa [atStart] at first

/-- Trimming takes away exactly the blanks around a text. -/
theorem isTrimOf_trim (text : List Char) : IsTrimOf (trim text) text := by
  obtain ⟨back, backEq, backBlank, endsVisible⟩ := exists_trimEnd_append (trimStart text)
  refine ⟨⟨?_, endsVisible⟩, text.takeWhile isBlank, back, ?_, fun _ => List.mem_takeWhile_imp, backBlank⟩
  · intro char atStart
    apply head?_trimStart_visible text char
    rw [← backEq, List.head?_append]
    rw [trim, Option.mem_def] at atStart
    rw [atStart]
    rfl
  · rw [List.append_assoc, trim, backEq]
    exact List.takeWhile_append_dropWhile.symm

/-- A text has no other trimmed text within blanks than the one that trimming leaves. -/
theorem IsTrimOf.trim_eq
    {text other : List Char}
    (isTrim : IsTrimOf text other) :
    trim other = text := by
  obtain ⟨trimmed, front, back, rfl, frontBlank, backBlank⟩ := isTrim
  have start : trimStart (front ++ text ++ back) = trimStart (text ++ back) := by
    rw [List.append_assoc]
    exact List.dropWhile_append_of_pos frontBlank
  rw [trim, start]
  cases text with
  | nil =>
      have nothing : trimStart ([] ++ back) = [] := List.dropWhile_eq_nil_iff.2 backBlank
      rw [nothing]
      rfl
  | cons first rest =>
      have visible : isBlank first = false := trimmed.1 first rfl
      have unchanged : trimStart (first :: rest ++ back) = first :: rest ++ back :=
        List.dropWhile_cons_of_neg (by simp [visible])
      rw [unchanged]
      exact trimEnd_append_blanks trimmed.2 backBlank

/-- The text has a character that is not blank. -/
def isVisible (text : List Char) : Bool :=
  text.any (!isBlank ·)

/-- Nothing is left of a text exactly when it has blanks only. -/
theorem trim_eq_nil_iff
    {text : List Char} :
    trim text = [] ↔ isVisible text = false := by
  have blanksOnly : isVisible text = false ↔ ∀ char ∈ text, isBlank char = true := by
    simp [isVisible]
  rw [blanksOnly]
  constructor
  · intro nothing
    obtain ⟨-, front, back, split, frontBlank, backBlank⟩ := isTrimOf_trim text
    rw [split, nothing, List.append_nil]
    exact List.forall_mem_append.2 ⟨frontBlank, backBlank⟩
  · intro blank
    have isTrim : IsTrimOf [] text := ⟨⟨by simp, by simp⟩, text, [], by simp, blank, by simp⟩
    exact isTrim.trim_eq

end Text

/-! ## The reading of a clause -/

namespace SortColumn

/-- The text is a name that does not end with a blank, then blanks, then the word of a direction in any case. -/
def IsDirected (text name : List Char) (direction : SortDirection) : Prop :=
  ∃ blanks word, text = name ++ blanks ++ word ∧
    (name ≠ [] ∧ ∀ char ∈ name.getLast?, Text.isBlank char = false) ∧
      (blanks ≠ [] ∧ ∀ char ∈ blanks, Text.isBlank char = true) ∧
        Request.Spells SortDirection.words (String.ofList word) direction

/-- The column of a text: by its name and direction if it has them, and otherwise the text itself. -/
def IsReadFrom (text : List Char) (column : SortColumn) : Prop :=
  (∀ name direction, IsDirected text name direction →
      column = { name := String.ofList name, direction }) ∧
    ((∀ name direction, ¬IsDirected text name direction) →
      column = { name := String.ofList text, direction := .ascending })

theorem ofTrimmed?_of_isDirected
    {text name : List Char}
    {direction : SortDirection}
    (directed : IsDirected text name direction) :
    ofTrimmed? text = some { name := String.ofList name, direction } := by
  obtain ⟨blanks, word, rfl, ⟨nonempty, endsVisible⟩, ⟨someBlank, areBlank⟩, spelled⟩ := directed
  rw [List.append_assoc]
  exact ofTrimmed?_directed nonempty endsVisible someBlank areBlank
    (SortDirection.ofWord?_eq_some_iff.2 spelled)

/-- A last word that names a direction is one, when something stands in front of it. -/
theorem isDirected_of_last_word
    {text : List Char}
    {direction : SortDirection}
    (trimmed : Text.IsTrimmed text)
    (named : SortDirection.ofWord? (text.rtakeWhile (!Text.isBlank ·)) = some direction)
    (inFront : text.rdropWhile (!Text.isBlank ·) ≠ []) :
    IsDirected text (Text.trimEnd (text.rdropWhile (!Text.isBlank ·))) direction := by
  have split : text.rdropWhile (!Text.isBlank ·) ++ text.rtakeWhile (!Text.isBlank ·) = text :=
    List.rdropWhile_append_rtakeWhile
  have lastBlank := List.rdropWhile_last_not (!Text.isBlank ·) text inFront
  generalize text.rdropWhile (!Text.isBlank ·) = front at split inFront lastBlank ⊢
  generalize text.rtakeWhile (!Text.isBlank ·) = word at named split
  obtain ⟨blanks, frontEq, areBlank, endsVisible⟩ := Text.exists_trimEnd_append front
  refine ⟨blanks, word, by rw [frontEq, split], ⟨?_, endsVisible⟩, ⟨?_, areBlank⟩,
    SortDirection.ofWord?_eq_some_iff.1 named⟩
  · -- the first character of the trimmed text is no blank
    intro nothing
    obtain ⟨first, rest, rfl⟩ := List.exists_cons_of_ne_nil inFront
    have visible : Text.isBlank first = false := trimmed.1 first (by rw [← split]; rfl)
    have blank : Text.isBlank first = true := by
      apply areBlank
      rw [nothing, List.nil_append] at frontEq
      rw [frontEq]
      exact List.mem_cons_self
    rw [visible] at blank
    cases blank
  · intro nothing
    rw [nothing, List.append_nil] at frontEq
    rw [frontEq] at endsVisible
    have visible := endsVisible (front.getLast inFront) (List.getLast?_eq_some_getLast inFront)
    rw [visible] at lastBlank
    exact lastBlank rfl

/-- A trimmed text that is not empty is read as its column. -/
theorem exists_ofTrimmed?_eq_some
    {text : List Char}
    (nonempty : text ≠ [])
    (trimmed : Text.IsTrimmed text) :
    ∃ column, ofTrimmed? text = some column ∧ IsReadFrom text column := by
  by_cases directed : ∃ name direction, IsDirected text name direction
  · obtain ⟨name, direction, isDirected⟩ := directed
    have read := ofTrimmed?_of_isDirected isDirected
    refine ⟨_, read, ?_, fun undirected => absurd isDirected (undirected name direction)⟩
    intro other otherDirection otherDirected
    exact Option.some.inj (read.symm.trans (ofTrimmed?_of_isDirected otherDirected))
  · push Not at directed
    refine ⟨{ name := String.ofList text, direction := .ascending }, ?_, ?_, fun _ => rfl⟩
    · obtain ⟨first, rest, rfl⟩ := List.exists_cons_of_ne_nil nonempty
      unfold ofTrimmed?
      dsimp only
      split
      next direction front before named inFront =>
        refine absurd (isDirected_of_last_word trimmed named ?_) (directed _ direction)
        exact ne_of_eq_of_ne inFront (List.cons_ne_nil front before)
      next => rfl
    · intro name direction isDirected
      exact absurd isDirected (directed name direction)

/-- The name of a column is trimmed and not empty. -/
theorem IsReadFrom.name_trimmed
    {text : List Char}
    {column : SortColumn}
    (read : IsReadFrom text column)
    (nonempty : text ≠ [])
    (trimmed : Text.IsTrimmed text) :
    column.name.toList ≠ [] ∧ Text.IsTrimmed column.name.toList := by
  by_cases directed : ∃ name direction, IsDirected text name direction
  · obtain ⟨name, direction, isDirected⟩ := directed
    rw [read.1 name direction isDirected, String.toList_ofList]
    obtain ⟨blanks, word, rfl, ⟨nameNonempty, endsVisible⟩, -, -⟩ := isDirected
    refine ⟨nameNonempty, ?_, endsVisible⟩
    rw [Text.IsTrimmed, List.append_assoc, List.head?_append_of_ne_nil _ nameNonempty] at trimmed
    exact trimmed.1
  · push Not at directed
    rw [read.2 directed, String.toList_ofList]
    exact ⟨nonempty, trimmed⟩

theorem ofClause?_eq_none
    {clause : String}
    (blank : Text.isVisible clause.toList = false) :
    ofClause? clause = none := by
  rw [ofClause?, Text.trim_eq_nil_iff.2 blank]
  rfl

/-- A clause with a character that is not blank is read as the column of its trimmed text. -/
theorem exists_ofClause?_eq_some
    {clause : String}
    (visible : Text.isVisible clause.toList = true) :
    ∃ column text, ofClause? clause = some column ∧ text ≠ [] ∧ Text.IsTrimOf text clause.toList ∧
      IsReadFrom text column := by
  have nonempty : Text.trim clause.toList ≠ [] := by
    rw [Ne, Text.trim_eq_nil_iff, visible]
    exact nofun
  have isTrim := Text.isTrimOf_trim clause.toList
  obtain ⟨column, read, isRead⟩ := exists_ofTrimmed?_eq_some nonempty isTrim.1
  exact ⟨column, Text.trim clause.toList, read, nonempty, isTrim, isRead⟩

end SortColumn

namespace Order

/-- Clauses with a character that is not blank and columns pair up, in order. -/
theorem columns_forall₂ (order : Order) :
    List.Forall₂
      (fun clause column =>
        ∃ text, text ≠ [] ∧ Text.IsTrimOf text clause.toList ∧ SortColumn.IsReadFrom text column)
      (order.clauses.filter fun clause => Text.isVisible clause.toList) order.columns := by
  obtain ⟨clauses⟩ := order
  rw [columns]
  induction clauses with
  | nil => exact .nil
  | cons clause rest inductionHypothesis =>
      cases visible : Text.isVisible clause.toList with
      | false =>
          rw [List.filter_cons_of_neg (by simp [visible]),
            List.filterMap_cons_none (SortColumn.ofClause?_eq_none visible)]
          exact inductionHypothesis
      | true =>
          obtain ⟨column, text, found, isRead⟩ := SortColumn.exists_ofClause?_eq_some visible
          rw [List.filter_cons_of_pos (by simp [visible]), List.filterMap_cons_some found]
          exact .cons ⟨text, isRead⟩ inductionHypothesis

/-- The names of columns are trimmed and not empty. -/
theorem name_trimmed_of_mem_columns
    {order : Order}
    {column : SortColumn}
    (listed : column ∈ order.columns) :
    column.name.toList ≠ [] ∧ Text.IsTrimmed column.name.toList := by
  obtain ⟨clause, -, found⟩ := List.mem_filterMap.1 listed
  cases visible : Text.isVisible clause.toList with
  | false =>
      rw [SortColumn.ofClause?_eq_none visible] at found
      cases found
  | true =>
      obtain ⟨other, text, otherFound, nonempty, isTrim, isRead⟩ :=
        SortColumn.exists_ofClause?_eq_some visible
      obtain rfl := Option.some.inj (otherFound.symm.trans found)
      exact isRead.name_trimmed nonempty isTrim.1

/-- The name of a column with the word of a direction behind it is read as the column in that direction. -/
theorem columns_directed
    {order : Order}
    {column : SortColumn}
    (listed : column ∈ order.columns)
    {word : String}
    {direction : SortDirection}
    (spelled : Request.Spells SortDirection.words word direction) :
    columns { clauses := [column.name ++ " " ++ word] } = [{ column with direction }] := by
  obtain ⟨nonempty, trimmed⟩ := name_trimmed_of_mem_columns listed
  have named : SortDirection.ofWord? word.toList = some direction := by
    rwa [SortDirection.ofWord?_eq_some_iff, String.ofList_toList]
  have written : (column.name ++ " " ++ word).toList = column.name.toList ++ ' ' :: word.toList := by simp
  have found := SortColumn.ofClause?_directed nonempty trimmed named written
  rw [String.ofList_toList] at found
  rw [columns, List.filterMap_cons_some found, List.filterMap_nil]

/-- A clause that is only the word of a direction, with or without blanks around it, is a column. -/
theorem columns_direction_word
    {clause : String}
    {word : List Char}
    {direction : SortDirection}
    (isTrim : Text.IsTrimOf word clause.toList)
    (spelled : Request.Spells SortDirection.words (String.ofList word) direction) :
    columns { clauses := [clause] } = [{ name := String.ofList word, direction := .ascending }] := by
  have token := SortDirection.isToken_of_ofWord? (SortDirection.ofWord?_eq_some_iff.2 spelled)
  have found : SortColumn.ofClause? clause =
      some { name := String.ofList word, direction := .ascending } := by
    rw [SortColumn.ofClause?, isTrim.trim_eq]
    exact SortColumn.ofTrimmed?_word token.1 (Text.isBlank_eq_false_of_isToken token)
  rw [columns, List.filterMap_cons_some found, List.filterMap_nil]

/--
The columns of an order are, in order, those of its clauses that have a character that is not blank. Each is
read from the trimmed text of its clause: by name and direction when the text is a name, blanks and the word
of a direction, and otherwise the whole text in ascending direction. Every column has a trimmed name that is
not empty, and that name with the word of a direction is read as the column in this direction. A clause that
is only such a word is a column of this name.
-/
theorem columns_read_each_clause (order : Order) :
    List.Forall₂
        (fun clause column =>
          ∃ text, text ≠ [] ∧ Text.IsTrimOf text clause.toList ∧ SortColumn.IsReadFrom text column)
        (order.clauses.filter fun clause => Text.isVisible clause.toList) order.columns ∧
      (∀ column ∈ order.columns,
        (column.name.toList ≠ [] ∧ Text.IsTrimmed column.name.toList) ∧
          ∀ word direction, Request.Spells SortDirection.words word direction →
            columns { clauses := [column.name ++ " " ++ word] } = [{ column with direction }]) ∧
        ∀ clause word direction, Text.IsTrimOf word clause.toList →
          Request.Spells SortDirection.words (String.ofList word) direction →
            columns { clauses := [clause] } =
              [{ name := String.ofList word, direction := .ascending }] := by
  refine ⟨columns_forall₂ order, ?_, ?_⟩
  · intro column listed
    refine ⟨name_trimmed_of_mem_columns listed, ?_⟩
    intro word direction spelled
    exact columns_directed listed spelled
  · intro clause word direction isTrim spelled
    exact columns_direction_word isTrim spelled

/-- Clauses with several kinds of blanks, with words of directions as names, and with blanks only. -/
def mixedOrder : Order :=
  { clauses := ["\u2003year \tDESC ", "\u3000", "desc", "first name asc  deSC", ""] }

theorem columns_read_each_clause_mixedOrder :
    mixedOrder.columns =
        [{ name := "year", direction := .descending }, { name := "desc", direction := .ascending },
          { name := "first name asc", direction := .descending }] ∧
      Request.Spells SortDirection.words "ASC" .ascending ∧
        columns { clauses := ["first name asc" ++ " " ++ "ASC"] } =
          [{ name := "first name asc", direction := .ascending }] ∧
          Text.IsTrimOf "Desc".toList "\tDesc ".toList ∧
            columns { clauses := ["\tDesc "] } = [{ name := "Desc", direction := .ascending }] := by
  have read : mixedOrder.columns =
      [{ name := "year", direction := .descending }, { name := "desc", direction := .ascending },
        { name := "first name asc", direction := .descending }] := by rfl
  have ascending : Request.Spells SortDirection.words "ASC" .ascending := ⟨"asc", by decide, by decide⟩
  have descending : Request.Spells SortDirection.words "Desc" .descending := ⟨"desc", by decide, by decide⟩
  have isTrim : Text.IsTrimOf "Desc".toList "\tDesc ".toList := Text.isTrimOf_trim "\tDesc ".toList
  obtain ⟨-, ofColumn, ofWord⟩ := columns_read_each_clause mixedOrder
  refine ⟨read, ascending, ?_, isTrim, ofWord _ _ .descending isTrim descending⟩
  have listed : { name := "first name asc", direction := .descending } ∈ mixedOrder.columns := by
    rw [read]
    simp
  exact (ofColumn _ listed).2 "ASC" .ascending ascending

end Order
end QueryFilter
