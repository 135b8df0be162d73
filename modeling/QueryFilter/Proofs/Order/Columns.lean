import QueryFilter.Order
import QueryFilter.Proofs.Sql.ReadBack

/-!
# Columns of sort clauses

A clause of one token, with at most a direction behind a space, spells a column. The lookup by the last word
finds exactly that column, and a text of such clauses with commas between them spells one list of columns.
-/

namespace QueryFilter

/-! ## Blanks and tokens -/

namespace Text

/-- Blank characters are no letters. -/
theorem toLower_eq_self_of_isBlank
    {char : Char}
    (blank : isBlank char = true) :
    char.toLower = char := by
  have noCapital : ¬IsCapital char := by
    rintro ⟨lowest, highest⟩
    simp only [Char.reduceToNat] at lowest highest
    simp only [isBlank, Bool.or_eq_true, Bool.and_eq_true, decide_eq_true_eq, beq_iff_eq] at blank
    omega
  rw [← Char.toNat_inj, toNat_toLower, if_neg noCapital]

/-- The text neither begins nor ends with a blank. -/
def IsTrimmed (text : List Char) : Prop :=
  (∀ char ∈ text.head?, isBlank char = false) ∧ ∀ char ∈ text.getLast?, isBlank char = false

theorem isTrimmed_of_visible
    {text : List Char}
    (visible : ∀ char ∈ text, isBlank char = false) :
    IsTrimmed text :=
  ⟨fun char atStart => visible char (List.mem_of_mem_head? atStart),
    fun char atEnd => visible char (List.mem_of_mem_getLast? atEnd)⟩

theorem trimEnd_eq_self
    {text : List Char}
    (endsVisible : ∀ char ∈ text.getLast?, isBlank char = false) :
    trimEnd text = text := by
  rw [trimEnd, List.reverse_eq_iff]
  cases reversed : text.reverse with
  | nil => rfl
  | cons last front =>
      have visible : isBlank last = false := by
        apply endsVisible
        rw [← List.head?_reverse, reversed]
        rfl
      rw [List.dropWhile_cons_of_neg (by simp [visible])]

theorem trim_eq_self
    {text : List Char}
    (trimmed : IsTrimmed text) :
    trim text = text := by
  have start : trimStart text = text := by
    cases text with
    | nil => rfl
    | cons first rest =>
        have visible : isBlank first = false := trimmed.1 first rfl
        rw [trimStart, List.dropWhile_cons_of_neg (by simp [visible])]
  rw [trim, start, trimEnd_eq_self trimmed.2]

/-- Blanks behind a text that does not end with one are trimmed away. -/
theorem trimEnd_append_blanks
    {text blanks : List Char}
    (endsVisible : ∀ char ∈ text.getLast?, isBlank char = false)
    (areBlank : ∀ char ∈ blanks, isBlank char = true) :
    trimEnd (text ++ blanks) = text := by
  have dropped : (text ++ blanks).reverse.dropWhile isBlank = text.reverse.dropWhile isBlank := by
    rw [List.reverse_append, List.dropWhile_append_of_pos]
    simpa using areBlank
  rw [trimEnd, dropped]
  exact trimEnd_eq_self endsVisible

/-- The character can stand in a token: it is neither blank nor a comma. -/
def isTokenChar (char : Char) : Bool :=
  !isBlank char && char != ','

/-- One or more characters without blanks and commas. -/
def IsToken (word : List Char) : Prop :=
  word ≠ [] ∧ ∀ char ∈ word, isTokenChar char = true

instance (word : List Char) : Decidable (IsToken word) :=
  decidable_of_iff (word ≠ [] ∧ word.all isTokenChar = true) (by simp [IsToken])

theorem isBlank_eq_false_of_isToken
    {word : List Char}
    (token : IsToken word) :
    ∀ char ∈ word, isBlank char = false := by
  intro char listed
  have inside := token.2 char listed
  simp only [isTokenChar, Bool.and_eq_true, Bool.not_eq_true'] at inside
  exact inside.1

end Text

/-! ## Directions -/

namespace SortDirection

/-- The words of the directions. -/
def words : List (String × SortDirection) :=
  [("asc", .ascending), ("desc", .descending)]

/-- A word names the direction whose word it spells, in any case. -/
theorem ofWord?_eq_some_iff
    {word : List Char}
    {direction : SortDirection} :
    ofWord? word = some direction ↔ Request.Spells words (String.ofList word) direction := by
  rw [Request.spells_iff_lower_mem (by decide)]
  have ascending : Text.lower (String.ofList word) = "asc" ↔ word.map Char.toLower = ['a', 's', 'c'] := by
    rw [← String.toList_inj]
    simp
  have descending : Text.lower (String.ofList word) = "desc" ↔
      word.map Char.toLower = ['d', 'e', 's', 'c'] := by
    rw [← String.toList_inj]
    simp
  unfold ofWord?
  split_ifs with isAscending isDescending <;>
    simp_all [words, eq_comm]

/-- A word that names a direction is a token. -/
theorem isToken_of_ofWord?
    {word : List Char}
    {direction : SortDirection}
    (named : ofWord? word = some direction) :
    Text.IsToken word := by
  have table : ∀ entry ∈ words, entry.1.toList.all Text.isTokenChar = true := by decide
  rw [ofWord?_eq_some_iff, Request.spells_iff_lower_mem (by decide)] at named
  constructor
  · rintro rfl
    revert named
    cases direction <;> decide
  · intro char listed
    by_contra outside
    -- blanks and commas have no capital form, so such a character stands in the word of the table too
    have unchanged : char.toLower = char := by
      simp only [Text.isTokenChar, Bool.and_eq_true, Bool.not_eq_true', bne_iff_ne, ne_eq, not_and, not_not,
        ← Bool.not_eq_true] at outside
      by_cases blank : Text.isBlank char = true
      · exact Text.toLower_eq_self_of_isBlank blank
      · rw [outside blank]
        rfl
    have inWord : char ∈ (Text.lower (String.ofList word)).toList := by
      rw [Text.toList_lower, String.toList_ofList]
      exact List.mem_map.2 ⟨char, listed, unchanged⟩
    exact outside (List.all_eq_true.1 (table _ named) char inWord)

end SortDirection

/-! ## Clauses -/

namespace SortColumn

/-- The characters spell the column: a token, and a direction behind one space if there is one. -/
inductive Spells : List Char → SortColumn → Prop
  | plain {name : List Char} :
      Text.IsToken name →
      Spells name { name := String.ofList name, direction := .ascending }
  | directed {name word : List Char} {direction : SortDirection} :
      Text.IsToken name →
      Request.Spells SortDirection.words (String.ofList word) direction →
      Spells (name ++ ' ' :: word) { name := String.ofList name, direction }

/-- A clause of one word is a column, whatever the word is. -/
theorem ofTrimmed?_word
    {word : List Char}
    (nonempty : word ≠ [])
    (visible : ∀ char ∈ word, Text.isBlank char = false) :
    ofTrimmed? word = some { name := String.ofList word, direction := .ascending } := by
  have noBlank : word.reverse.dropWhile (!Text.isBlank ·) = [] := by
    rw [List.dropWhile_eq_nil_iff]
    simpa using visible
  obtain ⟨first, rest, rfl⟩ := List.exists_cons_of_ne_nil nonempty
  unfold ofTrimmed?
  simp only [noBlank]
  split
  · simp_all
  · rfl

/-- A direction behind blanks is the direction of what stands in front of them. -/
theorem ofTrimmed?_directed
    {column blanks word : List Char}
    {direction : SortDirection}
    (nonempty : column ≠ [])
    (endsVisible : ∀ char ∈ column.getLast?, Text.isBlank char = false)
    (someBlank : blanks ≠ [])
    (areBlank : ∀ char ∈ blanks, Text.isBlank char = true)
    (named : SortDirection.ofWord? word = some direction) :
    ofTrimmed? (column ++ (blanks ++ word)) = some { name := String.ofList column, direction } := by
  obtain ⟨front, last, rfl⟩ := (List.eq_nil_or_concat' blanks).resolve_left someBlank
  have lastBlank : Text.isBlank last = true := areBlank last (by simp)
  have wordVisible : ∀ char ∈ word.reverse, (!Text.isBlank char) = true := by
    simpa using Text.isBlank_eq_false_of_isToken (SortDirection.isToken_of_ofWord? named)
  have reversed : (column ++ (front ++ [last] ++ word)).reverse =
      word.reverse ++ last :: (column ++ front).reverse := by
    simp
  have lastWord : ((column ++ (front ++ [last] ++ word)).reverse.takeWhile (!Text.isBlank ·)).reverse =
      word := by
    rw [reversed, List.takeWhile_append_of_pos wordVisible, List.takeWhile_cons_of_neg (by simp [lastBlank]),
      List.append_nil, List.reverse_reverse]
  have inFront : ((column ++ (front ++ [last] ++ word)).reverse.dropWhile (!Text.isBlank ·)).reverse =
      column ++ (front ++ [last]) := by
    rw [reversed, List.dropWhile_append_of_pos wordVisible, List.dropWhile_cons_of_neg (by simp [lastBlank])]
    simp
  have trimmed := Text.trimEnd_append_blanks endsVisible areBlank
  obtain ⟨first, rest, rfl⟩ := List.exists_cons_of_ne_nil nonempty
  simp only [List.cons_append] at lastWord inFront trimmed ⊢
  unfold ofTrimmed?
  simp only [lastWord, inFront, named, trimmed]

/-- A direction behind a space is the direction of the trimmed column in front of it. -/
theorem ofClause?_directed
    {clause : String}
    {column word : List Char}
    {direction : SortDirection}
    (nonempty : column ≠ [])
    (columnTrimmed : Text.IsTrimmed column)
    (named : SortDirection.ofWord? word = some direction)
    (written : clause.toList = column ++ ' ' :: word) :
    ofClause? clause = some { name := String.ofList column, direction } := by
  have wordToken := SortDirection.isToken_of_ofWord? named
  have wordTrimmed := Text.isTrimmed_of_visible (Text.isBlank_eq_false_of_isToken wordToken)
  have trimmed : Text.IsTrimmed (column ++ ' ' :: word) := by
    constructor
    · rw [List.head?_append_of_ne_nil _ nonempty]
      exact columnTrimmed.1
    · rw [List.getLast?_append_of_ne_nil _ (List.cons_ne_nil ' ' word),
        List.getLast?_cons_of_ne_nil wordToken.1]
      exact wordTrimmed.2
  rw [ofClause?, written, Text.trim_eq_self trimmed]
  exact ofTrimmed?_directed nonempty columnTrimmed.2 (List.cons_ne_nil ' ' [])
    (List.forall_mem_singleton.2 rfl) named

/-- The lookup by the last word finds the column that a clause spells. -/
theorem ofClause?_of_spells
    {clause : String}
    {column : SortColumn}
    (spelled : Spells clause.toList column) :
    ofClause? clause = some column := by
  generalize written : clause.toList = text at spelled
  cases spelled with
  | plain token =>
      have visible := Text.isBlank_eq_false_of_isToken token
      rw [ofClause?, written, Text.trim_eq_self (Text.isTrimmed_of_visible visible)]
      exact ofTrimmed?_word token.1 visible
  | directed token spelled =>
      have nameTrimmed := Text.isTrimmed_of_visible (Text.isBlank_eq_false_of_isToken token)
      exact ofClause?_directed token.1 nameTrimmed (SortDirection.ofWord?_eq_some_iff.2 spelled) written

/-! ## Lists of columns -/

/-- The characters spell the columns, with commas between them; no characters spell no columns. -/
inductive SpellsEach : List Char → List SortColumn → Prop
  | empty :
      SpellsEach [] []
  | listed {text : List Char} {first : SortColumn} {others : List SortColumn} :
      Fragment.SpellsListed Spells text (first, others) →
      SpellsEach text (first :: others)

/-- The column that the characters in front of the next comma spell. -/
def readColumn? : Fragment.Reader SortColumn :=
  fun text => do
    let (word, rest) ← Fragment.readSpan? (· != ',') text
    let column ← ofClause? (String.ofList word)
    some (column, rest)

/-- What spells a column is not empty and holds no comma. -/
theorem ne_comma_of_spells
    {word : List Char}
    {column : SortColumn}
    (spelled : Spells word column) :
    word ≠ [] ∧ ∀ char ∈ word, (char != ',') = true := by
  have noComma : ∀ {token : List Char}, Text.IsToken token → ∀ char ∈ token, (char != ',') = true := by
    intro token isToken char listed
    exact (Bool.and_eq_true_iff.1 (isToken.2 char listed)).2
  cases spelled with
  | plain token => exact ⟨token.1, noComma token⟩
  | directed token spelled =>
      have wordToken := SortDirection.isToken_of_ofWord? (SortDirection.ofWord?_eq_some_iff.2 spelled)
      refine ⟨by simp, List.forall_mem_append.2 ⟨noComma token, List.forall_mem_cons.2 ⟨rfl, ?_⟩⟩⟩
      exact noComma wordToken

theorem readColumn?_isComplete :
    Fragment.Reader.IsComplete readColumn? Spells fun rest => ∀ char ∈ rest.head?, (char != ',') = false := by
  intro word column rest spelled ends
  obtain ⟨nonempty, noComma⟩ := ne_comma_of_spells spelled
  have span : Fragment.readSpan? (· != ',') (word ++ rest) = some (word, rest) :=
    Fragment.readSpan?_eq_some_iff.2 ⟨rfl, nonempty, noComma, ends⟩
  have found : ofClause? (String.ofList word) = some column := by
    apply ofClause?_of_spells
    rwa [String.toList_ofList]
  simp [readColumn?, span, found]

/-- A text that spells columns is read as these columns. -/
theorem readListed?_of_spellsListed
    {text : List Char}
    {columns : SortColumn × List SortColumn}
    (spelled : Fragment.SpellsListed Spells text columns) :
    Fragment.readListed? readColumn? text = some (columns, []) := by
  have commaEnds : ∀ behind, ∀ char ∈ (Fragment.comma ++ behind).head?, (char != ',') = false := by
    simp [Fragment.comma]
  have nothingBehind : (∀ char ∈ ([] : List Char).head?, (char != ',') = false) ∧ ¬Fragment.comma <+: [] :=
    ⟨by simp, by decide⟩
  have complete := Fragment.readListed?_isComplete readColumn?_isComplete commaEnds spelled nothingBehind
  rwa [List.append_nil] at complete

/-- A text spells at most one list of columns. -/
theorem SpellsEach.unique
    {text : List Char}
    {columns others : List SortColumn}
    (spelled : SpellsEach text columns)
    (otherSpelled : SpellsEach text others) :
    columns = others := by
  have notEmpty : Fragment.readListed? readColumn? [] = none := rfl
  cases spelled with
  | empty =>
      cases otherSpelled with
      | empty => rfl
      | listed spelled => cases notEmpty.symm.trans (readListed?_of_spellsListed spelled)
  | listed spelled =>
      have read := readListed?_of_spellsListed spelled
      cases otherSpelled with
      | empty => cases notEmpty.symm.trans read
      | listed otherSpelled =>
          have same := read.symm.trans (readListed?_of_spellsListed otherSpelled)
          simpa using same

end SortColumn

namespace Order

/-- Each clause is a column. -/
def HasColumnClauses (order : Order) : Prop :=
  ∀ clause ∈ order.clauses, ∃ column, SortColumn.Spells clause.toList column

/-- Clauses that are columns are written as a text that spells the columns of the order. -/
theorem spellsEach_sql
    {order : Order}
    (areColumns : order.HasColumnClauses) :
    SortColumn.SpellsEach order.sql.toList order.columns := by
  obtain ⟨clauses⟩ := order
  have nonempty : Nonempty SortColumn := ⟨{ name := "", direction := .ascending }⟩
  choose! columnOf spelled using areColumns
  have columns : clauses.filterMap SortColumn.ofClause? = clauses.map columnOf := by
    rw [← List.filterMap_eq_map]
    apply List.filterMap_congr
    intro clause listed
    exact SortColumn.ofClause?_of_spells (spelled clause listed)
  rw [Order.columns, columns, Order.sql, String.toList_intercalate]
  cases clauses with
  | nil => exact .empty
  | cons first others => exact .listed (Fragment.spellsListed_map String.toList columnOf spelled)

end Order
end QueryFilter
