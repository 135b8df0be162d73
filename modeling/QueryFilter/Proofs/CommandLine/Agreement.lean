import QueryFilter.CommandLine.Report
import QueryFilter.Proofs.Order.Clauses

/-!
# Explanations agree with renderings

Without colour, an explanation holds the rendering of the same input in either language, and it fails exactly
when rendering fails. A fragment is printed without the one space in front of its first keyword, for a keyword
begins with a letter.
-/

namespace QueryFilter

/-! ## The space in front of a fragment -/

namespace Text

theorem trimStart_append
    {text : List Char}
    (visible : trimStart text ≠ [])
    (rest : List Char) :
    trimStart (text ++ rest) = trimStart text ++ rest := by
  rw [trimStart, List.dropWhile_append, if_neg (by simpa [trimStart] using visible)]
  rfl

end Text

namespace Filter

/-- The keywords of a fragment, with the spaces around them. -/
def spacedKeywords : List (List Char) :=
  [" WHERE ".toList, " ORDER BY ".toList, " LIMIT ".toList, " OFFSET ".toList]

theorem clauseSql_eq_empty_iff
    {keyword : String}
    {operand? : Option String} :
    clauseSql keyword operand? = "" ↔ operand? = none := by
  cases operand? with
  | none => simp [clauseSql]
  | some operand => simp [clauseSql]

/-- The fragment is empty only when nothing is set. -/
theorem sql_eq_empty_iff
    {filter : Filter} :
    filter.sql = "" ↔ filter = empty := by
  obtain ⟨condition, order, limit, skip⟩ := filter
  simp [sql, empty, clauseSql_eq_empty_iff, and_assoc]

/-- A clause that is set begins with its keyword, whatever its operand is. -/
theorem spellsPart_clauseSql
    (keyword : String)
    (write : α → String)
    (value : Option α) :
    Fragment.SpellsPart (" " ++ keyword ++ " ") (fun _ _ => True) (clauseSql keyword (value.map write)).toList
      (value.map id) :=
  Fragment.spellsPart_clauseSql keyword id value fun _ _ => trivial

/-- The fragment is empty or begins with a keyword. -/
theorem sql_beginsWith (filter : Filter) : Fragment.BeginsWith spacedKeywords filter.sql.toList := by
  have nothing : Fragment.BeginsWith [] [] := .inl rfl
  have skip := (spellsPart_clauseSql "OFFSET" countText filter.skip).beginsWith nothing
  have limit := (spellsPart_clauseSql "LIMIT" countText filter.limit).beginsWith skip
  have order := (spellsPart_clauseSql "ORDER BY" Order.sql filter.order).beginsWith limit
  have condition := (spellsPart_clauseSql "WHERE" Condition.sql filter.condition).beginsWith order
  simpa [sql, spacedKeywords, List.append_assoc] using condition

/-- Of every keyword exactly the space in front is a blank at its start. -/
theorem trimStart_spacedKeyword :
    ∀ keyword ∈ spacedKeywords, ' ' :: Text.trimStart keyword = keyword ∧ Text.trimStart keyword ≠ [] := by
  decide

/-- The fragment of a filter that is not empty is a space and the fragment without blanks at its start. -/
theorem sql_eq_space_append
    {filter : Filter}
    (notEmpty : filter ≠ empty) :
    filter.sql = " " ++ CommandLine.bareSql filter := by
  rcases filter.sql_beginsWith with nothing | ⟨keyword, listed, rest, written⟩
  · rw [← String.toList_empty, String.toList_inj, sql_eq_empty_iff] at nothing
    exact absurd nothing notEmpty
  · obtain ⟨spaced, visible⟩ := trimStart_spacedKeyword keyword listed
    have text : filter.sql.toList = ' ' :: (Text.trimStart keyword ++ rest) := by
      rw [← written, ← List.cons_append, spaced]
    rw [← String.toList_inj, CommandLine.bareSql, ← written, Text.trimStart_append visible, written, text]
    simp

end Filter

/-! ## Both reports on one input -/

namespace CommandLine

theorem lines_append (texts others : List String) : lines (texts ++ others) = lines texts ++ lines others := by
  rw [lines, List.map_append, String.join_append]
  rfl

/-- The lines of an explanation about the parts of the filter, above the texts in the two languages. -/
def structureLines (filter : Filter) : List String :=
  ["Parsed Structure:"] ++ conditionLines false filter.condition ++
    partLines false "Order:" (filter.order.map Order.sql) ++
    partLines false "Limit:" (filter.limit.map Filter.countText) ++
    partLines false "Skip:" (filter.skip.map Filter.countText)

theorem lines_sectionLines (heading text : String) :
    lines (sectionLines false heading text) = "\n" ++ heading ++ "\n  " ++ line text := by
  apply String.toList_inj.1
  simp [lines, sectionLines, line]

theorem lines_filterLines (pretty : Bool) (filter : Filter) :
    lines (filterLines false pretty filter) =
      lines (structureLines filter) ++
        ("\nGenerated SQL:\n  " ++ line (written .mysql pretty filter)) ++
        ("\nMongoDB:\n  " ++ line (written .mongo pretty filter)) := by
  have sql := lines_sectionLines "Generated SQL:" (written .mysql pretty filter)
  have mongo := lines_sectionLines "MongoDB:" (written .mongo pretty filter)
  rw [filterLines, lines_append, lines_append, sql, mongo]
  rfl

/-- The heading of an explanation and its line about the input. -/
def heading (trimmed : List Char) : String :=
  "qfilter explanation\n\nInput: " ++ String.ofList trimmed ++ "\n\n"

theorem lines_openingLines (input : String) :
    lines (openingLines false input) = heading (Text.trim input.toList) := by
  delta heading
  apply String.toList_inj.1
  simp [lines, openingLines, line]

section Runs

variable {decode : Json.Decoder} {config : Config} {input : String} {filter : Filter} {fault : RunFault}

theorem filterOf_of_error
    {reason : String}
    (refused : decode input = .error reason) :
    filterOf decode input = .error (.notJson reason) := by
  rw [filterOf, refused]

theorem render_of_ok (read : filterOf decode input = .ok filter) :
    render decode config input = { output := line (written config.backend config.pretty filter), fault? := none } := by
  rw [render, read]

theorem render_of_error (rejected : filterOf decode input = .error fault) :
    render decode config input = { output := "", fault? := some fault } := by
  rw [render, rejected]

theorem explain_of_ok
    (plain : config.color = false)
    (read : filterOf decode input = .ok filter) :
    explain decode config input =
      { output :=
          heading (Text.trim input.toList) ++ lines (structureLines filter) ++
            ("\nGenerated SQL:\n  " ++ line (written .mysql config.pretty filter)) ++
            ("\nMongoDB:\n  " ++ line (written .mongo config.pretty filter))
        fault? := none } := by
  rw [explain, read, plain, lines_openingLines]
  simp only [lines_filterLines, String.append_assoc]

theorem explain_of_error
    (plain : config.color = false)
    (rejected : filterOf decode input = .error fault) :
    explain decode config input = { output := heading (Text.trim input.toList), fault? := some fault } := by
  rw [explain, rejected, plain, lines_openingLines]

end Runs

/-- A filter is written as its fragment without the one space that stands in front, if there is any. -/
theorem bareSql_cases (filter : Filter) :
    (filter = .empty ∧ filter.sql = "" ∧ bareSql filter = "") ∨
      filter ≠ .empty ∧ filter.sql = " " ++ bareSql filter := by
  by_cases isEmpty : filter = .empty
  · subst isEmpty
    exact .inl ⟨rfl, rfl, rfl⟩
  · exact .inr ⟨isEmpty, Filter.sql_eq_space_append isEmpty⟩

/--
Whatever decodes the input: without colour, its explanation and its rendering fail together and with the same
fault, which is the word of the decoder if that refuses the input, the rendering without any output and the
explanation behind its heading and the trimmed input. Otherwise the explanation ends with the renderings in both
languages, whatever language is configured. The rendering as a fragment is the fragment without the one space at its
start, which only that of the empty filter does not have.
-/
theorem explain_and_render_agree
    (decode : Json.Decoder)
    (config : Config)
    (plain : config.color = false)
    (input : String) :
    ∃ trimmed, Text.IsTrimOf trimmed input.toList ∧
      (explain decode config input).fault? = (render decode config input).fault? ∧
      (∀ reason, decode input = .error reason → (render decode config input).fault? = some (.notJson reason)) ∧
      (∀ fault, (render decode config input).fault? = some fault →
        (render decode config input).output = "" ∧ (explain decode config input).output = heading trimmed) ∧
      ((render decode config input).fault? = none →
        ∃ filter bare document, filterOf decode input = .ok filter ∧
          render decode { config with backend := .mysql } input = { output := bare ++ "\n", fault? := none } ∧
          render decode { config with backend := .mongo } input = { output := document, fault? := none } ∧
          (explain decode config input).output =
            heading trimmed ++ lines (structureLines filter) ++ ("\nGenerated SQL:\n  " ++ (bare ++ "\n")) ++
              ("\nMongoDB:\n  " ++ document) ∧
          (filter = .empty ∧ filter.sql = "" ∧ bare = "" ∨ filter ≠ .empty ∧ filter.sql = " " ++ bare)) ∧
      ∀ backend, explain decode { config with backend } input = explain decode config input := by
  have refused : ∀ reason, decode input = .error reason →
      (render decode config input).fault? = some (.notJson reason) := by
    intro reason said
    rw [render_of_error (filterOf_of_error said)]
  refine ⟨Text.trim input.toList, Text.isTrimOf_trim _, and_left_comm.2 ⟨refused, ?_⟩⟩
  cases read : filterOf decode input with
  | error fault =>
      rw [render_of_error read, explain_of_error plain read]
      refine ⟨rfl, ?_, nofun, ?_⟩
      · intro other same
        exact ⟨rfl, rfl⟩
      · intro backend
        exact explain_of_error plain read
  | ok filter =>
      have sql : render decode { config with backend := .mysql } input =
          { output := bareSql filter ++ "\n", fault? := none } := render_of_ok read
      have mongo : render decode { config with backend := .mongo } input =
          { output := line (written .mongo config.pretty filter), fault? := none } := render_of_ok read
      rw [render_of_ok read, explain_of_ok plain read]
      refine ⟨rfl, nofun, ?_, ?_⟩
      · intro succeeded
        exact ⟨filter, bareSql filter, _, rfl, sql, mongo, rfl, bareSql_cases filter⟩
      · intro backend
        exact explain_of_ok plain read

/-- Documents without colour, in the spread form. -/
def plainDocuments : Config :=
  { backend := .mongo, color := false, pretty := true }

/-- A request for rows in order, with a blank in front. -/
def orderInput : String :=
  " \x7b\"order\": \"year desc\"\x7d"

/-- The filter of a request for rows in order. -/
def orderFilter : Filter :=
  { condition := none, order := some { clauses := ["year desc"] }, limit := none, skip := none }

theorem explain_and_render_agree_orderSample :
    plainDocuments.color = false ∧
      (render Json.decode plainDocuments orderInput).fault? = none ∧
      (∃ trimmed bare document, Text.IsTrimOf trimmed orderInput.toList ∧
        " ORDER BY year desc" = " " ++ bare ∧
        render Json.decode { plainDocuments with backend := .mysql } orderInput =
          { output := bare ++ "\n", fault? := none } ∧
        render Json.decode plainDocuments orderInput = { output := document, fault? := none } ∧
        (explain Json.decode plainDocuments orderInput).output =
          heading trimmed ++ lines (structureLines orderFilter) ++ ("\nGenerated SQL:\n  " ++ (bare ++ "\n")) ++
            ("\nMongoDB:\n  " ++ document)) ∧
      (render Json.decode plainDocuments "[]").fault? = some (.rejected .invalidRequest) ∧
      (explain Json.decode plainDocuments "[]").fault? = some (.rejected .invalidRequest) ∧
      ∃ trimmed, Text.IsTrimOf trimmed "[]".toList ∧
        (explain Json.decode plainDocuments "[]").output = heading trimmed := by
  have read : filterOf Json.decode orderInput = .ok orderFilter := by cbv
  have rejected : filterOf Json.decode "[]" = .error (.rejected .invalidRequest) := by cbv
  have succeeds : (render Json.decode plainDocuments orderInput).fault? = none := by rw [render_of_ok read]
  have fails : (render Json.decode plainDocuments "[]").fault? = some (.rejected .invalidRequest) := by
    rw [render_of_error rejected]
  obtain ⟨trimmed, isTrim, -, -, -, success, -⟩ := explain_and_render_agree Json.decode plainDocuments rfl orderInput
  obtain ⟨filter, bare, document, readFilter, sql, mongo, explained, spaced⟩ := success succeeds
  obtain rfl : orderFilter = filter := Except.ok.inj (read.symm.trans readFilter)
  have notEmpty : orderFilter ≠ .empty := by simp [orderFilter, Filter.empty]
  have written : orderFilter.sql = " ORDER BY year desc" := by rfl
  refine ⟨rfl, succeeds, ⟨trimmed, bare, document, isTrim, ?_, sql, mongo, explained⟩, fails, ?_⟩
  · rw [← written]
    exact (spaced.resolve_left fun isEmpty => notEmpty isEmpty.1).2
  · obtain ⟨failedTrimmed, isFailedTrim, sameFault, -, failure, -⟩ :=
      explain_and_render_agree Json.decode plainDocuments rfl "[]"
    exact ⟨sameFault.trans fails, failedTrimmed, isFailedTrim, (failure _ fails).2⟩

end CommandLine
end QueryFilter
