import Mathlib.Data.List.TakeWhile
import QueryFilter.Proofs.Sql.Reader

/-!
# Words, literals and lists of fragments

What the reader does with the parts of a text that are not nested. Each one is recognized by what it begins
with and ends before what may stand behind it; what is read was spelled, and what is spelled is read.
-/

namespace QueryFilter
namespace Fragment

/-! ## Words -/

theorem eq_of_isDelimiter
    {char : Char}
    (delimiter : isDelimiter char = true) :
    char = ' ' ∨ char = ',' ∨ char = '(' ∨ char = ')' ∨ char = '\'' := by
  simpa [isDelimiter, or_assoc] using delimiter

theorem skip?_eq_some_iff
    {word text rest : List Char} :
    skip? word text = some rest ↔ text = word ++ rest := by
  simp [skip?, List.dropPrefix?_eq_some_iff]

@[simp] theorem skip?_append (word rest : List Char) : skip? word (word ++ rest) = some rest :=
  skip?_eq_some_iff.2 rfl

theorem skip?_eq_none_iff
    {word text : List Char} :
    skip? word text = none ↔ ¬word <+: text := by
  rw [Option.eq_none_iff_forall_ne_some]
  constructor
  · rintro never ⟨rest, rfl⟩
    exact never rest (skip?_append word rest)
  · intro differs rest skipped
    exact differs ⟨rest, (skip?_eq_some_iff.1 skipped).symm⟩

/-- The longest word of a class is the one behind which no character of the class stands. -/
theorem readSpan?_eq_some_iff
    {inside : Char → Bool}
    {text word rest : List Char} :
    readSpan? inside text = some (word, rest) ↔
      text = word ++ rest ∧ word ≠ [] ∧ (∀ char ∈ word, inside char = true) ∧
        ∀ char ∈ rest.head?, inside char = false := by
  constructor
  · intro found
    unfold readSpan? at found
    split at found
    case h_1 => simp at found
    case h_2 span nonempty =>
        obtain ⟨rfl, rfl⟩ := Prod.mk.inj (Option.some.inj found)
        refine ⟨List.takeWhile_append_dropWhile.symm, nonempty, ?_, ?_⟩
        · intro char listed
          exact List.mem_takeWhile_imp listed
        · intro char atHead
          have outside := List.head?_dropWhile_not inside text
          rw [Option.mem_def.1 atHead] at outside
          exact outside
  · rintro ⟨rfl, nonempty, insideWord, outside⟩
    have noFurther : rest.takeWhile inside = [] ∧ rest.dropWhile inside = rest := by
      cases rest with
      | nil => exact ⟨rfl, rfl⟩
      | cons char behind =>
          have stops : inside char = false := outside char rfl
          simp [stops]
    have span : (word ++ rest).takeWhile inside = word := by
      rw [List.takeWhile_append_of_pos insideWord, noFurther.1, List.append_nil]
    have behind : (word ++ rest).dropWhile inside = rest := by
      rw [List.dropWhile_append_of_pos insideWord, noFurther.2]
    unfold readSpan?
    rw [span, behind]
    cases word with
    | nil => exact absurd rfl nonempty
    | cons => rfl

theorem readWord?_eq_some_iff
    {text word rest : List Char} :
    readWord? text = some (word, rest) ↔ text = word ++ rest ∧ IsWord word ∧ Ends rest := by
  simp [readWord?, readSpan?_eq_some_iff, IsWord, Ends, and_assoc]

theorem readWord?_append
    {word rest : List Char}
    (isWord : IsWord word)
    (ends : Ends rest) :
    readWord? (word ++ rest) = some (word, rest) :=
  readWord?_eq_some_iff.2 ⟨rfl, isWord, ends⟩

/-- No operator's words begin with those of another one. -/
theorem operatorWords_prefixFree :
    ∀ entry ∈ operatorWords, ∀ other ∈ operatorWords,
      other.1.toList <+: entry.1.toList → other = entry := by
  decide

theorem readOperator?_append
    {words : String}
    {operator : Operator}
    (listed : (words, operator) ∈ operatorWords)
    (rest : List Char) :
    readOperator? (words.toList ++ rest) = some (operator, rest) := by
  unfold readOperator?
  cases found : operatorWords.findSome? _ with
  | none =>
      rw [List.findSome?_eq_none_iff] at found
      have skipped := found (words, operator) listed
      simp at skipped
  | some result =>
      obtain ⟨entry, entryListed, skipped⟩ := List.exists_of_findSome?_eq_some found
      obtain ⟨behind, skips, rfl⟩ := Option.map_eq_some_iff.1 skipped
      have split := skip?_eq_some_iff.1 skips
      -- the words that were found and the words that stand here both begin the text
      have same : entry = (words, operator) := by
        rcases List.prefix_or_prefix_of_prefix ⟨behind, split.symm⟩ ⟨rest, rfl⟩ with inFront | inFront
        · exact operatorWords_prefixFree _ listed _ entryListed inFront
        · exact (operatorWords_prefixFree _ entryListed _ listed inFront).symm
      subst same
      rw [List.append_cancel_left split]

theorem readOperator?_sound
    {text rest : List Char}
    {operator : Operator}
    (found : readOperator? text = some (operator, rest)) :
    ∃ words, (words, operator) ∈ operatorWords ∧ text = words.toList ++ rest := by
  obtain ⟨⟨words, entryOperator⟩, listed, skipped⟩ := List.exists_of_findSome?_eq_some found
  obtain ⟨behind, skips, same⟩ := Option.map_eq_some_iff.1 skipped
  obtain ⟨rfl, rfl⟩ := Prod.mk.inj same
  exact ⟨words, listed, skip?_eq_some_iff.1 skips⟩

/-! ## Literals -/

theorem isWord_of_isNumberWord
    {word : List Char}
    (numberWord : Number.IsNumberWord word) :
    IsWord word := by
  refine ⟨numberWord.1, ?_⟩
  intro char listed
  have numberChar := numberWord.2 char listed
  rw [← Bool.not_eq_true]
  intro delimiter
  rcases eq_of_isDelimiter delimiter with rfl | rfl | rfl | rfl | rfl <;>
    exact absurd numberChar (by decide)

theorem bareLiteral?_isSound
    {word : List Char}
    {literal : Literal}
    (found : bareLiteral? word = some literal) :
    SpellsLiteral word literal := by
  unfold bareLiteral? at found
  split_ifs at found with isTrue isFalse isNumber
  · cases found
    exact isTrue ▸ .yes
  · cases found
    exact isFalse ▸ .no
  · cases found
    exact .number isNumber

/-- What spells a literal is a word outside of quotes, or a text between two quotes. -/
theorem SpellsLiteral.bare_or_quoted
    {word : List Char}
    {literal : Literal}
    (spelled : SpellsLiteral word literal) :
    (IsWord word ∧ bareLiteral? word = some literal) ∨
      ∃ text, '\'' ∉ text ∧ word = '\'' :: (text ++ ['\'']) ∧ literal = .string (String.ofList text) := by
  cases spelled with
  | string noQuote => exact .inr ⟨_, noQuote, rfl, rfl⟩
  | number numberWord =>
      refine .inl ⟨isWord_of_isNumberWord numberWord, ?_⟩
      have notTrue : word ≠ ['t', 'r', 'u', 'e'] := by
        rintro rfl
        exact absurd numberWord (by decide)
      have notFalse : word ≠ ['f', 'a', 'l', 's', 'e'] := by
        rintro rfl
        exact absurd numberWord (by decide)
      rw [bareLiteral?, if_neg notTrue, if_neg notFalse, if_pos numberWord]
  | yes => exact .inl ⟨by decide, rfl⟩
  | no => exact .inl ⟨by decide, rfl⟩

theorem readLiteral?_isComplete : Reader.IsComplete readLiteral? SpellsLiteral Ends := by
  intro word literal rest spelled ends
  rcases spelled.bare_or_quoted with ⟨isWord, bare⟩ | ⟨text, noQuote, rfl, rfl⟩
  · unfold readLiteral?
    split
    case h_1 text quoted =>
        obtain ⟨first, others, rfl⟩ := List.exists_cons_of_ne_nil isWord.1
        obtain ⟨rfl, -⟩ := List.cons.inj quoted
        exact absurd (isWord.2 '\'' (by simp)) (by decide)
    case h_2 =>
        simp [readWord?_append isWord ends, bare]
  · have inside : ∀ char ∈ text, (char != '\'') = true := by
      intro char listed
      rw [bne_iff_ne]
      rintro rfl
      exact noQuote listed
    have word : (text ++ '\'' :: rest).takeWhile (· != '\'') = text := by
      rw [List.takeWhile_append_of_pos inside]
      simp
    have behind : (text ++ '\'' :: rest).dropWhile (· != '\'') = '\'' :: rest := by
      rw [List.dropWhile_append_of_pos inside]
      simp
    have skipped : skip? ['\''] ('\'' :: rest) = some rest := skip?_append ['\''] rest
    simp [readLiteral?, word, behind, skipped]

theorem readLiteral?_isSound : Reader.IsSound readLiteral? SpellsLiteral := by
  intro text literal rest found
  unfold readLiteral? at found
  split at found
  case h_1 text =>
      obtain ⟨behind, skipped, result⟩ := Option.bind_eq_some_iff.1 found
      obtain ⟨rfl, rfl⟩ := Prod.mk.inj (Option.some.inj result)
      refine ⟨'\'' :: (text.takeWhile (· != '\'') ++ ['\'']), ?_, .string ?_⟩
      · have split := skip?_eq_some_iff.1 skipped
        rw [List.cons_append, List.append_assoc, ← split, List.takeWhile_append_dropWhile]
      · intro listed
        simpa using List.mem_takeWhile_imp listed
  case h_2 =>
      obtain ⟨⟨word, behind⟩, readWord, result⟩ := Option.bind_eq_some_iff.1 found
      obtain ⟨value, bare, result⟩ := Option.bind_eq_some_iff.1 result
      obtain ⟨rfl, rfl⟩ := Prod.mk.inj (Option.some.inj result)
      exact ⟨word, (readWord?_eq_some_iff.1 readWord).1, bareLiteral?_isSound bare⟩

/-! ## Items in a row -/

theorem intercalate_cons
    (separator first : List α)
    (others : List (List α)) :
    separator.intercalate (first :: others) = first ++ others.flatMap (separator ++ ·) := by
  induction others generalizing first with
  | nil => simp
  | cons second others inductionHypothesis =>
      rw [List.intercalate_cons_cons, inductionHypothesis, List.flatMap_cons, List.append_assoc,
        List.append_assoc]

/-- The characters of further items, each with the separator in front. -/
def moreText
    (separator : List Char)
    (others : List (List Char × α)) : List Char :=
  others.flatMap fun other => separator ++ other.1

theorem intercalate_map_fst
    (separator : List Char)
    (first : List Char × α)
    (others : List (List Char × α)) :
    separator.intercalate ((first :: others).map Prod.fst) = first.1 ++ moreText separator others := by
  rw [List.map_cons, intercalate_cons, List.flatMap_map, moreText]

/-- What may stand behind an item stands behind the first one too, if the separator may. -/
theorem follows_moreText
    {separator : List Char}
    {follows : List Char → Prop}
    (separatorFollows : ∀ text, follows (separator ++ text))
    (others : List (List Char × α))
    (rest : List Char)
    (restFollows : follows rest) :
    follows (moreText separator others ++ rest) := by
  cases others with
  | nil => exact restFollows
  | cons second others =>
      rw [moreText, List.flatMap_cons, List.append_assoc, List.append_assoc]
      exact separatorFollows _

/-- All further items are read, up to where the separator stands no longer. -/
theorem readMore?_isComplete
    (separator : List Char)
    {read : Reader α}
    {spells : List Char → α → Prop}
    {follows : List Char → Prop}
    (complete : Reader.IsComplete read spells follows)
    (separatorNonempty : separator ≠ [])
    (separatorFollows : ∀ text, follows (separator ++ text))
    {others : List (List Char × α)}
    (spelled : ∀ other ∈ others, spells other.1 other.2)
    {rest : List Char}
    (restFollows : follows rest)
    (noSeparator : ¬separator <+: rest) :
    readMore? separator read (moreText separator others ++ rest) = some (others.map Prod.snd, rest) := by
  induction others with
  | nil =>
      unfold readMore?
      rw [moreText, List.flatMap_nil, List.nil_append, skip?_eq_none_iff.2 noSeparator]
      rfl
  | cons other others inductionHypothesis =>
      have tail : readMore? separator read (moreText separator others ++ rest) =
          some (others.map Prod.snd, rest) := by
        apply inductionHypothesis
        intro item listed
        exact spelled item (List.mem_cons_of_mem other listed)
      have readItem := complete (spelled other List.mem_cons_self)
        (follows_moreText separatorFollows others rest restFollows)
      have text : moreText separator (other :: others) ++ rest =
          separator ++ (other.1 ++ (moreText separator others ++ rest)) := by
        simp [moreText]
      have shorter : (moreText separator others ++ rest).length <
          (separator ++ (other.1 ++ (moreText separator others ++ rest))).length := by
        have positive := List.length_pos_iff.2 separatorNonempty
        simp only [List.length_append]
        omega
      rw [text]
      unfold readMore?
      simp only [skip?_append, readItem, if_pos shorter, tail]
      rfl

theorem readMore?_isSound
    {separator : List Char}
    {read : Reader α}
    {spells : List Char → α → Prop}
    (sound : Reader.IsSound read spells)
    {text rest : List Char}
    {items : List α}
    (found : readMore? separator read text = some (items, rest)) :
    ∃ others : List (List Char × α),
      text = moreText separator others ++ rest ∧ items = others.map Prod.snd ∧
        ∀ other ∈ others, spells other.1 other.2 := by
  -- one case for each way out of a round; only a round that reads an item goes on
  fun_induction readMore? separator read text generalizing items rest with
  | case1 text noSeparator =>
      cases found
      exact ⟨[], rfl, rfl, by simp⟩
  | case2 => cases found
  | case3 text behind skipped item tail readItem shorter inductionHypothesis =>
      obtain ⟨⟨tailItems, tailRest⟩, readTail, result⟩ := Option.map_eq_some_iff.1 found
      cases result
      obtain ⟨word, itemText, itemSpelled⟩ := sound readItem
      obtain ⟨others, tailText, rfl, othersSpelled⟩ := inductionHypothesis readTail
      refine ⟨(word, item) :: others, ?_, rfl, List.forall_mem_cons.2 ⟨itemSpelled, othersSpelled⟩⟩
      have text := skip?_eq_some_iff.1 skipped
      rw [itemText, tailText] at text
      simpa [moreText] using text
  | case4 => cases found

theorem readListed?_isComplete
    {read : Reader α}
    {spells : List Char → α → Prop}
    {follows : List Char → Prop}
    (complete : Reader.IsComplete read spells follows)
    (commaFollows : ∀ text, follows (comma ++ text)) :
    Reader.IsComplete (readListed? read) (SpellsListed spells)
      fun rest => follows rest ∧ ¬comma <+: rest := by
  rintro word item rest ⟨first, others, spelled⟩ ⟨restFollows, noComma⟩
  have readFirst := complete (spelled first List.mem_cons_self)
    (follows_moreText commaFollows others rest restFollows)
  have othersSpelled : ∀ other ∈ others, spells other.1 other.2 := by
    intro other listed
    exact spelled other (List.mem_cons_of_mem first listed)
  have readOthers := readMore?_isComplete comma complete (by decide) commaFollows othersSpelled
    restFollows noComma
  rw [intercalate_map_fst, List.append_assoc]
  simp [readListed?, readFirst, readOthers]

theorem readListed?_isSound
    {read : Reader α}
    {spells : List Char → α → Prop}
    (sound : Reader.IsSound read spells) :
    Reader.IsSound (readListed? read) (SpellsListed spells) := by
  intro text item rest found
  obtain ⟨⟨first, behind⟩, readFirst, found⟩ := Option.bind_eq_some_iff.1 found
  obtain ⟨⟨items, behind⟩, readOthers, result⟩ := Option.bind_eq_some_iff.1 found
  cases result
  obtain ⟨word, rfl, firstSpelled⟩ := sound readFirst
  obtain ⟨others, rfl, rfl, othersSpelled⟩ := readMore?_isSound sound readOthers
  refine ⟨word ++ moreText comma others, (List.append_assoc ..).symm, ?_⟩
  rw [← intercalate_map_fst comma (word, first) others]
  exact .items (word, first) others (List.forall_mem_cons.2 ⟨firstSpelled, othersSpelled⟩)

/-! ## Sort clauses -/

/-- Delimiters are no letters. -/
theorem toLower_eq_self_of_isDelimiter
    {char : Char}
    (delimiter : isDelimiter char = true) :
    char.toLower = char := by
  rcases eq_of_isDelimiter delimiter with rfl | rfl | rfl | rfl | rfl <;> rfl

/-- What spells a word without delimiters is such a word itself. -/
theorem isWord_of_sameSpelling
    {word : List Char}
    {target : String}
    (targetLower : Text.lower target = target)
    (targetWord : IsWord target.toList)
    (same : Text.SameSpelling (String.ofList word) target) :
    IsWord word := by
  have folded : word.map Char.toLower = target.toList := by
    rw [Text.sameSpelling_iff_lower_eq_word targetLower, ← String.toList_inj, Text.toList_lower,
      String.toList_ofList] at same
    exact same
  constructor
  · rintro rfl
    apply targetWord.1
    exact folded.symm
  · intro char listed
    have inTarget : char.toLower ∈ target.toList := folded ▸ List.mem_map_of_mem listed
    rw [← Bool.not_eq_true]
    intro delimiter
    rw [toLower_eq_self_of_isDelimiter delimiter] at inTarget
    exact absurd (targetWord.2 char inTarget) (by simp [delimiter])

theorem isWord_of_isDirection
    {word : List Char}
    (direction : IsDirection word) :
    IsWord word := by
  rcases direction with ascending | descending
  · apply isWord_of_sameSpelling _ _ ascending
    · decide
    · decide
  · apply isWord_of_sameSpelling _ _ descending
    · decide
    · decide

theorem readDirection?_append
    {direction rest : List Char}
    (isDirection : IsDirection direction)
    (ends : Ends rest) :
    readDirection? (' ' :: (direction ++ rest)) = some (' ' :: direction, rest) := by
  simp [readDirection?, readWord?_append (isWord_of_isDirection isDirection) ends, isDirection]

theorem readDirection?_isSound :
    Reader.IsSound readDirection? fun text direction =>
      text = direction ∧ ∃ word, IsDirection word ∧ direction = ' ' :: word := by
  intro text direction rest found
  unfold readDirection? at found
  split at found
  case h_1 behind =>
      split at found
      case h_1 word behindWord readWord =>
          split_ifs at found with isDirection
          cases found
          obtain ⟨rfl, -⟩ := readWord?_eq_some_iff.1 readWord
          exact ⟨' ' :: word, rfl, rfl, word, isDirection, rfl⟩
      case h_2 => cases found
  case h_2 => cases found

/-- A text behind a sort clause: it ends the clause and adds no direction to it. -/
def EndsClause (rest : List Char) : Prop :=
  Ends rest ∧ readDirection? rest = none

theorem readClause?_isComplete : Reader.IsComplete readClause? SpellsClause EndsClause := by
  rintro word clause rest ⟨isClause, rfl⟩ ⟨ends, noDirection⟩
  cases isClause with
  | column isWord => simp [readClause?, readWord?_append isWord ends, noDirection]
  | @directed name direction isWord isDirection =>
      have readName : readWord? (name ++ ' ' :: (direction ++ rest)) =
          some (name, ' ' :: (direction ++ rest)) :=
        readWord?_append isWord (ends_cons_iff.2 rfl)
      simp [readClause?, readName, readDirection?_append isDirection ends]

theorem readClause?_isSound : Reader.IsSound readClause? SpellsClause := by
  intro text clause rest found
  obtain ⟨⟨name, behind⟩, readName, result⟩ := Option.bind_eq_some_iff.1 found
  obtain ⟨rfl, isWord, -⟩ := readWord?_eq_some_iff.1 readName
  cases readTail : readDirection? behind with
  | none =>
      simp only [readTail, Option.getD_none, List.append_nil] at result
      cases result
      exact ⟨name, rfl, .column isWord, rfl⟩
  | some found =>
      obtain ⟨direction, tail⟩ := found
      simp only [readTail, Option.getD_some] at result
      cases result
      obtain ⟨-, rfl, rfl, word, isDirection, rfl⟩ := readDirection?_isSound readTail
      exact ⟨name ++ ' ' :: word, (List.append_assoc ..).symm, .directed isWord isDirection, rfl⟩

theorem readOrder?_isComplete :
    Reader.IsComplete readOrder? SpellsOrder fun rest => EndsClause rest ∧ ¬comma <+: rest := by
  rintro word order rest ⟨listed⟩ ends
  have commaEnds : ∀ text, EndsClause (comma ++ text) := by
    intro text
    exact ⟨ends_cons_iff.2 rfl, rfl⟩
  simp [readOrder?, readListed?_isComplete readClause?_isComplete commaEnds listed ends]

theorem readOrder?_isSound : Reader.IsSound readOrder? SpellsOrder := by
  intro text order rest found
  obtain ⟨⟨⟨first, others⟩, behind⟩, readList, result⟩ := Option.bind_eq_some_iff.1 found
  cases result
  obtain ⟨word, rfl, spelled⟩ := readListed?_isSound readClause?_isSound readList
  exact ⟨word, rfl, .clauses spelled⟩

/-! ## Counts -/

theorem readCount?_isComplete : Reader.IsComplete readCount? SpellsCount Ends := by
  rintro word count rest ⟨nonempty, digits, value⟩ ends
  have noDigit : ∀ char ∈ rest.head?, char.isDigit = false := by
    intro char atHead
    rcases eq_of_isDelimiter (ends char atHead) with rfl | rfl | rfl | rfl | rfl <;> rfl
  have readWord := readSpan?_eq_some_iff.2 ⟨rfl, nonempty, digits, noDigit⟩
  simp [readCount?, readWord, value, count.toNat_lt]

theorem readCount?_isSound : Reader.IsSound readCount? SpellsCount := by
  intro text count rest found
  obtain ⟨⟨word, behind⟩, readWord, result⟩ := Option.bind_eq_some_iff.1 found
  obtain ⟨rfl, nonempty, digits, -⟩ := readSpan?_eq_some_iff.1 readWord
  dsimp only at result
  split_ifs at result with fits
  cases result
  exact ⟨word, rfl, nonempty, digits, (UInt64.toNat_ofNat_of_lt' fits).symm⟩

/-! ## Parts -/

theorem readPart?_isComplete
    {keyword : String}
    {read : Reader α}
    {spells : List Char → α → Prop}
    {follows : List Char → Prop}
    (complete : Reader.IsComplete read spells follows) :
    Reader.IsComplete (readPart? keyword read) (SpellsPart keyword spells)
      fun rest => follows rest ∧ ¬keyword.toList <+: rest := by
  rintro word value rest spelled ⟨restFollows, noKeyword⟩
  cases spelled with
  | missing => simp [readPart?, skip?_eq_none_iff.2 noKeyword]
  | present operand => simp [readPart?, complete operand restFollows]

theorem readPart?_isSound
    {keyword : String}
    {read : Reader α}
    {spells : List Char → α → Prop}
    (sound : Reader.IsSound read spells) :
    Reader.IsSound (readPart? keyword read) (SpellsPart keyword spells) := by
  intro text value rest found
  unfold readPart? at found
  split at found
  case h_1 =>
      cases found
      exact ⟨[], rfl, .missing⟩
  case h_2 behind skipped =>
      obtain ⟨⟨operand, behindOperand⟩, readOperand, result⟩ := Option.map_eq_some_iff.1 found
      cases result
      obtain ⟨word, rfl, spelled⟩ := sound readOperand
      obtain rfl := skip?_eq_some_iff.1 skipped
      exact ⟨keyword.toList ++ word, (List.append_assoc ..).symm, .present spelled⟩

/-- What is true of every operand that may stand behind the keyword can be added to what it spells. -/
theorem SpellsPart.imp
    {keyword : String}
    {spells spellsMore : List Char → α → Prop}
    {part : List Char}
    {value : Option α}
    (spelled : SpellsPart keyword spells part value)
    (more : ∀ operand item, part = keyword.toList ++ operand → spells operand item →
      spellsMore operand item) :
    SpellsPart keyword spellsMore part value := by
  cases spelled with
  | missing => exact .missing
  | @present operand item operandSpelled => exact .present (more operand item rfl operandSpelled)

/-- The text is empty or begins with one of the words. -/
def BeginsWith (words : List (List Char)) (text : List Char) : Prop :=
  text = [] ∨ ∃ word ∈ words, word <+: text

theorem SpellsPart.beginsWith
    {keyword : String}
    {spells : List Char → α → Prop}
    {part : List Char}
    {value : Option α}
    (spelled : SpellsPart keyword spells part value)
    {words : List (List Char)}
    {rest : List Char}
    (begins : BeginsWith words rest) :
    BeginsWith (keyword.toList :: words) (part ++ rest) := by
  cases spelled with
  | missing =>
      apply begins.imp_right
      rintro ⟨word, listed, inFront⟩
      exact ⟨word, List.mem_cons_of_mem _ listed, inFront⟩
  | present operand =>
      refine .inr ⟨keyword.toList, List.mem_cons_self, ?_⟩
      rw [List.append_assoc]
      exact List.prefix_append _ _

/-- A word does not stand in front if it agrees with none of the words that may stand there. -/
theorem BeginsWith.not_prefix
    {words : List (List Char)}
    {text : List Char}
    (begins : BeginsWith words text)
    {word : List Char}
    (nonempty : word ≠ [])
    (differs : ∀ other ∈ words, ¬word <+: other ∧ ¬other <+: word) :
    ¬word <+: text := by
  intro inFront
  rcases begins with rfl | ⟨other, listed, otherInFront⟩
  · apply nonempty
    exact List.prefix_nil.1 inFront
  · rcases List.prefix_or_prefix_of_prefix inFront otherInFront with shorter | shorter
    · exact (differs other listed).1 shorter
    · exact (differs other listed).2 shorter

/-- What begins with delimiters ends the word in front of it. -/
theorem BeginsWith.ends
    {words : List (List Char)}
    {text : List Char}
    (begins : BeginsWith words text)
    (delimited : ∀ word ∈ words, word ≠ [] ∧ Ends word) :
    Ends text := by
  rcases begins with rfl | ⟨word, listed, behind, rfl⟩
  · exact ends_nil
  · obtain ⟨nonempty, ends⟩ := delimited word listed
    cases word with
    | nil => exact absurd rfl nonempty
    | cons first others => exact ends

end Fragment
end QueryFilter
