import QueryFilter.Proofs.Sql.Phrases

/-!
# Fragments are unambiguous

The reader reads exactly the texts of the grammar. At every depth the connective of a group is told by what
stands behind its first child, and the parts of a fragment by their keywords, so there is only one way to
read on.
-/

namespace QueryFilter
namespace Fragment

/-! ## Conditions -/

/-- A leaf is read up to its operand, whatever the operand is. -/
theorem readLeaf?_append
    {name : List Char}
    {words : String}
    {operator : Operator}
    (isWord : IsWord name)
    (listed : (words, operator) ∈ operatorWords)
    (operand : List Char) :
    readLeaf? (name ++ ' ' :: (words.toList ++ operand)) = readOperand? name operator operand := by
  have readName : readWord? (name ++ ' ' :: (words.toList ++ operand)) =
      some (name, ' ' :: (words.toList ++ operand)) :=
    readWord?_append isWord (ends_cons_iff.2 rfl)
  have skipped : skip? [' '] (' ' :: (words.toList ++ operand)) = some (words.toList ++ operand) :=
    skip?_append [' '] _
  simp [readLeaf?, readName, skipped, readOperator?_append listed operand]

theorem readOperand?_comparison
    {name : List Char}
    {op : ComparisonOp}
    {operand rest : List Char}
    {value : Literal}
    (spelled : SpellsLiteral operand value)
    (ends : Ends rest) :
    readOperand? name (.comparison op) (operand ++ rest) =
      some (.compare (String.ofList name) op value, rest) := by
  simp [readOperand?, readLiteral?_isComplete spelled ends]

/-- Listed literals are read up to the parenthesis that closes the list. -/
theorem readListed?_literals_close
    {operands : List Char}
    {values : Literal × List Literal}
    (spelled : SpellsListed SpellsLiteral operands values)
    (rest : List Char) :
    readListed? readLiteral? (operands ++ ')' :: rest) = some (values, ')' :: rest) := by
  have closes : Ends (')' :: rest) ∧ ¬comma <+: ')' :: rest := by
    refine ⟨ends_cons_iff.2 rfl, ?_⟩
    simp [comma]
  have commaEnds : ∀ text, Ends (comma ++ text) := by
    intro text
    exact ends_cons_iff.2 rfl
  exact readListed?_isComplete readLiteral?_isComplete commaEnds spelled closes

theorem readOperand?_membership
    {name : List Char}
    {op : MembershipOp}
    {operands : List Char}
    {first : Literal}
    {others : List Literal}
    (spelled : SpellsListed SpellsLiteral operands (first, others))
    (rest : List Char) :
    readOperand? name (.membership op) (operands ++ ')' :: rest) =
      some (.member (String.ofList name) op first.kind (first :: others), rest) := by
  have skipped : skip? [')'] (')' :: rest) = some rest := skip?_append [')'] rest
  simp [readOperand?, readListed?_literals_close spelled rest, skipped]

theorem readLeaf?_isSound : Reader.IsSound readLeaf? SpellsCondition := by
  intro text leaf rest found
  obtain ⟨⟨name, behind⟩, readName, found⟩ := Option.bind_eq_some_iff.1 found
  obtain ⟨behindSpace, skipped, found⟩ := Option.bind_eq_some_iff.1 found
  obtain ⟨⟨operator, operand⟩, readOperator, found⟩ := Option.bind_eq_some_iff.1 found
  obtain ⟨rfl, isWord, -⟩ := readWord?_eq_some_iff.1 readName
  obtain rfl := skip?_eq_some_iff.1 skipped
  obtain ⟨words, listed, rfl⟩ := readOperator?_sound readOperator
  cases operator with
  | comparison op =>
      obtain ⟨⟨value, behind⟩, readValue, result⟩ := Option.bind_eq_some_iff.1 found
      cases result
      obtain ⟨word, rfl, spelled⟩ := readLiteral?_isSound readValue
      refine ⟨name ++ ' ' :: (words.toList ++ word), ?_, .compare isWord listed spelled⟩
      simp
  | membership op =>
      obtain ⟨⟨⟨first, others⟩, behind⟩, readList, found⟩ := Option.bind_eq_some_iff.1 found
      obtain ⟨closed, closes, result⟩ := Option.bind_eq_some_iff.1 found
      cases result
      obtain ⟨operands, rfl, spelled⟩ := readListed?_isSound readLiteral?_isSound readList
      obtain rfl := skip?_eq_some_iff.1 closes
      refine ⟨name ++ ' ' :: (words.toList ++ (operands ++ [')'])), ?_, .member isWord listed spelled⟩
      simp

@[simp] theorem readCondition?_group (depth : Nat) (text : List Char) :
    readCondition? (depth + 1) ('(' :: text) = (do
      let (first, text) ← readCondition? depth text
      let connective := connectiveAt text
      let (others, text) ← readMore? (joiner connective) (readCondition? depth) text
      let rest ← skip? [')'] text
      some (.ofGroup connective (first :: others), rest)) := rfl

/-- What begins with a name is a leaf. -/
theorem readCondition?_word_append
    (depth : Nat)
    {name : List Char}
    (isWord : IsWord name)
    (text : List Char) :
    readCondition? (depth + 1) (name ++ text) = readLeaf? (name ++ text) := by
  obtain ⟨first, others, rfl⟩ := List.exists_cons_of_ne_nil isWord.1
  have noParenthesis : first ≠ '(' := by
    rintro rfl
    exact absurd (isWord.2 '(' (by simp)) (by decide)
  unfold readCondition?
  split
  case h_1 impossible => cases impossible
  case h_2 text same =>
      exact absurd (List.cons.inj same).1 noParenthesis
  case h_3 => rfl

theorem connectiveAt_joiner
    (connective : Connective)
    (text : List Char) :
    connectiveAt (joiner connective ++ text) = connective := by
  cases connective <;> rfl

/-- The first joiner tells the connective of a group, and a group without joiners depends on none. -/
theorem group_connectiveAt
    (connective : Connective)
    (first : Expression)
    (others : List (List Char × Expression))
    (rest : List Char) :
    moreText (joiner (connectiveAt (moreText (joiner connective) others ++ rest))) others =
        moreText (joiner connective) others ∧
      Expression.ofGroup (connectiveAt (moreText (joiner connective) others ++ rest))
          (first :: others.map Prod.snd) =
        Expression.ofGroup connective (first :: others.map Prod.snd) := by
  cases others with
  | nil => exact ⟨rfl, rfl⟩
  | cons second others =>
      have told : connectiveAt (moreText (joiner connective) (second :: others) ++ rest) = connective := by
        rw [moreText, List.flatMap_cons, List.append_assoc, List.append_assoc, connectiveAt_joiner]
      rw [told]
      exact ⟨rfl, rfl⟩

theorem joiner_ne_nil (connective : Connective) : joiner connective ≠ [] := by
  cases connective <;> simp [joiner]

theorem joiner_ends
    (connective : Connective)
    (text : List Char) :
    Ends (joiner connective ++ text) := by
  cases connective <;> exact ends_cons_iff.2 rfl

theorem not_joiner_prefix_close
    (connective : Connective)
    (rest : List Char) :
    ¬joiner connective <+: ')' :: rest := by
  cases connective <;> simp [joiner]

/-- The words of a group are shorter than the group. -/
theorem length_le_of_mem
    (separator : List Char)
    {first item : List Char × α}
    {others : List (List Char × α)}
    (listed : item ∈ first :: others) :
    item.1.length ≤ (first.1 ++ moreText separator others).length := by
  rcases List.mem_cons.1 listed with rfl | amongOthers
  · simp
  · obtain ⟨front, back, rfl⟩ := List.append_of_mem amongOthers
    simp only [moreText, List.flatMap_append, List.flatMap_cons, List.length_append]
    omega

/-- A group is read when its children are. -/
theorem readCondition?_joined
    {depth : Nat}
    {spells : List Char → Expression → Prop}
    (complete : Reader.IsComplete (readCondition? depth) spells Ends)
    (connective : Connective)
    {first : List Char × Expression}
    {others : List (List Char × Expression)}
    (spelled : ∀ child ∈ first :: others, spells child.1 child.2)
    (rest : List Char) :
    readCondition? (depth + 1) ('(' :: (first.1 ++ (moreText (joiner connective) others ++ ')' :: rest))) =
      some (.ofGroup connective (first.2 :: others.map Prod.snd), rest) := by
  obtain ⟨sameText, sameGroup⟩ := group_connectiveAt connective first.2 others (')' :: rest)
  have closeEnds : Ends (')' :: rest) := ends_cons_iff.2 rfl
  have othersSpelled : ∀ child ∈ others, spells child.1 child.2 := by
    intro child listed
    exact spelled child (List.mem_cons_of_mem first listed)
  have readFirst := complete (spelled first List.mem_cons_self)
    (follows_moreText (joiner_ends connective) others (')' :: rest) closeEnds)
  -- the reader goes on with the connective that it was told, which need not be the one of the group
  have readOthers := readMore?_isComplete
    (joiner (connectiveAt (moreText (joiner connective) others ++ ')' :: rest)))
    complete (joiner_ne_nil _) (joiner_ends _) othersSpelled closeEnds (not_joiner_prefix_close _ rest)
  rw [sameText] at readOthers
  have closes : skip? [')'] (')' :: rest) = some rest := skip?_append [')'] rest
  simp [readFirst, readOthers, closes, sameGroup]

/-- Conditions are read at every depth that is greater than the length of their text. -/
theorem readCondition?_isComplete (depth : Nat) :
    Reader.IsComplete (readCondition? depth)
      (fun word expression => SpellsCondition word expression ∧ word.length < depth) Ends := by
  -- by induction on the depth: the text of a child is shorter than the text of its group
  induction depth with
  | zero =>
      rintro word expression rest ⟨-, short⟩
      exact absurd short (Nat.not_lt_zero _)
  | succ depth inductionHypothesis =>
      rintro word expression rest ⟨spelled, short⟩ ends
      cases spelled with
      | group connective first others children =>
          rw [intercalate_map_fst] at short ⊢
          have bounded : ∀ child ∈ first :: others,
              SpellsCondition child.1 child.2 ∧ child.1.length < depth := by
            intro child listed
            have shorter := length_le_of_mem (joiner connective) listed
            simp only [List.length_cons, List.length_append, List.length_nil] at short shorter
            exact ⟨children child listed, by omega⟩
          rw [List.cons_append, List.append_assoc, List.append_assoc, List.singleton_append]
          exact readCondition?_joined inductionHypothesis connective bounded rest
      | compare isWord listed operand =>
          rw [List.append_assoc, readCondition?_word_append depth isWord, List.cons_append,
            List.append_assoc, readLeaf?_append isWord listed, readOperand?_comparison operand ends]
      | member isWord listed operands =>
          rw [List.append_assoc, readCondition?_word_append depth isWord, List.cons_append,
            List.append_assoc, readLeaf?_append isWord listed, List.append_assoc, List.singleton_append,
            readOperand?_membership operands rest]

theorem readCondition?_isSound (depth : Nat) :
    Reader.IsSound (readCondition? depth) SpellsCondition := by
  induction depth with
  | zero =>
      intro text expression rest found
      cases found
  | succ depth inductionHypothesis =>
      intro text expression rest found
      unfold readCondition? at found
      split at found
      case h_1 impossible => cases impossible
      case h_2 bound text same =>
          cases same
          obtain ⟨⟨first, behind⟩, readFirst, found⟩ := Option.bind_eq_some_iff.1 found
          obtain ⟨⟨items, behind⟩, readOthers, found⟩ := Option.bind_eq_some_iff.1 found
          obtain ⟨closed, closes, result⟩ := Option.bind_eq_some_iff.1 found
          cases result
          obtain ⟨word, rfl, firstSpelled⟩ := inductionHypothesis readFirst
          obtain ⟨others, othersText, rfl, othersSpelled⟩ :=
            readMore?_isSound inductionHypothesis readOthers
          obtain rfl := skip?_eq_some_iff.1 closes
          refine ⟨_, ?_, .group _ (word, first) others
            (List.forall_mem_cons.2 ⟨firstSpelled, othersSpelled⟩)⟩
          rw [intercalate_map_fst]
          simpa using othersText
      case h_3 bound same => exact readLeaf?_isSound found

/-! ## Fragments -/

/-- A word that is no direction adds none to the column in front of it. -/
theorem readDirection?_eq_none
    (word : List Char)
    (isWord : IsWord word)
    (noDirection : ¬IsDirection word)
    (behind : List Char) :
    readDirection? (' ' :: (word ++ ' ' :: behind)) = none := by
  have ends : Ends (' ' :: behind) := ends_cons_iff.2 rfl
  simp [readDirection?, readWord?_append isWord ends, noDirection]

theorem endsClause_of_beginsWith
    {text : List Char}
    (begins : BeginsWith [" LIMIT ".toList, " OFFSET ".toList] text) :
    EndsClause text := by
  refine ⟨begins.ends (by decide), ?_⟩
  rcases begins with rfl | ⟨word, listed, behind, rfl⟩
  · rfl
  · simp only [List.mem_cons, List.not_mem_nil, or_false] at listed
    rcases listed with rfl | rfl
    · apply readDirection?_eq_none "LIMIT".toList
      · decide
      · decide
    · apply readDirection?_eq_none "OFFSET".toList
      · decide
      · decide

/-- What spells a fragment is read as that fragment. -/
theorem read?_isComplete
    {text : String}
    {fragment : Fragment}
    (spelled : Spells text.toList fragment) :
    read? text = some fragment := by
  generalize chars : text.toList = all at spelled
  cases spelled with
  | @parts condition order limit skip _ conditionSpelled orderSpelled limitSpelled skipSpelled =>
      have atEnd : BeginsWith [] [] := .inl rfl
      have skipBegins := skipSpelled.beginsWith atEnd
      rw [List.append_nil] at skipBegins
      have limitBegins := limitSpelled.beginsWith skipBegins
      have orderBegins := orderSpelled.beginsWith limitBegins
      have boundedSpelled :
          SpellsPart " WHERE "
            (fun word expression => SpellsCondition word expression ∧ word.length < text.toList.length)
            condition fragment.condition := by
        apply conditionSpelled.imp
        intro operand expression isPart spelled
        refine ⟨spelled, ?_⟩
        have keywordLength : " WHERE ".toList.length = 7 := rfl
        rw [chars, isPart, List.length_append, List.length_append, keywordLength]
        omega
      have readCondition := readPart?_isComplete (readCondition?_isComplete text.toList.length)
        boundedSpelled
        ⟨orderBegins.ends (by decide), orderBegins.not_prefix (by decide) (by decide)⟩
      have readOrder := readPart?_isComplete readOrder?_isComplete orderSpelled
        ⟨⟨endsClause_of_beginsWith limitBegins, limitBegins.not_prefix (by decide) (by decide)⟩,
          limitBegins.not_prefix (by decide) (by decide)⟩
      have readLimit := readPart?_isComplete readCount?_isComplete limitSpelled
        ⟨skipBegins.ends (by decide), skipBegins.not_prefix (by decide) (by decide)⟩
      have readSkip := readPart?_isComplete readCount?_isComplete skipSpelled
        ⟨ends_nil, atEnd.not_prefix (by decide) (by decide)⟩
      rw [List.append_nil] at readSkip
      rw [chars] at readCondition
      simp only [read?, chars, readCondition, readOrder, readLimit, readSkip, Option.bind_eq_bind,
        Option.bind_some, if_pos]

/-- What is read as a fragment spells that fragment. -/
theorem read?_isSound
    {text : String}
    {fragment : Fragment}
    (found : read? text = some fragment) :
    Spells text.toList fragment := by
  obtain ⟨⟨condition, afterCondition⟩, readCondition, found⟩ := Option.bind_eq_some_iff.1 found
  obtain ⟨⟨order, afterOrder⟩, readOrder, found⟩ := Option.bind_eq_some_iff.1 found
  obtain ⟨⟨limit, afterLimit⟩, readLimit, found⟩ := Option.bind_eq_some_iff.1 found
  obtain ⟨⟨skip, afterSkip⟩, readSkip, result⟩ := Option.bind_eq_some_iff.1 found
  dsimp only at result
  split_ifs at result with noRest
  cases result
  obtain ⟨conditionText, text, conditionSpelled⟩ :=
    readPart?_isSound (readCondition?_isSound _) readCondition
  obtain ⟨orderText, rfl, orderSpelled⟩ := readPart?_isSound readOrder?_isSound readOrder
  obtain ⟨limitText, rfl, limitSpelled⟩ := readPart?_isSound readCount?_isSound readLimit
  obtain ⟨skipText, rfl, skipSpelled⟩ := readPart?_isSound readCount?_isSound readSkip
  rw [text, noRest, List.append_nil]
  exact .parts conditionSpelled orderSpelled limitSpelled skipSpelled

/-- The reader reads exactly what the grammar derives, so no text has two readings. -/
theorem read?_eq_some_iff_spells
    {text : String}
    {fragment : Fragment} :
    read? text = some fragment ↔ Spells text.toList fragment :=
  ⟨read?_isSound, read?_isComplete⟩

end Fragment
end QueryFilter
