import Mathlib.Data.List.Forall2
import Mathlib.Tactic.SplitIfs
import QueryFilter.Request.Keyword

/-!
# Spellings of keywords

Two texts have the same spelling when they agree letter by letter up to the case of ASCII letters. The words
of the request grammar are listed here as tables, and the lookup of a keyword is shown to find exactly the
word that a key spells.
-/

namespace QueryFilter

namespace Text

/-- The character is a capital letter of ASCII. -/
def IsCapital (char : Char) : Prop :=
  'A'.toNat ≤ char.toNat ∧ char.toNat ≤ 'Z'.toNat

instance (char : Char) : Decidable (IsCapital char) := by
  unfold IsCapital
  infer_instance

/-- Two characters are equal, or one is the small letter of the other, which is a capital letter. -/
def SameLetter (left right : Char) : Prop :=
  left = right ∨
    (IsCapital left ∧ right.toNat = left.toNat + 32) ∨
      (IsCapital right ∧ left.toNat = right.toNat + 32)

instance (left right : Char) : Decidable (SameLetter left right) := by
  unfold SameLetter
  infer_instance

/-- The small letters stand thirty-two places behind the capital letters. -/
theorem toNat_toLower (char : Char) :
    char.toLower.toNat = if IsCapital char then char.toNat + 32 else char.toNat := by
  by_cases capital : IsCapital char
  · have inRange : char.val ≥ 'A'.val ∧ char.val ≤ 'Z'.val := capital
    have noOverflow : char.val.toNat + 32 < 2 ^ 32 := by
      have bound : char.val.toNat ≤ 90 := capital.2
      omega
    rw [if_pos capital]
    delta Char.toLower
    rw [dif_pos inRange]
    exact (UInt32.toNat_add _ _).trans (Nat.mod_eq_of_lt noOverflow)
  · have outOfRange : ¬(char.val ≥ 'A'.val ∧ char.val ≤ 'Z'.val) := capital
    rw [if_neg capital]
    delta Char.toLower
    rw [dif_neg outOfRange]

theorem sameLetter_iff_toLower_eq
    {left right : Char} :
    SameLetter left right ↔ left.toLower = right.toLower := by
  rw [SameLetter, ← Char.toNat_inj, ← Char.toNat_inj (c := left.toLower), toNat_toLower, toNat_toLower]
  split_ifs with leftCapital rightCapital rightCapital <;>
    simp only [IsCapital, Char.reduceToNat] at * <;>
    omega

/-- Two texts agree up to the case of ASCII letters. -/
def SameSpelling (left right : String) : Prop :=
  List.Forall₂ SameLetter left.toList right.toList

instance (left right : String) : Decidable (SameSpelling left right) := by
  unfold SameSpelling
  infer_instance

/-- Texts have the same spelling exactly when they agree in lower case. -/
theorem sameSpelling_iff_lower_eq
    {left right : String} :
    SameSpelling left right ↔ lower left = lower right := by
  have letters : SameLetter = fun left right => left.toLower = right.toLower := by
    funext left right
    exact propext sameLetter_iff_toLower_eq
  rw [SameSpelling, letters, ← String.toList_inj, toList_lower, toList_lower, ← List.forall₂_eq_eq_eq,
    List.forall₂_map_left_iff, List.forall₂_map_right_iff]

/-- A key spells a word in lower case exactly when it is that word in lower case. -/
theorem sameSpelling_iff_lower_eq_word
    {key word : String}
    (wordLower : lower word = word) :
    SameSpelling key word ↔ lower key = word := by
  rw [sameSpelling_iff_lower_eq, wordLower]

end Text

namespace Request

/-- The words of the connectives. -/
def connectiveWords : List (String × Connective) :=
  [("and", .and), ("or", .or)]

/-- The words of the comparisons with any scalar. -/
def comparisonWords : List (String × ComparisonOp) :=
  [("neq", .neq), ("lt", .lt), ("lte", .lte), ("gt", .gt), ("gte", .gte)]

/-- The words of the comparisons with a pattern. -/
def patternWords : List (String × ComparisonOp) :=
  [("like", .like), ("nlike", .notLike)]

/-- The words of the membership tests. -/
def membershipWords : List (String × MembershipOp) :=
  [("in", .within), ("nin", .notWithin)]

/-- A key spells, in any case, a word to which the table gives this meaning. -/
def Spells (table : List (String × α)) (key : String) (meaning : α) : Prop :=
  ∃ word, (word, meaning) ∈ table ∧ Text.SameSpelling key word

/-- A key spells, in any case, one of the words of a table. -/
def IsWordOf (table : List (String × α)) (key : String) : Prop :=
  ∃ entry ∈ table, Text.SameSpelling key entry.1

/-- A key spells an operator that cannot be the name of a property; those of patterns can. -/
def IsReserved (key : String) : Prop :=
  IsWordOf comparisonWords key ∨ IsWordOf membershipWords key

/-- A key can be the name of a property: it is neither a connective nor reserved. -/
def IsName (key : String) : Prop :=
  ¬IsWordOf connectiveWords key ∧ ¬IsReserved key

instance (table : List (String × α)) (key : String) : Decidable (IsWordOf table key) := by
  unfold IsWordOf
  infer_instance

instance (key : String) : Decidable (IsReserved key) := by
  unfold IsReserved
  infer_instance

instance (key : String) : Decidable (IsName key) := by
  unfold IsName
  infer_instance

theorem isWordOf_iff_exists_spells
    {table : List (String × α)}
    {key : String} :
    IsWordOf table key ↔ ∃ meaning, Spells table key meaning := by
  constructor
  · rintro ⟨⟨word, meaning⟩, listed, same⟩
    exact ⟨meaning, word, listed, same⟩
  · rintro ⟨meaning, word, listed, same⟩
    exact ⟨(word, meaning), listed, same⟩

theorem spells_of_mem
    {table : List (String × α)}
    {word : String}
    {meaning : α}
    (listed : (word, meaning) ∈ table) :
    Spells table word meaning :=
  ⟨word, listed, Text.sameSpelling_iff_lower_eq.2 rfl⟩

/-- Among words in lower case, a key spells what the table has for the key in lower case. -/
theorem spells_iff_lower_mem
    {table : List (String × α)}
    (tableLower : ∀ entry ∈ table, Text.lower entry.1 = entry.1)
    {key : String}
    {meaning : α} :
    Spells table key meaning ↔ (Text.lower key, meaning) ∈ table := by
  constructor
  · rintro ⟨word, listed, same⟩
    have folded := (Text.sameSpelling_iff_lower_eq_word (tableLower _ listed)).1 same
    exact folded ▸ listed
  · intro listed
    refine ⟨Text.lower key, listed, ?_⟩
    exact (Text.sameSpelling_iff_lower_eq_word (tableLower _ listed)).2 rfl

/-! ## The lookup of keywords -/

/-- All words of the grammar with their keywords. -/
def keywordWords : List (String × Keyword) :=
  connectiveWords.map (Prod.map id .connective) ++
    comparisonWords.map (Prod.map id .comparison) ++
      patternWords.map (Prod.map id .comparison) ++
        membershipWords.map (Prod.map id .membership)

theorem lookup_cons_eq_ite
    (key word : String)
    (meaning : α)
    (rest : List (String × α)) :
    ((word, meaning) :: rest).lookup key = if key = word then some meaning else rest.lookup key := by
  by_cases same : key = word
  · simp [same]
  · simp [List.lookup_cons, same, beq_eq_false_iff_ne.2 same]

theorem ofLowerCase?_eq_lookup (word : String) :
    Keyword.ofLowerCase? word = keywordWords.lookup word := by
  simp only [Keyword.ofLowerCase?, keywordWords, connectiveWords, comparisonWords, patternWords,
    membershipWords, List.map_cons, List.map_nil, List.cons_append, List.nil_append, Prod.map_apply,
    id_eq, lookup_cons_eq_ite, List.lookup_nil]

theorem ofLowerCase?_eq_some_iff_mem
    {word : String}
    {keyword : Keyword} :
    Keyword.ofLowerCase? word = some keyword ↔ (word, keyword) ∈ keywordWords := by
  constructor
  · intro found
    rw [ofLowerCase?_eq_lookup, List.lookup_eq_some_iff] at found
    obtain ⟨front, back, split, -⟩ := found
    simp [split]
  · have table : ∀ entry ∈ keywordWords, Keyword.ofLowerCase? entry.1 = some entry.2 := by decide
    exact table (word, keyword)

theorem ofKey?_eq_connective_iff
    {key : String}
    {connective : Connective} :
    Keyword.ofKey? key = some (.connective connective) ↔ Spells connectiveWords key connective := by
  rw [Keyword.ofKey?, ofLowerCase?_eq_some_iff_mem, spells_iff_lower_mem (by decide)]
  simp [keywordWords]

theorem ofKey?_eq_comparison_iff
    {key : String}
    {op : ComparisonOp} :
    Keyword.ofKey? key = some (.comparison op) ↔
      Spells comparisonWords key op ∨ Spells patternWords key op := by
  rw [Keyword.ofKey?, ofLowerCase?_eq_some_iff_mem, spells_iff_lower_mem (by decide),
    spells_iff_lower_mem (by decide)]
  simp [keywordWords]

theorem ofKey?_eq_membership_iff
    {key : String}
    {op : MembershipOp} :
    Keyword.ofKey? key = some (.membership op) ↔ Spells membershipWords key op := by
  rw [Keyword.ofKey?, ofLowerCase?_eq_some_iff_mem, spells_iff_lower_mem (by decide)]
  simp [keywordWords]

theorem isPattern_eq_false_of_spells
    {key : String}
    {op : ComparisonOp}
    (spelled : Spells comparisonWords key op) :
    op.isPattern = false := by
  have table : ∀ entry ∈ comparisonWords, entry.2.isPattern = false := by decide
  obtain ⟨word, listed, -⟩ := spelled
  exact table (word, op) listed

theorem isPattern_of_spells
    {key : String}
    {op : ComparisonOp}
    (spelled : Spells patternWords key op) :
    op.isPattern = true := by
  have table : ∀ entry ∈ patternWords, entry.2.isPattern = true := by decide
  obtain ⟨word, listed, -⟩ := spelled
  exact table (word, op) listed

end Request
end QueryFilter
