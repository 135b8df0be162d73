import QueryFilter.Proofs.CommandLine.Labels

/-!
# Printed trees

A tree is printed node by node in pre-order, each node in a line of its own, indented by its level. The lines
behind a tree begin with one that is not indented deeper than its root, so the lines of its children end there
and the tree can be put together again from the printed text.
-/

namespace QueryFilter

/-! ## Nodes in pre-order -/

namespace Condition

mutual

/-- The nodes of a condition in pre-order, each with its level. -/
def nodesAt (level : Nat) : Condition → List (Nat × Condition)
  | .group connective children =>
      (level, .group connective children) :: nodesEachAt (level + 1) children
  | .compare comparison =>
      [(level, .compare comparison)]
  | .member membership =>
      [(level, .member membership)]

/-- The nodes of conditions in a row. -/
def nodesEachAt (level : Nat) : List Condition → List (Nat × Condition)
  | [] =>
      []
  | first :: rest =>
      nodesAt level first ++ nodesEachAt level rest

end

theorem nodesEachAt_eq_flatMap
    (level : Nat)
    (conditions : List Condition) :
    nodesEachAt level conditions = conditions.flatMap (nodesAt level) := by
  induction conditions with
  | nil => rfl
  | cons first rest inductionHypothesis => simp [nodesEachAt, inductionHypothesis]

/-- The root comes first, then the nodes of its children one level deeper. -/
theorem nodesAt_eq_cons
    (level : Nat)
    (tree : Condition) :
    tree.nodesAt level = (level, tree) :: tree.children.flatMap (nodesAt (level + 1)) := by
  cases tree with
  | group connective children => rw [nodesAt, nodesEachAt_eq_flatMap, children_group]
  | compare comparison => rfl
  | member membership => rfl

/-- What holds at every node holds of all nodes in pre-order. -/
theorem EveryNode.of_mem_nodesAt
    {good : Condition → Prop}
    {tree : Condition}
    (every : EveryNode good tree)
    {level : Nat} :
    ∀ entry ∈ tree.nodesAt level, good entry.2 := by
  induction every generalizing level with
  | node atRoot below inductionHypothesis =>
      intro entry listed
      rw [nodesAt_eq_cons, List.mem_cons, List.mem_flatMap] at listed
      rcases listed with rfl | ⟨child, isChild, inChild⟩
      · exact atRoot
      · exact inductionHypothesis child isChild entry inChild

end Condition

namespace CommandLine

/-! ## Lines of nodes -/

/-- The line of a node: two spaces for each level, and the label. -/
def nodeLine (entry : Nat × Condition) : List Char :=
  List.replicate (2 * entry.1) ' ' ++ entry.2.label

/-- The lines of a tree are those of its nodes in pre-order. -/
theorem map_toList_treeLines
    (level : Nat)
    (tree : Condition) :
    (treeLines false level tree).map String.toList = (tree.nodesAt level).map nodeLine := by
  induction tree using Condition.groupInduction generalizing level with
  | group connective children inductionHypothesis =>
      have below : (children.flatMap (treeLines false (level + 1))).map String.toList =
          (children.flatMap (Condition.nodesAt (level + 1))).map nodeLine := by
        rw [List.map_flatMap, List.map_flatMap]
        exact List.flatMap_congr fun child listed => inductionHypothesis child listed (level + 1)
      rw [treeLines, forestLines_eq_flatMap, List.map_cons, below, Condition.nodesAt_eq_cons, List.map_cons]
      simp [nodeLine, indent, Condition.label]
  | compare comparison =>
      simp [treeLines, Condition.nodesAt, nodeLine, indent, comparisonLine, Condition.label, Comparison.sql]
  | member membership =>
      simp [treeLines, Condition.nodesAt, nodeLine, indent, membershipLine, Condition.label, Membership.sql,
        ScalarKind.tag]

/-- Lines without line breaks are found again in the printed text. -/
theorem splitOn_lines
    {texts : List String}
    (unbroken : ∀ text ∈ texts, '\n' ∉ text.toList) :
    (lines texts).toList.splitOn '\n' = texts.map String.toList ++ [[]] := by
  induction texts with
  | nil => rfl
  | cons first rest inductionHypothesis =>
      have inFirst : '\n' ∉ first.toList := unbroken first List.mem_cons_self
      have ofRest : (lines rest).toList.splitOn '\n' = rest.map String.toList ++ [[]] := by
        apply inductionHypothesis
        intro text listed
        exact unbroken text (List.mem_cons_of_mem first listed)
      have text : (lines (first :: rest)).toList = first.toList ++ '\n' :: (lines rest).toList := by
        simp [lines, line]
      rw [text, List.splitOn_append_cons_self_of_not_mem inFirst, ofRest]
      rfl

/-- The number of spaces at the start of a line. -/
def indentation (line : List Char) : Nat :=
  (line.takeWhile (· == ' ')).length

/-- The spaces at the start of the line of a node are those of its level. -/
theorem takeWhile_nodeLine
    {node : Condition}
    (printable : node.IsPrintableNode)
    (level : Nat) :
    (nodeLine (level, node)).takeWhile (· == ' ') = List.replicate (2 * level) ' ' := by
  obtain ⟨first, rest, label, notSpace⟩ := Condition.head?_label_ne_space printable
  have spaces : ∀ char ∈ List.replicate (2 * level) ' ', (char == ' ') = true := by simp
  rw [nodeLine, List.takeWhile_append_of_pos spaces, label, List.takeWhile_cons_of_neg (by simpa using notSpace),
    List.append_nil]

theorem indentation_nodeLine
    {node : Condition}
    (printable : node.IsPrintableNode)
    (level : Nat) :
    indentation (nodeLine (level, node)) = 2 * level := by
  rw [indentation, takeWhile_nodeLine printable, List.length_replicate]

/-! ## Trees told apart by their lines -/

/-- What stands behind a tree at a level: nothing, or a line that is not indented deeper. -/
def Closes (level : Nat) (behind : List (List Char)) : Prop :=
  ∀ line ∈ behind.head?, indentation line ≤ 2 * level

/-- The lines of trees in a row, from a level on. -/
def linesAt (level : Nat) (trees : List Condition) : List (List Char) :=
  (trees.flatMap (Condition.nodesAt level)).map nodeLine

theorem linesAt_cons
    (level : Nat)
    (first : Condition)
    (others : List Condition) :
    linesAt level (first :: others) = (first.nodesAt level).map nodeLine ++ linesAt level others := by
  simp [linesAt]

/-- The line of the root stands in front of those of its children. -/
theorem map_nodeLine_nodesAt
    (level : Nat)
    (tree : Condition) :
    (tree.nodesAt level).map nodeLine = nodeLine (level, tree) :: linesAt (level + 1) tree.children := by
  rw [Condition.nodesAt_eq_cons]
  rfl

/-- Trees with the same lines have the same label, and the same lines below it. -/
theorem label_and_below_eq_of_lines_eq
    {left right : Condition}
    {level : Nat}
    {behind otherBehind : List (List Char)}
    (same : (left.nodesAt level).map nodeLine ++ behind = (right.nodesAt level).map nodeLine ++ otherBehind) :
    left.label = right.label ∧
      linesAt (level + 1) left.children ++ behind = linesAt (level + 1) right.children ++ otherBehind := by
  rw [map_nodeLine_nodesAt, map_nodeLine_nodesAt] at same
  obtain ⟨sameLine, sameBelow⟩ := List.cons.inj same
  exact ⟨List.append_cancel_left sameLine, sameBelow⟩

theorem Closes.mono
    {level deeper : Nat}
    {behind : List (List Char)}
    (closes : Closes level behind)
    (below : level ≤ deeper) :
    Closes deeper behind := by
  intro line isHead
  have shallow := closes line isHead
  omega

/-- A tree with its siblings ends the tree in front of them. -/
theorem Closes.linesAt_append
    {level : Nat}
    {trees : List Condition}
    {behind : List (List Char)}
    (printable : ∀ tree ∈ trees, tree.IsPrintable)
    (closes : Closes level behind) :
    Closes level (linesAt level trees ++ behind) := by
  cases trees with
  | nil => exact closes
  | cons first others =>
      intro line isHead
      rw [linesAt_cons, map_nodeLine_nodesAt, List.cons_append, List.cons_append, List.head?_cons,
        Option.mem_some_iff] at isHead
      subst isHead
      exact (indentation_nodeLine (printable first List.mem_cons_self).root level).le

/-- No tree one level deeper begins where the lines behind a tree do. -/
theorem Closes.ne_linesAt_cons
    {level : Nat}
    {first : Condition}
    {others : List Condition}
    {behind otherBehind : List (List Char)}
    (closes : Closes level behind)
    (printable : first.IsPrintable) :
    behind ≠ linesAt (level + 1) (first :: others) ++ otherBehind := by
  rintro rfl
  have shallow := closes (nodeLine (level + 1, first)) (by simp [linesAt_cons, map_nodeLine_nodesAt])
  rw [indentation_nodeLine printable.root] at shallow
  omega

/-- The lines of the tree, with what stands behind them, tell the tree up to numbers that are written alike. -/
def IsTold (tree : Condition) : Prop :=
  ∀ (level : Nat) (other : Condition) (behind otherBehind : List (List Char)),
    other.IsPrintable →
    Closes level behind →
    Closes level otherBehind →
    (tree.nodesAt level).map nodeLine ++ behind = (other.nodesAt level).map nodeLine ++ otherBehind →
    Expression.verbatim tree = Expression.verbatim other ∧ behind = otherBehind

/-- Trees in a row are told by their lines when each of them is. -/
theorem verbatimEach_eq_of_linesAt_eq
    {level : Nat}
    {trees others : List Condition}
    {behind otherBehind : List (List Char)}
    (told : ∀ tree ∈ trees, IsTold tree)
    (printable : ∀ tree ∈ trees, tree.IsPrintable)
    (otherPrintable : ∀ tree ∈ others, tree.IsPrintable)
    (closes : Closes level behind)
    (otherCloses : Closes level otherBehind)
    (same : linesAt (level + 1) trees ++ behind = linesAt (level + 1) others ++ otherBehind) :
    Expression.verbatimEach trees = Expression.verbatimEach others ∧ behind = otherBehind := by
  induction trees generalizing others with
  | nil =>
      -- a tree on one side only would begin where the lines behind all trees of the other side do
      cases others with
      | nil => exact ⟨rfl, same⟩
      | cons other others =>
          exact absurd same (closes.ne_linesAt_cons (otherPrintable other List.mem_cons_self))
  | cons first rest inductionHypothesis =>
      cases others with
      | nil =>
          exact absurd same.symm (otherCloses.ne_linesAt_cons (printable first List.mem_cons_self))
      | cons other others =>
          obtain ⟨firstPrintable, restPrintable⟩ := List.forall_mem_cons.1 printable
          obtain ⟨headPrintable, tailPrintable⟩ := List.forall_mem_cons.1 otherPrintable
          obtain ⟨firstTold, restTold⟩ := List.forall_mem_cons.1 told
          rw [linesAt_cons, linesAt_cons, List.append_assoc, List.append_assoc] at same
          -- the next sibling, or what stands behind them all, ends the first tree
          obtain ⟨firstSame, restSame⟩ := firstTold (level + 1) other _ _ headPrintable
            ((closes.mono level.le_succ).linesAt_append restPrintable)
            ((otherCloses.mono level.le_succ).linesAt_append tailPrintable) same
          obtain ⟨othersSame, behindSame⟩ :=
            inductionHypothesis restTold restPrintable tailPrintable restSame
          exact ⟨by rw [Expression.verbatimEach, Expression.verbatimEach, firstSame, othersSame], behindSame⟩

/-- A leaf is told by its line, and has no lines below it. -/
theorem isTold_of_leaf
    {leaf : Condition}
    (isLeaf : leaf.connective? = none)
    (printable : leaf.IsPrintableNode) :
    IsTold leaf := by
  intro level other behind otherBehind otherPrintable closes otherCloses same
  obtain ⟨sameLabel, sameBehind⟩ := label_and_below_eq_of_lines_eq same
  have otherLeaf := (Condition.connective?_eq_of_label_eq sameLabel).symm.trans isLeaf
  rw [Condition.children_eq_nil isLeaf, Condition.children_eq_nil otherLeaf] at sameBehind
  exact ⟨Condition.verbatim_eq_of_label_eq printable otherPrintable.root isLeaf sameLabel, sameBehind⟩

/-- Printable trees are told by their lines. -/
theorem isTold_of_isPrintable
    {tree : Condition}
    (printable : tree.IsPrintable) :
    IsTold tree := by
  induction tree using Condition.groupInduction with
  | group connective children inductionHypothesis =>
      intro level other behind otherBehind otherPrintable closes otherCloses same
      obtain ⟨sameLabel, sameBehind⟩ := label_and_below_eq_of_lines_eq same
      have sameKind := Condition.connective?_eq_of_label_eq sameLabel
      cases other with
      | group otherConnective others =>
          obtain rfl := Option.some.inj sameKind
          obtain ⟨-, below⟩ := Condition.everyNode_group_iff.1 printable
          obtain ⟨-, otherBelow⟩ := Condition.everyNode_group_iff.1 otherPrintable
          obtain ⟨childrenSame, behindSame⟩ := verbatimEach_eq_of_linesAt_eq
            (fun child listed => inductionHypothesis child listed (below child listed))
            below otherBelow closes otherCloses sameBehind
          exact ⟨by rw [Expression.verbatim, Expression.verbatim, childrenSame], behindSame⟩
      | compare => cases sameKind
      | member => cases sameKind
  | compare comparison => exact isTold_of_leaf rfl printable.root
  | member membership => exact isTold_of_leaf rfl printable.root

/-- Trees in a row that are equal up to the text of numbers have the same lines when each of them has. -/
theorem linesAt_eq_of_verbatimEach_eq
    {level : Nat}
    {trees others : List Condition}
    (alike : ∀ tree ∈ trees, ∀ other, Expression.verbatim tree = Expression.verbatim other →
      (tree.nodesAt level).map nodeLine = (other.nodesAt level).map nodeLine)
    (same : Expression.verbatimEach trees = Expression.verbatimEach others) :
    linesAt level trees = linesAt level others := by
  induction trees generalizing others with
  | nil =>
      cases others with
      | nil => rfl
      | cons => cases same
  | cons first rest inductionHypothesis =>
      cases others with
      | nil => cases same
      | cons other others =>
          obtain ⟨firstAlike, restAlike⟩ := List.forall_mem_cons.1 alike
          obtain ⟨firstSame, restSame⟩ := List.cons.inj same
          rw [linesAt_cons, linesAt_cons, firstAlike other firstSame, inductionHypothesis restAlike restSame]

/-- Leaves with the same label have the same line, and no lines below it. -/
theorem map_nodeLine_eq_of_leaf
    {leaf other : Condition}
    (level : Nat)
    (isLeaf : leaf.connective? = none)
    (sameLabel : leaf.label = other.label) :
    (leaf.nodesAt level).map nodeLine = (other.nodesAt level).map nodeLine := by
  have otherLeaf := (Condition.connective?_eq_of_label_eq sameLabel).symm.trans isLeaf
  rw [map_nodeLine_nodesAt, map_nodeLine_nodesAt, nodeLine, nodeLine, sameLabel,
    Condition.children_eq_nil isLeaf, Condition.children_eq_nil otherLeaf]

/-- Trees that are equal up to the text of numbers have the same lines. -/
theorem map_nodeLine_eq_of_verbatim_eq
    {left right : Condition}
    (level : Nat)
    (same : Expression.verbatim left = Expression.verbatim right) :
    (left.nodesAt level).map nodeLine = (right.nodesAt level).map nodeLine := by
  induction left using Condition.groupInduction generalizing right level with
  | group connective children inductionHypothesis =>
      cases right with
      | group other others =>
          obtain ⟨rfl, childrenSame⟩ := Expression.group.inj same
          have below := linesAt_eq_of_verbatimEach_eq
            (fun child listed other => inductionHypothesis child listed (level + 1)) childrenSame
          rw [map_nodeLine_nodesAt, map_nodeLine_nodesAt]
          exact congrArg₂ List.cons rfl below
      | compare => cases same
      | member => cases same
  | compare comparison => exact map_nodeLine_eq_of_leaf level rfl (Condition.label_eq_of_verbatim_eq same)
  | member membership => exact map_nodeLine_eq_of_leaf level rfl (Condition.label_eq_of_verbatim_eq same)

/-- The lines of a printed tree are those of its nodes, and a last one that is empty. -/
theorem splitOn_treeLines
    {tree : Condition}
    (printable : tree.IsPrintable)
    (level : Nat) :
    (lines (treeLines false level tree)).toList.splitOn '\n' = (tree.nodesAt level).map nodeLine ++ [[]] := by
  have unbroken : ∀ text ∈ treeLines false level tree, '\n' ∉ text.toList := by
    intro text listed
    have isNodeLine : text.toList ∈ (tree.nodesAt level).map nodeLine := by
      rw [← map_toList_treeLines]
      exact List.mem_map_of_mem listed
    obtain ⟨entry, isEntry, isLine⟩ := List.mem_map.1 isNodeLine
    have inLabel := Condition.newline_notMem_label (printable.of_mem_nodesAt entry isEntry)
    rw [← isLine, nodeLine, List.mem_append, List.mem_replicate]
    rintro (⟨-, impossible⟩ | inside)
    · exact absurd impossible (by decide)
    · exact inLabel inside
  rw [splitOn_lines unbroken, map_toList_treeLines]

/-- A printed tree has one line for each node, in pre-order and indented by two spaces for each level. Trees
print alike exactly when they are equal up to numbers that are written alike. -/
theorem printed_tree_determines_condition
    (level : Nat)
    {tree : Condition}
    (printable : tree.IsPrintable) :
    (lines (treeLines false level tree)).toList.splitOn '\n' = (tree.nodesAt level).map nodeLine ++ [[]] ∧
      (∀ entry ∈ tree.nodesAt level, indentation (nodeLine entry) = 2 * entry.1) ∧
      ∀ other : Condition, other.IsPrintable →
        (lines (treeLines false level tree) = lines (treeLines false level other) ↔
          Expression.verbatim tree = Expression.verbatim other) := by
  refine ⟨splitOn_treeLines printable level, ?_, ?_⟩
  · intro entry listed
    exact indentation_nodeLine (printable.of_mem_nodesAt entry listed) entry.1
  · intro other otherPrintable
    constructor
    · intro same
      have sameLines := splitOn_treeLines printable level
      rw [same, splitOn_treeLines otherPrintable level] at sameLines
      have closes : Closes level [[]] := by simp [Closes, indentation]
      exact (isTold_of_isPrintable printable level other [[]] [[]] otherPrintable closes closes sameLines.symm).1
    · intro same
      have sameLines := map_nodeLine_eq_of_verbatim_eq level same
      rw [← map_toList_treeLines, ← map_toList_treeLines] at sameLines
      rw [List.map_injective_iff.2 (fun _ _ => String.toList_inj.1) sameLines]

/-- A group with one child, an empty group, a mixed list and an empty list. -/
def branchedTree (connective : Connective) : Condition :=
  .group .and
    [.group connective [.like "title" "x), [AND] (y"],
      .group .or [],
      .member
        { property := "code"
          op := .within
          datatype := .string
          values := [.number (.ofUInt64 1), .string "a, b", .boolean true] },
      .member
        { property := "year"
          op := .notWithin
          datatype := .number
          values := [] }]

theorem branchedTree_isPrintable (connective : Connective) : (branchedTree connective).IsPrintable := by
  refine Condition.everyNode_group_iff.2 ⟨trivial, ?_⟩
  intro child listed
  simp only [List.mem_cons, List.not_mem_nil, or_false] at listed
  rcases listed with rfl | rfl | rfl | rfl
  · refine Condition.everyNode_group_iff.2 ⟨trivial, ?_⟩
    intro child listed
    obtain rfl := List.mem_singleton.1 listed
    exact Condition.everyNode_compare_iff.2 ⟨by decide, by decide⟩
  · exact Condition.everyNode_group_iff.2 ⟨trivial, by simp⟩
  · exact Condition.everyNode_member_iff.2 ⟨by decide, by decide⟩
  · exact Condition.everyNode_member_iff.2 ⟨by decide, by decide⟩

theorem printed_tree_determines_condition_branchedTree :
    (branchedTree .or).IsPrintable ∧ (branchedTree .and).IsPrintable ∧
      (lines (treeLines false 1 (branchedTree .or))).toList.splitOn '\n' =
        ["  [AND]",
          "    [OR]",
          "      title LIKE 'x), [AND] (y'",
          "    [OR]",
          "    code IN (1, 'a, b', true) <string>",
          "    year NOT IN () <number>",
          ""].map String.toList ∧
      lines (treeLines false 1 (branchedTree .or)) ≠ lines (treeLines false 1 (branchedTree .and)) := by
  have printable := branchedTree_isPrintable .or
  have twinPrintable := branchedTree_isPrintable .and
  obtain ⟨written, -, told⟩ := printed_tree_determines_condition 1 printable
  refine ⟨printable, twinPrintable, written.trans (by rfl), ?_⟩
  intro same
  have alike := (told (branchedTree .and) twinPrintable).1 same
  simp [branchedTree, Expression.verbatim, Expression.verbatimEach] at alike

end CommandLine
end QueryFilter
