import MutationTesting.Proofs.Python.Nested
import MutationTesting.Proofs.Tree.Moved
/-! The parse tree of a text that stands in a source behind whole lines. Its nodes have moved by the
bytes of those lines, and the tree that they become has moved down by as many rows; what is between
the text and the token before it has become trivia of its first token. -/
namespace MutationTesting.Python

open Text

mutual
/-- The parse tree so many bytes further behind. -/
def ParseTree.shifted (bytes : Nat) : ParseTree → ParseTree
  | ⟨kind, named, isError, isMissing, hasError, startByte, endByte, children⟩ =>
    ⟨kind, named, isError, isMissing, hasError, bytes + startByte, bytes + endByte,
      shiftedAll bytes children⟩

/-- Parse trees that follow each other so many bytes further behind. -/
def ParseTree.shiftedAll (bytes : Nat) : List ParseTree → List ParseTree
  | [] => []
  | tree :: rest => tree.shifted bytes :: shiftedAll bytes rest
end

namespace ParseTree

mutual
theorem shifted_zero (tree : ParseTree) : tree.shifted 0 = tree := by
  obtain ⟨kind, named, isError, isMissing, hasError, startByte, endByte, children⟩ := tree
  rw [shifted, Nat.zero_add, Nat.zero_add, shiftedAll_zero children]

theorem shiftedAll_zero (trees : List ParseTree) : shiftedAll 0 trees = trees := by
  cases trees with
  | nil => rfl
  | cons tree rest => rw [shiftedAll, shifted_zero tree, shiftedAll_zero rest]
end

@[simp] theorem kind_shifted (bytes : Nat) (tree : ParseTree) :
    (tree.shifted bytes).kind = tree.kind := by
  cases tree
  rfl

end ParseTree

theorem isToken_shifted (bytes : Nat) (tree : ParseTree) :
    isToken (tree.shifted bytes) = isToken tree := by
  obtain ⟨kind, named, isError, isMissing, hasError, startByte, endByte, children⟩ := tree
  cases children <;> rfl

theorem positionFrom_zero (position : Position) (cs : List Char) :
    positionFrom position 0 cs = position := by
  cases cs <;> rfl

theorem positionFrom_append (position : Position) (front : List Char) (bytes : Nat)
    (back : List Char) :
    positionFrom position (byteLength front + bytes) (front ++ back) =
      positionFrom (positionFrom position (byteLength front) front) bytes back := by
  induction front generalizing position with
  | nil => rw [byteLength, Nat.zero_add, List.nil_append, positionFrom_zero]
  | cons c rest ih =>
    obtain ⟨width, sum⟩ : ∃ width, c.utf8Size + byteLength rest = width + 1 :=
      Nat.exists_eq_add_one.mpr (Nat.add_pos_left c.utf8Size_pos _)
    have next : width + 1 + bytes = width + bytes + 1 := Nat.add_right_comm _ _ _
    have fits : c.utf8Size ≤ width + 1 := by omega
    have fitsToo : c.utf8Size ≤ width + bytes + 1 := by omega
    have behind : width + 1 - c.utf8Size = byteLength rest := by omega
    have further : width + bytes + 1 - c.utf8Size = byteLength rest + bytes := by omega
    rw [byteLength, sum, next, List.cons_append, positionFrom, if_pos fitsToo, further, ih,
      positionFrom, if_pos fits, behind]

theorem positionFrom_down (rows : Nat) (position : Position) (bytes : Nat) (cs : List Char) :
    positionFrom (position.down rows) bytes cs = (positionFrom position bytes cs).down rows := by
  fun_induction positionFrom position bytes cs with
  | case1 => rfl
  | case2 => rfl
  | case3 position bytes c rest fits ih =>
    rw [positionFrom, if_pos fits, ← ih]
    congr 1
    split
    · simp [Position.down, Nat.add_right_comm]
    · rfl
  | case4 position bytes c rest small => rw [positionFrom, if_neg small]; rfl

theorem positionFrom_whole {lines : String} (whole : IsWhole lines) :
    positionFrom ⟨0, 0⟩ (byteLength lines.toList) lines.toList = ⟨feeds lines, 0⟩ := by
  obtain empty | ⟨front, ended⟩ := whole.cases
  · rw [feeds, empty]
    rfl
  · have row := row_positionFrom ⟨0, 0⟩ front []
    rw [List.append_nil, Nat.zero_add] at row
    rw [feeds, ended, byteLength_append, positionFrom_append, List.count_append, ← row]
    rfl

theorem spans_inside {text part : List Char} {start stop : Nat} (spans : Spans text start part stop)
    (before after : List Char) :
    Spans (before ++ text ++ after) (byteLength before + start) part (byteLength before + stop) := by
  obtain ⟨front, back, rfl, rfl, rfl⟩ := spans
  exact ⟨before ++ front, back ++ after, by simp only [List.append_assoc],
    byteLength_append before front, Nat.add_assoc _ _ _⟩

section

variable {before : String} {text after : List Char}

variable (after) in
/-- A node of a text that follows whole lines starts as many rows further down. -/
theorem positionOf_shifted (whole : IsWhole before) {tree : ParseTree}
    (start : IsPlace text tree.startByte) :
    positionOf (before.toList ++ text ++ after) (tree.shifted (byteLength before.toList)) =
      (positionOf text tree).down (feeds before) := by
  obtain ⟨front, back, rfl, length⟩ := start
  have first : (tree.shifted (byteLength before.toList)).startByte =
      byteLength before.toList + (byteLength front + 0) := by
    rw [length]
    cases tree
    rfl
  have begun : (⟨feeds before, 0⟩ : Position) = Position.down (feeds before) ⟨0, 0⟩ := by
    simp [Position.down]
  have alone : tree.startByte = byteLength front + 0 := length.symm
  rw [positionOf, positionOf, first, alone, List.append_assoc, List.append_assoc,
    positionFrom_append, positionFrom_whole whole, positionFrom_append, positionFrom_append,
    positionFrom_zero, positionFrom_zero, begun, positionFrom_down]

variable (before text after) in
/-- Two places at which the cutting out of tokens goes on: one in a text, and one in the source in
which the text stands. Up to the first token the source has `lead` more. -/
structure Joins (offset outer : Nat) (lead : String) : Prop where
  place : IsPlace text offset
  lead : Spans (before.toList ++ text ++ after) outer lead.toList
    (byteLength before.toList + offset)
  first : offset = 0 ∨ outer = byteLength before.toList + offset

theorem Joins.of_place {offset : Nat} (place : IsPlace text offset) :
    Joins before text after offset (byteLength before.toList + offset) "" :=
  ⟨place, spans_inside place.spans_nil _ _, .inr rfl⟩

variable {offset outer : Nat} {lead : String}

theorem Joins.max (joins : Joins before text after offset outer lead) (start : Nat) :
    max (byteLength before.toList + start) outer =
      byteLength before.toList + max start offset := by
  have reached : outer ≤ byteLength before.toList + offset := by
    obtain ⟨front, back, -, -, length⟩ := joins.lead
    omega
  obtain none | exact := joins.first <;> omega

theorem leafOf_shifted (whole : IsWhole before) (joins : Joins before text after offset outer lead)
    {tree : ParseTree} (start : IsPlace text tree.startByte) (stop : IsPlace text tree.endByte) :
    leafOf (before.toList ++ text ++ after) outer (tree.shifted (byteLength before.toList)) =
      ((leafOf text offset tree).1.moved (feeds before) lead,
        byteLength before.toList + (leafOf text offset tree).2) := by
  have first := start.max joins.place
  have last := stop.max first
  obtain ⟨trivia, gap⟩ := joins.place.spans first (Nat.le_max_right _ _)
  obtain ⟨value, token⟩ := first.spans last (Nat.le_max_right _ _)
  have outerGap := joins.lead.append (spans_inside gap before.toList after)
  have outerToken := spans_inside token before.toList after
  have position := positionOf_shifted after whole start
  obtain ⟨kind, named, isError, isMissing, hasError, startByte, endByte, children⟩ := tree
  rw [ParseTree.shifted] at position ⊢
  have stops : max (byteLength before.toList + endByte)
      (byteLength before.toList + max startByte offset) =
        byteLength before.toList + max endByte (max startByte offset) := by
    omega
  simp only [leafOf, joins.max, stops, position, part_eq gap, part_eq token, part_eq outerGap,
    part_eq outerToken, Node.leaf, Node.moved, Node.movedAll, tokenKind, String.ofList_append,
    String.ofList_toList]

mutual
/-- A node of the text is one of the source, so many rows further down. -/
theorem nodeOf_shifted (whole : IsWhole before) (tree : ParseTree) (offset outer : Nat)
    (lead : String) (joins : Joins before text after offset outer lead)
    (inside : tree.Inside text) :
    nodeOf (before.toList ++ text ++ after) outer (tree.shifted (byteLength before.toList)) =
      ((nodeOf text offset tree).1.moved (feeds before) lead,
        byteLength before.toList + (nodeOf text offset tree).2) := by
  obtain ⟨start, stop⟩ := inside tree (ParseTree.mem_preorder_self tree)
  have position := positionOf_shifted after whole start
  have leaf := leafOf_shifted whole joins start stop
  have isToken := isToken_shifted (byteLength before.toList) tree
  obtain ⟨kind, named, isError, isMissing, hasError, startByte, endByte, children⟩ := tree
  rw [ParseTree.shifted] at position leaf isToken ⊢
  unfold nodeOf
  dsimp only
  rw [isToken]
  split
  · exact leaf
  · rename_i isComposite
    have nonempty : children ≠ [] := by
      rintro rfl
      exact isComposite rfl
    obtain ⟨nodes, stops⟩ := nodesOf_shifted whole children offset outer lead joins
      fun node member => inside node (List.mem_cons_of_mem _ member)
    rw [nodes, stops fun empty => absurd empty nonempty, position]
    rfl

theorem nodesOf_shifted (whole : IsWhole before) (trees : List ParseTree) (offset outer : Nat)
    (lead : String) (joins : Joins before text after offset outer lead)
    (inside : ∀ node ∈ ParseTree.preorderAll trees,
      IsPlace text node.startByte ∧ IsPlace text node.endByte) :
    (nodesOf (before.toList ++ text ++ after) outer
        (ParseTree.shiftedAll (byteLength before.toList) trees)).1 =
      Node.movedAll (feeds before) lead (nodesOf text offset trees).1 ∧
    ((trees = [] → outer = byteLength before.toList + offset) →
      (nodesOf (before.toList ++ text ++ after) outer
          (ParseTree.shiftedAll (byteLength before.toList) trees)).2 =
        byteLength before.toList + (nodesOf text offset trees).2) := by
  match trees with
  | [] => exact ⟨rfl, fun exact => exact rfl⟩
  | [last] =>
    have insideLast : last.Inside text := fun node member =>
      inside node (List.mem_append_left _ member)
    have node := nodeOf_shifted whole last offset outer lead joins insideLast
    have position := positionOf_shifted after whole
      (insideLast last (ParseTree.mem_preorder_self last)).1
    simp only [ParseTree.shiftedAll, nodesOf, node, position, ParseTree.kind_shifted]
    split
    · exact ⟨rfl, fun _ => rfl⟩
    · exact ⟨rfl, fun _ => rfl⟩
  | first :: second :: rest =>
    have insideFirst : first.Inside text := fun node member =>
      inside node (List.mem_append_left _ member)
    have later : ∀ node ∈ ParseTree.preorderAll (second :: rest),
        IsPlace text node.startByte ∧ IsPlace text node.endByte :=
      fun node member => inside node (List.mem_append_right _ member)
    have node := nodeOf_shifted whole first offset outer lead joins insideFirst
    have behind : Joins before text after _ _ _ :=
      .of_place (spans_nodeOf first offset joins.place insideFirst).isPlace
    have position := positionOf_shifted after whole
      (insideFirst first (ParseTree.mem_preorder_self first)).1
    simp only [ParseTree.shiftedAll, nodesOf, node, position, ParseTree.kind_shifted]
    split
    · have insideSecond : second.Inside text := fun node member =>
        later node (List.mem_append_left _ member)
      have result := nodeOf_shifted whole second _ _ _ behind insideSecond
      have further : Joins before text after _ _ _ :=
        .of_place (spans_nodeOf second _ behind.place insideSecond).isPlace
      obtain ⟨nodes, stops⟩ := nodesOf_shifted whole rest _ _ _ further fun node member =>
        later node (List.mem_append_right _ member)
      rw [result, nodes]
      exact ⟨rfl, fun _ => stops fun _ => rfl⟩
    · obtain ⟨nodes, stops⟩ := nodesOf_shifted whole (second :: rest) _ _ _ behind later
      rw [ParseTree.shiftedAll] at nodes stops
      rw [nodes]
      exact ⟨rfl, fun _ => stops fun _ => rfl⟩
end

end

section

variable (source : List Char)

theorem nodesOf_cons {tree : ParseTree} (noArrow : tree.kind ≠ "->") (offset : Nat)
    (rest : List ParseTree) :
    nodesOf source offset (tree :: rest) =
      ((nodeOf source offset tree).1 :: (nodesOf source (nodeOf source offset tree).2 rest).1,
        (nodesOf source (nodeOf source offset tree).2 rest).2) := by
  cases rest with
  | nil => simp [nodesOf, noArrow]
  | cons second rest => simp [nodesOf, noArrow]

theorem nodesOf_append {front : List ParseTree} (noArrow : ∀ tree ∈ front, tree.kind ≠ "->")
    (offset : Nat) (later : List ParseTree) :
    (nodesOf source offset (front ++ later)).1 = (nodesOf source offset front).1 ++
        (nodesOf source (nodesOf source offset front).2 later).1 ∧
      (nodesOf source offset (front ++ later)).2 =
        (nodesOf source (nodesOf source offset front).2 later).2 := by
  induction front generalizing offset with
  | nil => exact ⟨rfl, rfl⟩
  | cons tree rest ih =>
    obtain ⟨here, further⟩ := List.forall_mem_cons.mp noArrow
    obtain ⟨nodes, stop⟩ := ih further (nodeOf source offset tree).2
    simp only [List.cons_append, nodesOf_cons source here, nodes, stop, and_self]

theorem length_nodesOf {trees : List ParseTree} (noArrow : ∀ tree ∈ trees, tree.kind ≠ "->")
    (offset : Nat) : (nodesOf source offset trees).1.length = trees.length := by
  induction trees generalizing offset with
  | nil => rfl
  | cons tree rest ih =>
    obtain ⟨here, further⟩ := List.forall_mem_cons.mp noArrow
    rw [nodesOf_cons source here, List.length_cons, List.length_cons, ih further]

mutual
theorem stop_nodeOf_lt (tree : ParseTree) (offset bound : Nat) (ahead : offset < bound)
    (within : ∀ node ∈ tree.preorder, node.startByte < bound ∧ node.endByte < bound) :
    (nodeOf source offset tree).2 < bound := by
  obtain ⟨start, stop⟩ := within tree (ParseTree.mem_preorder_self tree)
  obtain ⟨kind, named, isError, isMissing, hasError, startByte, endByte, children⟩ := tree
  unfold nodeOf
  dsimp only
  split
  · exact Nat.max_lt.mpr ⟨stop, Nat.max_lt.mpr ⟨start, ahead⟩⟩
  · exact stop_nodesOf_lt children offset bound ahead fun node member =>
      within node (List.mem_cons_of_mem _ member)

theorem stop_nodesOf_lt (trees : List ParseTree) (offset bound : Nat) (ahead : offset < bound)
    (within : ∀ node ∈ ParseTree.preorderAll trees,
      node.startByte < bound ∧ node.endByte < bound) :
    (nodesOf source offset trees).2 < bound := by
  match trees with
  | [] => exact ahead
  | [last] =>
    have node := stop_nodeOf_lt last offset bound ahead fun node member =>
      within node (List.mem_append_left _ member)
    unfold nodesOf
    dsimp only
    split <;> exact node
  | first :: second :: rest =>
    have node := stop_nodeOf_lt first offset bound ahead fun node member =>
      within node (List.mem_append_left _ member)
    have later : ∀ node ∈ ParseTree.preorderAll (second :: rest),
        node.startByte < bound ∧ node.endByte < bound :=
      fun node member => within node (List.mem_append_right _ member)
    unfold nodesOf
    dsimp only
    split
    · have result := stop_nodeOf_lt second _ bound node fun node member =>
        later node (List.mem_append_left _ member)
      exact stop_nodesOf_lt rest _ bound result fun node member =>
        later node (List.mem_append_right _ member)
    · exact stop_nodesOf_lt (second :: rest) _ bound node later
end

end

end MutationTesting.Python
