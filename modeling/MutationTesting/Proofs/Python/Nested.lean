import MutationTesting.Proofs.Python.InOrder
import MutationTesting.Proofs.Text.Place
import MutationTesting.Proofs.Tree.Around
import MutationTesting.Python.Source
/-! A tree keeps its source. Tokens are cut out one behind the other, and what lies between two of
them is the trivia of the second one, so nothing is lost and nothing comes twice, wherever the
parser says that its nodes stand. -/
namespace MutationTesting.Python

open Text

/-- Every node of a parse tree starts and ends at a place of the source. -/
def ParseTree.Inside (source : List Char) (tree : ParseTree) : Prop :=
  ∀ node ∈ tree.preorder, IsPlace source node.startByte ∧ IsPlace source node.endByte

instance (source : List Char) (tree : ParseTree) : Decidable (tree.Inside source) :=
  inferInstanceAs (Decidable (∀ node ∈ tree.preorder, _))

variable {source : List Char} {offset : Nat}

theorem part_eq {start stop : Nat} {part : List Char} (spans : Spans source start part stop) :
    Python.part source start stop = part := by
  simp [Python.part, spans.slice?]

/-- A token follows the token before without a gap. -/
theorem spans_leafOf {tree : ParseTree} (before : IsPlace source offset)
    (start : IsPlace source tree.startByte) (stop : IsPlace source tree.endByte) :
    Spans source offset (leafOf source offset tree).1.code.toList (leafOf source offset tree).2 := by
  have first := start.max before
  have last := stop.max first
  obtain ⟨trivia, gap⟩ := before.spans first (Nat.le_max_right _ _)
  obtain ⟨value, token⟩ := first.spans last (Nat.le_max_right _ _)
  have code : (leafOf source offset tree).1.code.toList = trivia ++ value := by
    simp [leafOf, Node.leaf, Node.code, part_eq gap, part_eq token]
  rw [code]
  exact gap.append token

mutual
/-- The text of a node is the source from the place behind the token before it to the place behind
its own last token. -/
theorem spans_nodeOf (tree : ParseTree) (offset : Nat) (before : IsPlace source offset)
    (inside : tree.Inside source) :
    Spans source offset (nodeOf source offset tree).1.code.toList (nodeOf source offset tree).2 := by
  obtain ⟨kind, named, isError, isMissing, hasError, startByte, endByte, children⟩ := tree
  unfold nodeOf
  dsimp only
  split
  · obtain ⟨start, stop⟩ := inside _ (ParseTree.mem_preorder_self _)
    exact spans_leafOf before start stop
  · simp only [Node.code]
    refine spans_nodesOf children offset before fun node member => inside node ?_
    exact List.mem_cons_of_mem _ member

theorem spans_nodesOf (trees : List ParseTree) (offset : Nat) (before : IsPlace source offset)
    (inside : ∀ node ∈ ParseTree.preorderAll trees,
      IsPlace source node.startByte ∧ IsPlace source node.endByte) :
    Spans source offset (Node.codeAll (nodesOf source offset trees).1).toList
      (nodesOf source offset trees).2 := by
  match trees with
  | [] =>
    simp only [nodesOf, Node.codeAll]
    exact before.spans_nil
  | [last] =>
    have node := spans_nodeOf last offset before fun node member =>
      inside node (List.mem_append_left _ member)
    unfold nodesOf
    dsimp only
    split <;> simpa [Node.codeAll, Node.code] using node
  | first :: second :: rest =>
    have node := spans_nodeOf first offset before fun node member =>
      inside node (List.mem_append_left _ member)
    have later : ∀ node ∈ ParseTree.preorderAll (second :: rest),
        IsPlace source node.startByte ∧ IsPlace source node.endByte :=
      fun node member => inside node (List.mem_append_right _ member)
    unfold nodesOf
    dsimp only
    split
    · have result := spans_nodeOf second _ node.isPlace fun node member =>
        later node (List.mem_append_left _ member)
      have nodes := spans_nodesOf rest _ result.isPlace fun node member =>
        later node (List.mem_append_right _ member)
      simpa [Node.codeAll, Node.code] using (node.append result).append nodes
    · have nodes := spans_nodesOf (second :: rest) _ node.isPlace later
      simpa [Node.codeAll] using node.append nodes
end

/-- The tree of a source has the source as its text. -/
theorem code_sourceTree {tree : ParseTree} (inside : tree.Inside source) :
    (sourceTree source tree).code.toList = source := by
  have nodes := spans_nodesOf tree.children 0 (isPlace_zero source) fun node member =>
    inside node (ParseTree.preorder_eq tree ▸ List.mem_cons_of_mem _ member)
  obtain ⟨rest, split, whole⟩ := nodes.splitAtByte?
  simp only [sourceTree, SourceTree.code, Node.code, split, String.toList_append,
    Option.map_some, Option.getD_some, String.toList_ofList]
  exact whole.symm

/-- A source with a parse tree that has no error is read, and the tree gives it back byte for byte,
in whatever order the nodes stand and whether or not they overlap. -/
theorem parse_gives_source_back (trees : String → Option ParseTree) (file : Path)
    {source : String} {tree : ParseTree} (parsed : trees source = some tree)
    (sound : tree.hasError = false) (inside : tree.Inside source.toList) :
    ∃ result, (frontend trees).parse file source = .ok result ∧ result.code = source := by
  refine ⟨sourceTree source.toList tree, ?_, String.toList_inj.mp (code_sourceTree inside)⟩
  simp [frontend, parse, parsed, sound]

/-- A parse tree of `aé→b` in which an arrow, which the rest of the text is grouped with, comes
before a name that stands in front of it, a string overlaps both, and the last token is empty. -/
def tangledTree : ParseTree :=
  let node (kind : String) (first last : Nat) (children : List ParseTree) : ParseTree :=
    { kind, named := kind != "->", isError := false, isMissing := false, hasError := false
      startByte := first, endByte := last, children }
  node "module" 0 7 [
    node "block" 1 7 [node "->" 3 6 [], node "identifier" 0 1 []],
    node "string" 1 7 [node "string_content" 3 6 []],
    node "identifier" 7 7 []]

theorem parse_tangled :
    tangledTree.hasError = false ∧ tangledTree.Inside "aé→b".toList ∧
      ∃ result, (frontend fun _ => some tangledTree).parse ⟨"t.py"⟩ "aé→b" = .ok result ∧
        result.code = "aé→b" :=
  have inside : tangledTree.Inside "aé→b".toList := by decide
  ⟨rfl, inside, parse_gives_source_back _ ⟨"t.py"⟩ rfl rfl inside⟩

end MutationTesting.Python

/-! Parse trees whose nodes lie in one another and follow each other. Their nodes are in order, and
every token of the tree that is made of them says on which row of the source it starts. -/
namespace MutationTesting.Python

namespace ParseTree

mutual
/-- A node lies between two places, and its children lie in it one behind the other. -/
def Between (first last : Nat) : ParseTree → Prop
  | ⟨_, _, _, _, _, startByte, endByte, children⟩ =>
    first ≤ startByte ∧ startByte ≤ endByte ∧ endByte ≤ last ∧
      BetweenAll startByte endByte children

/-- Nodes lie between two places one behind the other. -/
def BetweenAll (first last : Nat) : List ParseTree → Prop
  | [] => True
  | tree :: rest => Between first last tree ∧ BetweenAll tree.endByte last rest
end

mutual
/-- Whether a node lies between two places can be decided. -/
def decideBetween (first last : Nat) : (tree : ParseTree) → Decidable (tree.Between first last)
  | ⟨_, _, _, _, _, startByte, endByte, children⟩ =>
    haveI := decideBetweenAll startByte endByte children
    inferInstanceAs (Decidable (first ≤ startByte ∧ startByte ≤ endByte ∧ endByte ≤ last ∧ _))

/-- The same for nodes that follow each other. -/
def decideBetweenAll (first last : Nat) :
    (trees : List ParseTree) → Decidable (BetweenAll first last trees)
  | [] => inferInstanceAs (Decidable True)
  | tree :: rest =>
    haveI := decideBetween first last tree
    haveI := decideBetweenAll tree.endByte last rest
    inferInstanceAs (Decidable (tree.Between first last ∧ BetweenAll tree.endByte last rest))
end

instance (first last : Nat) (tree : ParseTree) : Decidable (tree.Between first last) :=
  decideBetween first last tree

/-- The nodes of a parse tree lie in one another and follow each other. -/
def Nested (tree : ParseTree) : Prop :=
  tree.Between 0 tree.endByte

instance (tree : ParseTree) : Decidable tree.Nested :=
  inferInstanceAs (Decidable (tree.Between 0 tree.endByte))

variable {first last : Nat}

theorem Between.parts {tree : ParseTree} (between : tree.Between first last) :
    first ≤ tree.startByte ∧ tree.startByte ≤ tree.endByte ∧ tree.endByte ≤ last ∧
      BetweenAll tree.startByte tree.endByte tree.children := by
  cases tree
  exact between

mutual
theorem Between.starts (tree : ParseTree) (first last : Nat) (between : tree.Between first last) :
    (∀ node ∈ tree.preorder, first ≤ node.startByte ∧ node.startByte ≤ last) ∧
      tree.preorder.Pairwise fun a b => a.startByte ≤ b.startByte := by
  obtain ⟨kind, named, isError, isMissing, hasError, startByte, endByte, children⟩ := tree
  obtain ⟨begins, forward, ends, inner⟩ := between
  obtain ⟨within, ordered⟩ := BetweenAll.starts children startByte endByte inner
  refine ⟨?_, List.pairwise_cons.mpr ⟨fun node member => (within node member).1, ordered⟩⟩
  intro node member
  obtain rfl | member := List.mem_cons.mp member
  · exact ⟨begins, Nat.le_trans forward ends⟩
  · obtain ⟨after, before⟩ := within node member
    exact ⟨Nat.le_trans begins after, Nat.le_trans before ends⟩

theorem BetweenAll.starts (trees : List ParseTree) (first last : Nat)
    (between : BetweenAll first last trees) :
    (∀ node ∈ preorderAll trees, first ≤ node.startByte ∧ node.startByte ≤ last) ∧
      (preorderAll trees).Pairwise fun a b => a.startByte ≤ b.startByte := by
  cases trees with
  | nil => exact ⟨by simp [preorderAll], .nil⟩
  | cons tree rest =>
    obtain ⟨here, further⟩ := between
    obtain ⟨begins, stands, ends, -⟩ := here.parts
    have own : tree.Between first tree.endByte := by
      cases tree
      exact ⟨begins, stands, Nat.le_refl _, here.2.2.2⟩
    obtain ⟨within, ordered⟩ := Between.starts tree first tree.endByte own
    obtain ⟨later, orderedLater⟩ := BetweenAll.starts rest tree.endByte last further
    refine ⟨?_, List.pairwise_append.mpr ⟨ordered, orderedLater, fun a isHere b isLater =>
      Nat.le_trans (within a isHere).2 (later b isLater).1⟩⟩
    intro node member
    obtain member | member := List.mem_append.mp member
    · exact ⟨(within node member).1, Nat.le_trans (within node member).2 ends⟩
    · exact ⟨Nat.le_trans (Nat.le_trans begins stands) (later node member).1,
        (later node member).2⟩
end

end ParseTree

theorem le_positionFrom (position : Position) (bytes : Nat) (cs : List Char) :
    position ≤ positionFrom position bytes cs := by
  fun_induction positionFrom position bytes cs with
  | case1 => exact .inr ⟨rfl, Nat.le_add_right _ _⟩
  | case2 => exact .inr ⟨rfl, Nat.le_refl _⟩
  | case3 position bytes c rest fits ih =>
    refine Position.le_trans ?_ ih
    split
    · exact .inl (Nat.lt_succ_self _)
    · exact .inr ⟨rfl, Nat.le_add_right _ _⟩
  | case4 => exact .inr ⟨rfl, Nat.le_add_right _ _⟩

theorem positionFrom_mono (position : Position) {bytes further : Nat} (ahead : bytes ≤ further)
    (cs : List Char) : positionFrom position bytes cs ≤ positionFrom position further cs := by
  induction cs generalizing position bytes further with
  | nil =>
    unfold positionFrom
    exact .inr ⟨rfl, Nat.add_le_add_left ahead _⟩
  | cons c rest ih =>
    cases bytes with
    | zero =>
      rw [positionFrom]
      exact le_positionFrom position further _
    | succ bytes =>
      obtain ⟨further, rfl⟩ := Nat.exists_eq_succ_of_ne_zero (Nat.ne_of_gt (Nat.lt_of_lt_of_le
        (Nat.succ_pos bytes) ahead))
      unfold positionFrom
      by_cases fits : c.utf8Size ≤ bytes + 1
      · rw [if_pos fits, if_pos (Nat.le_trans fits ahead)]
        exact ih _ (Nat.sub_le_sub_right ahead _)
      · rw [if_neg fits]
        split
        · rename_i reached
          refine Position.le_trans ?_ (le_positionFrom _ _ _)
          split
          · exact .inl (Nat.lt_succ_self _)
          · exact .inr ⟨rfl, Nat.add_le_add_left (Nat.le_of_not_le fits) _⟩
        · exact .inr ⟨rfl, Nat.add_le_add_left ahead _⟩

theorem ParseTree.Nested.inOrder {tree : ParseTree} (nested : tree.Nested) (source : List Char) :
    tree.InOrder source :=
  (Between.starts tree 0 tree.endByte nested).2.imp fun ahead => positionFrom_mono _ ahead source

/-- The row of the source that a byte is on. -/
def rowAt (source : List Char) (offset : Nat) : Nat :=
  (positionFrom ⟨0, 0⟩ offset source).row

open Text

/-- A place is on the row behind as many line feeds as there are in front of it. -/
theorem row_positionFrom (position : Position) (front back : List Char) :
    (positionFrom position (byteLength front) (front ++ back)).row =
      position.row + front.count '\n' := by
  induction front generalizing position with
  | nil => cases back <;> rfl
  | cons c rest ih =>
    obtain ⟨bytes, sum⟩ : ∃ bytes, c.utf8Size + byteLength rest = bytes + 1 :=
      Nat.exists_eq_add_one.mpr (Nat.add_pos_left c.utf8Size_pos _)
    have fits : c.utf8Size ≤ bytes + 1 := by omega
    have behind : bytes + 1 - c.utf8Size = byteLength rest := by omega
    rw [byteLength, sum, List.cons_append, positionFrom, if_pos fits, behind, ih]
    by_cases feed : c = '\n'
    · rw [if_pos feed, feed, List.count_cons_self, Nat.add_right_comm, Nat.add_assoc]
    · rw [if_neg feed, List.count_cons_of_ne feed]

theorem rowAt_of_spans {source part : List Char} {start stop : Nat}
    (spans : Spans source start part stop) :
    rowAt source stop = rowAt source start + part.count '\n' := by
  obtain ⟨front, back, rfl, rfl, rfl⟩ := spans
  rw [← byteLength_append, rowAt, rowAt, row_positionFrom, List.append_assoc, row_positionFrom,
    List.count_append, Nat.add_assoc]

section

variable {source : List Char} {first last offset : Nat}

theorem fits_leafOf {tree : ParseTree} (before : IsPlace source offset)
    (start : IsPlace source tree.startByte) (ahead : offset ≤ tree.startByte)
    (forward : tree.startByte ≤ tree.endByte) :
    (leafOf source offset tree).1.Fits (rowAt source offset) ∧
      (leafOf source offset tree).2 = tree.endByte := by
  obtain ⟨trivia, gap⟩ := before.spans start ahead
  have begins : max tree.startByte offset = tree.startByte := Nat.max_eq_left ahead
  have ends : max tree.endByte tree.startByte = tree.endByte := Nat.max_eq_left forward
  simp only [leafOf, begins, ends, and_true, part_eq gap]
  refine ⟨rfl, ?_⟩
  simp only [Text.feeds, String.toList_ofList]
  exact rowAt_of_spans gap

mutual
/-- The node of a parse tree says on which rows its tokens start, and ends where the tree does at
the latest. -/
theorem fits_nodeOf (tree : ParseTree) (offset first last : Nat) (before : IsPlace source offset)
    (inside : tree.Inside source) (ahead : offset ≤ first) (between : tree.Between first last) :
    (nodeOf source offset tree).1.Fits (rowAt source offset) ∧
      (nodeOf source offset tree).2 ≤ tree.endByte := by
  have start := (inside tree (ParseTree.mem_preorder_self tree)).1
  obtain ⟨begins, forward, -, inner⟩ := between.parts
  obtain ⟨kind, named, isError, isMissing, hasError, startByte, endByte, children⟩ := tree
  unfold nodeOf
  dsimp only
  split
  · obtain ⟨fits, ends⟩ := fits_leafOf before start (Nat.le_trans ahead begins) forward
    exact ⟨fits, Nat.le_of_eq ends⟩
  · exact fits_nodesOf children offset startByte endByte before
      (fun node member => inside node (List.mem_cons_of_mem _ member))
      (Nat.le_trans ahead begins) forward inner

theorem fits_nodesOf (trees : List ParseTree) (offset first last : Nat)
    (before : IsPlace source offset)
    (inside : ∀ node ∈ ParseTree.preorderAll trees,
      IsPlace source node.startByte ∧ IsPlace source node.endByte)
    (ahead : offset ≤ first) (forward : first ≤ last)
    (between : ParseTree.BetweenAll first last trees) :
    Node.FitsAll (rowAt source offset) (nodesOf source offset trees).1 ∧
      (nodesOf source offset trees).2 ≤ last := by
  match trees with
  | [] => exact ⟨trivial, Nat.le_trans ahead forward⟩
  | [one] =>
    have insideOne : one.Inside source := fun node member =>
      inside node (List.mem_append_left _ member)
    obtain ⟨fits, stops⟩ := fits_nodeOf one offset first last before insideOne ahead between.1
    have ends := Nat.le_trans stops between.1.parts.2.2.1
    unfold nodesOf
    dsimp only
    split
    · exact ⟨⟨⟨fits, trivial⟩, trivial⟩, ends⟩
    · exact ⟨⟨fits, trivial⟩, ends⟩
  | one :: second :: rest =>
    have insideOne : one.Inside source := fun node member =>
      inside node (List.mem_append_left _ member)
    have insideSecond : second.Inside source := fun node member =>
      inside node (List.mem_append_right _ (List.mem_append_left _ member))
    obtain ⟨here, further⟩ := between
    obtain ⟨fits, stops⟩ := fits_nodeOf one offset first last before insideOne ahead here
    have spans := spans_nodeOf one offset before insideOne
    have behind := rowAt_of_spans spans
    unfold nodesOf
    dsimp only
    split
    · obtain ⟨there, later⟩ := further
      obtain ⟨fitsSecond, stopsSecond⟩ := fits_nodeOf second _ one.endByte last spans.isPlace
        insideSecond stops there
      have spansSecond := spans_nodeOf second _ spans.isPlace insideSecond
      obtain ⟨fitsLater, stopsLater⟩ := fits_nodesOf rest _ second.endByte last
        spansSecond.isPlace
        (fun node member => inside node (List.mem_append_right _ (List.mem_append_right _ member)))
        stopsSecond there.parts.2.2.1 later
      rw [behind] at fitsSecond
      rw [rowAt_of_spans spansSecond, behind] at fitsLater
      refine ⟨⟨⟨fits, fitsSecond, trivial⟩, ?_⟩, stopsLater⟩
      simpa [Node.code, Node.codeAll, Text.feeds, Nat.add_assoc] using fitsLater
    · obtain ⟨fitsLater, stopsLater⟩ := fits_nodesOf (second :: rest) _ one.endByte last
        spans.isPlace (fun node member => inside node (List.mem_append_right _ member))
        stops here.parts.2.2.1 further
      rw [behind] at fitsLater
      exact ⟨⟨fits, fitsLater⟩, stopsLater⟩
end

/-- The tree of a source says on which rows its tokens start. -/
theorem fits_sourceTree {tree : ParseTree} (inside : tree.Inside source) (nested : tree.Nested) :
    (sourceTree source tree).root.Fits 0 := by
  obtain ⟨begins, forward, -, inner⟩ := ParseTree.Between.parts nested
  have nodes := fits_nodesOf tree.children 0 tree.startByte tree.endByte (isPlace_zero source)
    (fun node member =>
      inside node (ParseTree.preorder_eq tree ▸ List.mem_cons_of_mem _ member))
    begins forward inner
  have top : rowAt source 0 = 0 := by cases source <;> rfl
  rw [top] at nodes
  exact nodes.1

end

end MutationTesting.Python
