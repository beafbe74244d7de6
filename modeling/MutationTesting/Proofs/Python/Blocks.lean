import MutationTesting.Proofs.Python.OtherRows
import MutationTesting.Proofs.Python.Shifted
import MutationTesting.Proofs.Walk.Parts
/-! Blocks of lines with the statements in them. Behind whole lines the nodes of a block are those of
the block by itself, moved down, and the walk finds the same in them; so the mutants of a block in a
source have the names that they have in the block by itself, so many rows further down. -/
namespace MutationTesting.Python

open Text

namespace ParseTree

theorem length_shiftedAll (bytes : Nat) (trees : List ParseTree) :
    (shiftedAll bytes trees).length = trees.length := by
  induction trees with
  | nil => rfl
  | cons tree rest ih => rw [shiftedAll, List.length_cons, ih, List.length_cons]

theorem mem_shiftedAll {bytes : Nat} {trees : List ParseTree} {tree : ParseTree}
    (member : tree ∈ shiftedAll bytes trees) : ∃ other ∈ trees, tree = other.shifted bytes := by
  induction trees with
  | nil => contradiction
  | cons first rest ih =>
    obtain rfl | member := List.mem_cons.mp member
    · exact ⟨first, List.mem_cons_self, rfl⟩
    · obtain ⟨other, isOther, same⟩ := ih member
      exact ⟨other, List.mem_cons_of_mem _ isOther, same⟩

theorem preorderAll_append (first later : List ParseTree) :
    preorderAll (first ++ later) = preorderAll first ++ preorderAll later := by
  induction first with
  | nil => rfl
  | cons tree rest ih => simp only [List.cons_append, preorderAll, ih, List.append_assoc]

mutual
theorem preorder_shifted (bytes : Nat) (tree : ParseTree) :
    (tree.shifted bytes).preorder = tree.preorder.map (shifted bytes) := by
  obtain ⟨kind, named, isError, isMissing, hasError, startByte, endByte, children⟩ := tree
  simp only [shifted, preorder, List.map_cons, preorderAll_shiftedAll bytes children]

theorem preorderAll_shiftedAll (bytes : Nat) (trees : List ParseTree) :
    preorderAll (shiftedAll bytes trees) = (preorderAll trees).map (shifted bytes) := by
  cases trees with
  | nil => rfl
  | cons tree rest =>
    simp only [shiftedAll, preorderAll, List.map_append, preorder_shifted bytes tree,
      preorderAll_shiftedAll bytes rest]
end

theorem startByte_shifted (bytes : Nat) (tree : ParseTree) :
    (tree.shifted bytes).startByte = bytes + tree.startByte := by
  cases tree
  rfl

theorem endByte_shifted (bytes : Nat) (tree : ParseTree) :
    (tree.shifted bytes).endByte = bytes + tree.endByte := by
  cases tree
  rfl

/-- The parse tree of a file that has the given statements. -/
def file (statements : List ParseTree) : ParseTree :=
  { kind := "module", named := true, isError := false, isMissing := false, hasError := false
    startByte := 0, endByte := 0, children := statements }

/-- Statements behind those of some lines and in front of further ones. -/
def placed (before : String) (first trees later : List ParseTree) : List ParseTree :=
  first ++ shiftedAll (byteLength before.toList) trees ++ later

end ParseTree

/-- The tree of a text with the given statements. -/
def treeOf (text : String) (statements : List ParseTree) : SourceTree :=
  sourceTree text.toList (.file statements)

/-- Whether a node is an arrow: behind one its siblings are not walked. -/
def isArrow (node : Node) : Bool :=
  node.kind == "operator" && node.value? == some "->"

/-- Parse trees of statements that follow each other in a text. Their nodes start and end at places
of the text, and none of the statements is an arrow. -/
structure Statements (text : String) (trees : List ParseTree) : Prop where
  inside : ∀ node ∈ ParseTree.preorderAll trees,
    IsPlace text.toList node.startByte ∧ IsPlace text.toList node.endByte
  noArrow : ∀ tree ∈ trees, tree.kind ≠ "->"
  noArrowNode : ∀ node ∈ (treeOf text trees).root.children, isArrow node = false

instance (text : String) (trees : List ParseTree) : Decidable (Statements text trees) :=
  decidable_of_iff
    ((∀ node ∈ ParseTree.preorderAll trees,
        IsPlace text.toList node.startByte ∧ IsPlace text.toList node.endByte) ∧
      (∀ tree ∈ trees, tree.kind ≠ "->") ∧
      ∀ node ∈ (treeOf text trees).root.children, isArrow node = false)
    ⟨fun ⟨inside, noArrow, noArrowNode⟩ => ⟨inside, noArrow, noArrowNode⟩,
      fun statements => ⟨statements.inside, statements.noArrow, statements.noArrowNode⟩⟩

/-- Whole lines with the statements in them, which start before the lines end. -/
structure Block (text : String) (trees : List ParseTree) : Prop extends Statements text trees where
  whole : IsWhole text
  starts : ∀ node ∈ ParseTree.preorderAll trees, node.startByte < byteLength text.toList

instance (text : String) (trees : List ParseTree) : Decidable (Block text trees) :=
  decidable_of_iff
    (Statements text trees ∧ IsWhole text ∧
      ∀ node ∈ ParseTree.preorderAll trees, node.startByte < byteLength text.toList)
    ⟨fun ⟨statements, whole, starts⟩ => ⟨statements, whole, starts⟩,
      fun block => ⟨block.toStatements, block.whole, block.starts⟩⟩

section

variable {before text after : String} {first trees later : List ParseTree}

theorem Statements.code (statements : Statements text trees) : (treeOf text trees).code = text :=
  String.toList_inj.mp (code_sourceTree fun node member => by
    rw [ParseTree.preorder_eq] at member
    obtain rfl | member := List.mem_cons.mp member
    · exact ⟨isPlace_zero _, isPlace_zero _⟩
    · exact statements.inside node member)

/-- The suffix of a text stands from the place behind its last token to its end. -/
theorem Statements.suffix (statements : Statements text trees) :
    Spans text.toList (nodesOf text.toList 0 trees).2 (treeOf text trees).suffix.toList
      (byteLength text.toList) := by
  obtain ⟨front, back, -, empty, length⟩ :=
    spans_nodesOf trees 0 (isPlace_zero _) statements.inside
  rw [Nat.zero_add] at length
  have whole : (Node.codeAll (nodesOf text.toList 0 trees).1).toList ++
      (treeOf text trees).suffix.toList = text.toList := by
    rw [← String.toList_append]
    exact congrArg String.toList statements.code
  refine ⟨_, [], by rw [whole, List.append_nil], length, ?_⟩
  rw [← length, ← byteLength_append, whole]

theorem Statements.noArrow_shifted (statements : Statements text trees) (bytes : Nat) :
    ∀ tree ∈ ParseTree.shiftedAll bytes trees, tree.kind ≠ "->" := by
  intro tree member
  obtain ⟨other, isOther, rfl⟩ := ParseTree.mem_shiftedAll member
  rw [ParseTree.kind_shifted]
  exact statements.noArrow other isOther

theorem Statements.nodesOf_before (statements : Statements text trees) (after : List Char) :
    nodesOf (text.toList ++ after) 0 trees = nodesOf text.toList 0 trees := by
  have joins : Joins "" text.toList after 0 0 "" := .of_place (isPlace_zero _)
  obtain ⟨nodes, stop⟩ := nodesOf_shifted (.inl rfl) trees 0 0 "" joins statements.inside
  have same : ParseTree.shiftedAll (byteLength "".toList) trees = trees :=
    ParseTree.shiftedAll_zero trees
  rw [same] at nodes stop
  refine Prod.ext (nodes.trans (Node.movedAll_nowhere _)) ?_
  exact (stop fun _ => rfl).trans (Nat.zero_add _)

/-- The nodes of a text that follows whole lines come behind those of the lines. What is between the
last token of the lines and their end is in front of the first token of the text. -/
theorem Block.children_treeOf (front : Block before first) (here : Statements text trees)
    (after : String) (later : List ParseTree) :
    ∃ others, (treeOf (before ++ text ++ after)
          (ParseTree.placed before first trees later)).root.children =
        (treeOf before first).root.children ++ Node.movedAll (feeds before)
          (treeOf before first).suffix (treeOf text trees).root.children ++ others ∧
      (later = [] → others = []) := by
  have source : (before ++ text ++ after).toList =
      before.toList ++ text.toList ++ after.toList := by
    simp only [String.toList_append]
  have lead : Spans (before.toList ++ text.toList ++ after.toList)
      (nodesOf before.toList 0 first).2 (treeOf before first).suffix.toList
      (byteLength before.toList) := by
    simpa [byteLength] using spans_inside front.suffix [] (text.toList ++ after.toList)
  have joins : Joins before text.toList after.toList 0 (nodesOf before.toList 0 first).2
      (treeOf before first).suffix := ⟨isPlace_zero _, lead, .inl rfl⟩
  have behind := (nodesOf_shifted front.whole trees 0 _ _ joins here.inside).1
  have alone := front.nodesOf_before (text.toList ++ after.toList)
  rw [← List.append_assoc] at alone
  have parts := (nodesOf_append (before.toList ++ text.toList ++ after.toList) front.noArrow 0
    (ParseTree.shiftedAll (byteLength before.toList) trees ++ later)).1
  rw [alone, (nodesOf_append _ (here.noArrow_shifted _) _ later).1, behind] at parts
  rw [← List.append_assoc, ← List.append_assoc, ← source] at parts
  exact ⟨_, parts, fun none => by rw [none]; rfl⟩

theorem Block.behind (front : Block before first) (here : Statements text trees) :
    Statements (before ++ text)
      (first ++ ParseTree.shiftedAll (byteLength before.toList) trees) where
  inside := by
    intro node member
    rw [ParseTree.preorderAll_append, ParseTree.preorderAll_shiftedAll, List.mem_append,
      List.mem_map] at member
    have start {offset : Nat} (place : IsPlace before.toList offset) :
        IsPlace (before ++ text).toList offset := by
      obtain ⟨part, back, whole, length⟩ := place
      exact ⟨part, back ++ text.toList, by simp [whole], length⟩
    have further {offset : Nat} (place : IsPlace text.toList offset) :
        IsPlace (before ++ text).toList (byteLength before.toList + offset) := by
      obtain ⟨part, back, whole, length⟩ := place
      exact ⟨before.toList ++ part, back, by simp [whole], by rw [byteLength_append, length]⟩
    obtain member | ⟨other, isOther, rfl⟩ := member
    · exact (front.inside node member).imp start start
    · rw [ParseTree.startByte_shifted, ParseTree.endByte_shifted]
      exact (here.inside other isOther).imp further further
  noArrow := by
    intro tree member
    obtain member | member := List.mem_append.mp member
    · exact front.noArrow tree member
    · exact here.noArrow_shifted _ tree member
  noArrowNode := by
    obtain ⟨others, whole, none⟩ := front.children_treeOf here "" []
    rw [none rfl, ParseTree.placed, List.append_nil, List.append_nil, String.append_empty] at whole
    intro node member
    rw [whole] at member
    obtain member | member := List.mem_append.mp member
    · exact front.noArrowNode node member
    · obtain ⟨place, isNode⟩ := List.mem_iff_getElem?.mp member
      rw [Node.getElem?_movedAll] at isNode
      obtain ⟨other, isOther, rfl⟩ := Option.map_eq_some_iff.mp isNode
      rw [isArrow, Node.kind_moved, Node.value?_moved]
      exact here.noArrowNode other (List.mem_of_getElem? isOther)

theorem Block.append (front : Block before first) (here : Block text trees) :
    Block (before ++ text) (first ++ ParseTree.shiftedAll (byteLength before.toList) trees) where
  toStatements := front.behind here.toStatements
  whole := by
    obtain rfl | ended := here.whole
    · rw [String.append_empty]
      exact front.whole
    · right
      rw [String.toList_append, List.getLast?_append, ended, Option.some_or]
  starts := by
    intro node member
    rw [ParseTree.preorderAll_append, ParseTree.preorderAll_shiftedAll, List.mem_append,
      List.mem_map] at member
    rw [String.toList_append, byteLength_append]
    obtain member | ⟨other, isOther, rfl⟩ := member
    · exact Nat.lt_add_right _ (front.starts node member)
    · rw [ParseTree.startByte_shifted]
      exact Nat.add_lt_add_left (here.starts other isOther) _

theorem Block.empty : Block "" [] where
  inside := by simp [ParseTree.preorderAll]
  noArrow := by simp
  noArrowNode := by simp [treeOf, sourceTree, ParseTree.file, nodesOf]
  whole := .inl rfl
  starts := by simp [ParseTree.preorderAll]

theorem Block.eq_nil (block : Block "" trees) : trees = [] := by
  cases trees with
  | nil => rfl
  | cons tree rest =>
    exact absurd (block.starts tree (List.mem_append_left _ (ParseTree.mem_preorder_self tree)))
      (Nat.not_lt_zero _)

theorem Block.row_lt (block : Block text trees) (nonempty : text ≠ "") {row : Nat}
    (starts : row ∈ 0 :: Walk.startRowsOf (treeOf text trees).root.children) :
    row < feeds text := by
  have ended := block.whole.resolve_left nonempty
  obtain rfl | starts := List.mem_cons.mp starts
  · exact List.count_pos_iff.mpr (List.mem_of_getLast? ended)
  · obtain ⟨node, member, rfl⟩ :=
      List.mem_map.mp ((follows_nodesOf text.toList 0 trees).subset starts)
    have bound := block.starts node member
    obtain ⟨front, back, whole, length⟩ := (block.inside node member).1
    rw [whole, byteLength_append, ← length] at bound
    have isFurther : back ≠ [] := by
      rintro rfl
      exact Nat.lt_irrefl _ bound
    rw [whole, List.getLast?_append_of_ne_nil _ isFurther] at ended
    have row := row_positionFrom ⟨0, 0⟩ front back
    rw [positionOf, ← length, whole, row, feeds, whole, List.count_append, Nat.zero_add]
    exact Nat.lt_add_of_pos_right (List.count_pos_iff.mpr (List.mem_of_getLast? ended))

/-- The register that the walk over whole lines leaves behind and the one at the start of a walk move
alike in what follows. -/
theorem Block.meets (block : Block before first) (grammar : Grammar) (table : RuleTable)
    (root : Node) :
    Walk.Register.Meets (feeds before) .start
      (Walk.visitFrom grammar table root [] .start 0 (treeOf before first).root.children).2 := by
  by_cases none : before = ""
  · subst none
    obtain rfl := block.eq_nil
    exact Walk.Register.meets_down 0 .start
  · have found := Walk.finds_visitFrom grammar table root [] .start 0
      (treeOf before first).root.children
    have entered := (Walk.visitedRowsFrom_sublist grammar root [] 0
      (treeOf before first).root.children).cons_cons 0
    refine Walk.Register.meets_start (block.row_lt none (entered.subset ?_))
    rw [found.row]
    exact Walk.Finds.getLastD_mem _ _

end

theorem grammar_isLocal : grammar.IsLocal := by
  intro spot other node rows lead here there
  simp only [grammar, Spot.kind, Spot.value?, here, there, Option.map_some, Option.bind_some,
    Node.kind_moved, Node.value?_moved, and_self]

section

variable {before text after : String} {first trees later : List ParseTree}

theorem Statements.passes (statements : Statements text trees) (place : Nat) :
    grammar.isReturnArrow ⟨(treeOf text trees).root, [place]⟩ = false := by
  have top : (treeOf text trees).root.get? [place] = (treeOf text trees).root.children[place]? := by
    simp [Node.get?]
  simp only [grammar, Spot.kind, Spot.value?, Spot.node?, top]
  cases found : (treeOf text trees).root.children[place]? with
  | none => rfl
  | some node => exact statements.noArrowNode node (List.mem_of_getElem? found)

theorem Statements.length (statements : Statements text trees) :
    (treeOf text trees).root.children.length = trees.length :=
  length_nodesOf text.toList statements.noArrow 0

/-- Statements behind whole lines are a tree that stands in that of the source. -/
def Block.inlay (front : Block before first) (here : Statements text trees) (after : String)
    (later : List ParseTree) : Walk.Inlay where
  part := (treeOf text trees).root
  whole := (treeOf (before ++ text ++ after)
    (ParseTree.placed before first trees later)).root
  first := (treeOf before first).root.children
  later := (treeOf (before ++ text ++ after)
    (ParseTree.placed before first trees later)).root.children.drop (first.length + trees.length)
  rows := feeds before
  lead := (treeOf before first).suffix
  children := by
    obtain ⟨others, whole, -⟩ := front.children_treeOf here after later
    have length : first.length + trees.length = ((treeOf before first).root.children ++
        Node.movedAll (feeds before) (treeOf before first).suffix
          (treeOf text trees).root.children).length := by
      rw [List.length_append, Node.length_movedAll, front.length, here.length]
    rw [whole, length, List.drop_left]
  grown := fun child isChild => (leaves_nodesOf text.toList trees 0 child isChild).2
  tokens := tokensAtLeaves_sourceTree _ _
  wholeTokens := tokensAtLeaves_sourceTree _ _

/-- No node of the statements reaches the line feed that ends their lines. -/
def StopsBefore (text : String) (trees : List ParseTree) : Prop :=
  ∀ node ∈ ParseTree.preorderAll trees, node.endByte < byteLength text.toList

instance (text : String) (trees : List ParseTree) : Decidable (StopsBefore text trees) :=
  inferInstanceAs (Decidable (∀ node ∈ ParseTree.preorderAll trees, _))

/-- What stands behind the last token of whole lines ends them, whatever becomes of the tokens. -/
theorem Block.isWhole_suffix (block : Block text trees) (stops : StopsBefore text trees)
    (nonempty : text ≠ "") (code : String) : IsWhole (code ++ (treeOf text trees).suffix) := by
  have ended := block.whole.resolve_left nonempty
  have ahead : 0 < byteLength text.toList := by
    refine Nat.pos_of_ne_zero fun none => nonempty (String.toList_inj.mp ?_)
    exact eq_nil_of_byteLength none
  have stop := stop_nodesOf_lt text.toList trees 0 _ ahead fun node member =>
    ⟨block.starts node member, stops node member⟩
  obtain ⟨front, back, whole, length, sum⟩ := block.toStatements.suffix
  obtain rfl : back = [] := by
    apply eq_nil_of_byteLength
    have total := congrArg byteLength whole
    simp only [byteLength_append] at total
    omega
  have isFurther : (treeOf text trees).suffix.toList ≠ [] := by
    intro none
    rw [none, byteLength] at sum
    omega
  rw [List.append_nil] at whole
  rw [whole, List.getLast?_append_of_ne_nil _ isFurther] at ended
  right
  rw [String.toList_append, List.getLast?_append_of_ne_nil _ isFurther, ended]

/-- Double negations are left out of a block by itself where nothing else in the source holds one. -/
theorem Block.apart (front : Block before first)
    (free : contains " not not " (before ++ text ++ after) = false) {code : String}
    (closed : after = "" ∨ IsWhole code) :
    Walk.collapseNegations (before ++ code ++ after) =
      before ++ Walk.collapseNegations code ++ after := by
  obtain ⟨inFront, -⟩ := contains_append free
  have freeBefore := (Walk.collapseNegations_eq_self before).mpr (contains_append inFront).1
  have freeAfter := (Walk.collapseNegations_eq_self after).mpr (contains_append free).2
  have split : Walk.collapseNegations (code ++ after) = Walk.collapseNegations code ++ after := by
    obtain rfl | whole := closed
    · simp only [String.append_empty]
    · exact (whole.replace_append (by decide) (by decide) after).trans
        (congrArg (Walk.collapseNegations code ++ ·) freeAfter)
  calc Walk.collapseNegations (before ++ code ++ after)
      = Walk.collapseNegations (before ++ (code ++ after)) := by rw [String.append_assoc]
    _ = Walk.collapseNegations before ++ Walk.collapseNegations (code ++ after) :=
        front.whole.replace_append (by decide) (by decide) _
    _ = before ++ Walk.collapseNegations code ++ after := by
        rw [freeBefore, split, String.append_assoc]

theorem Block.inlay_back (front : Block before first) (here : Statements text trees)
    (all : Statements (before ++ text ++ after)
      (ParseTree.placed before first trees later))
    (nonempty : trees ≠ []) :
    (front.inlay here after later).back ++ (treeOf (before ++ text ++ after)
        (ParseTree.placed before first trees later)).suffix =
      (treeOf text trees).suffix ++ after := by
  let inlay := front.inlay here after later
  let source := treeOf (before ++ text ++ after) (ParseTree.placed before first trees later)
  have lines : inlay.front = before := front.code
  have block : Node.codeAll inlay.part.children ++ (treeOf text trees).suffix = text := here.code
  have code : Node.codeAll inlay.whole.children = before ++ Node.codeAll inlay.part.children ++
      inlay.back := by
    rw [inlay.codeAll_whole (nodesOf_ne_nil text.toList nonempty 0), lines]
  have same : before ++ Node.codeAll inlay.part.children ++ (inlay.back ++ source.suffix) =
      before ++ Node.codeAll inlay.part.children ++ ((treeOf text trees).suffix ++ after) := by
    calc before ++ Node.codeAll inlay.part.children ++ (inlay.back ++ source.suffix)
        = Node.codeAll inlay.whole.children ++ source.suffix := by
          rw [code]
          simp only [String.append_assoc]
      _ = before ++ text ++ after := all.code
      _ = before ++ (Node.codeAll inlay.part.children ++ (treeOf text trees).suffix) ++ after :=
          congrArg (before ++ · ++ after) block.symm
      _ = _ := by simp only [String.append_assoc]
  simpa [← String.toList_inj] using same

/-- A source reads as a block in it does, around which it has the texts before and after. -/
theorem Block.reads (front : Block before first) (here : Statements text trees)
    (all : Statements (before ++ text ++ after)
      (ParseTree.placed before first trees later))
    (nonempty : trees ≠ []) (closed : after = "" ∨ Block text trees ∧ StopsBefore text trees)
    (free : contains " not not " (before ++ text ++ after) = false)
    (parser : String → Option ParseTree) (table : RuleTable) (file : Path) :
    (front.inlay here after later).Reads
      (Mutator.setting ⟨frontend parser, table, .everyLine⟩ file text (treeOf text trees))
      (Mutator.setting ⟨frontend parser, table, .everyLine⟩ file (before ++ text ++ after)
        (treeOf (before ++ text ++ after)
          (ParseTree.placed before first trees later)))
      before after where
  table := rfl
  grammar := rfl
  front := front.code
  back := front.inlay_back here all nonempty
  source := rfl
  apart := by
    intro code
    refine front.apart free (closed.imp_right fun ⟨block, stops⟩ => ?_)
    exact block.isWhole_suffix stops (fun empty => nonempty (empty ▸ block).eq_nil) code
  line := by
    intro row starts
    have behind := front.whole.row_behind (text ++ after) row
    rw [← String.append_assoc] at behind
    refine behind.trans ?_
    obtain rfl | ⟨block, -⟩ := closed
    · rw [String.append_empty]
      rfl
    · exact block.whole.row_before after
        (block.row_lt (fun empty => nonempty (empty ▸ block).eq_nil) starts)
  everyLine := ⟨rfl, rfl⟩

/-- The mutants of a source in its statements from one place on and before another one. -/
def mutantsIn (mutator : Mutator) (file : Path) (source : String) (tree : ParseTree)
    (first last : Nat) : List Mutant :=
  Walk.mutantsIn (mutator.setting file source (sourceTree source.toList tree))
    (sourceTree source.toList tree).root first last

/-- The names of the mutants of a text with the given statements. -/
def idsOf (mutator : Mutator) (file : Path) (text : String) (statements : List ParseTree) :
    List MutantId :=
  (Walk.mutants (mutator.setting file text (treeOf text statements))
    (treeOf text statements).root).map Mutant.id

/-- The mutants of statements behind whole lines have the names that they have in the text of these
statements by itself, moved down by as many rows as there are lines. -/
theorem Block.ids (front : Block before first) (here : Statements text trees) {source : String}
    {tree : ParseTree} (lines : source = before ++ text ++ after)
    (children : tree.children = ParseTree.placed before first trees later)
    (all : Statements source tree.children)
    (closed : after = "" ∨ Block text trees ∧ StopsBefore text trees)
    (free : contains " not not " source = false) (parser : String → Option ParseTree)
    {table : RuleTable} (isLocal : table.IsLocal) (file : Path) :
    (mutantsIn ⟨frontend parser, table, .everyLine⟩ file source tree first.length
        (first.length + trees.length)).map Mutant.id =
      (idsOf ⟨frontend parser, table, .everyLine⟩ file text trees).map
        (MutantId.down (feeds before)) := by
  subst lines
  have whole : sourceTree (before ++ text ++ after).toList tree =
      treeOf (before ++ text ++ after) (ParseTree.placed before first trees later) :=
    congrArg (treeOf (before ++ text ++ after)) children
  rw [children] at all
  rw [mutantsIn, whole, idsOf, List.map_map]
  let inlay := front.inlay here after later
  have place : inlay.first.length = first.length := front.length
  have length : inlay.part.children.length = trees.length := here.length
  have between := Walk.candidates_between table all.passes inlay.children
  rw [Node.length_movedAll, length, place] at between
  have matching : List.Forall₂ inlay.Matches (Walk.candidates grammar table inlay.part)
      ((Walk.candidates grammar table inlay.whole).filter
        (Walk.Candidate.isIn first.length (first.length + trees.length))) := by
    have found := inlay.top_agree grammar_isLocal isLocal
      (List.drop_zero : inlay.part.children.drop 0 = inlay.part.children)
      (front.meets grammar table inlay.whole)
    rw [place] at found
    exact between ▸ found
  obtain rfl | nonempty := eq_or_ne trees []
  · have none := List.forall₂_nil_left_iff.mp matching
    exact congrArg (fun found => (List.filterMap _ found).map Mutant.id) none
  · exact (front.reads here all nonempty closed free parser table file).ids matching
      fun candidate member => Walk.row_of_mem_candidates member

end

end MutationTesting.Python
