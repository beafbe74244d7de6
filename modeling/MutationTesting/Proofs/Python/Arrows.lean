import Mathlib.Data.List.Basic
import MutationTesting.Proofs.Python.Shifted
import MutationTesting.Proofs.Python.Splice
import MutationTesting.Proofs.Walk.Stops
/-! Arrows in the tree of a source. An arrow and the node behind it become a group of their own, so a
walk that leaves out what follows an arrow leaves out no more than the group. -/
namespace MutationTesting

namespace Node

/-- What a walk takes for an arrow. -/
def IsArrow (node : Node) : Prop :=
  node.kind = "operator" ∧ node.value? = some "->"

/-- A node that begins with an arrow and has the kind of those that are made for one. -/
def IsArrowGroup (node : Node) : Prop :=
  node.kind = Python.arrowGroup ∧ ∃ arrow, node.children.head? = some arrow ∧ arrow.IsArrow

/-- An address is that of a node with a property, or leads below one. -/
def Within (root : Node) (address : Address) (holds : Node → Prop) : Prop :=
  ∃ way node, way <+: address ∧ root.get? way = some node ∧ holds node

end Node

namespace Python

variable (source : List Char)

/-- The group of an arrow and the node behind it, and the place behind the last token. -/
def groupOf (offset : Nat) (arrow : ParseTree) (next? : Option ParseTree) : Node × Nat :=
  let (node, stop) := nodeOf source offset arrow
  match next? with
  | none => (⟨arrowGroup, none, positionOf source arrow, [node]⟩, stop)
  | some next =>
    let (result, stop) := nodeOf source stop next
    (⟨arrowGroup, none, positionOf source arrow, [node, result]⟩, stop)

/-- An arrow takes the node behind it into its group. -/
theorem nodesOf_arrow {arrow : ParseTree} (isArrow : arrow.kind = "->") (offset : Nat)
    (rest : List ParseTree) :
    nodesOf source offset (arrow :: rest) =
      let (group, stop) := groupOf source offset arrow rest.head?
      (group :: (nodesOf source stop rest.tail).1, (nodesOf source stop rest.tail).2) := by
  cases rest with
  | nil => simp [nodesOf, groupOf, isArrow]
  | cons next rest => simp [nodesOf, groupOf, isArrow]

mutual
/-- The tokens of a parse tree, each with its leaf in the tree of the source. -/
def tokensOf (offset : Nat) : ParseTree → List (ParseTree × Node)
  | ⟨kind, named, isError, isMissing, hasError, startByte, endByte, children⟩ =>
    let tree : ParseTree :=
      ⟨kind, named, isError, isMissing, hasError, startByte, endByte, children⟩
    if isToken tree then [(tree, (leafOf source offset tree).1)]
    else tokensOfAll offset children

/-- The tokens of parse trees that follow each other. -/
def tokensOfAll (offset : Nat) : List ParseTree → List (ParseTree × Node)
  | [] => []
  | tree :: rest => tokensOf offset tree ++ tokensOfAll (nodeOf source offset tree).2 rest
end

/-- Tokens without a name read like their kinds, and what has the kind of an arrow has nothing below
it. -/
structure Literal (tokens : List (ParseTree × Node)) (nodes : List ParseTree) : Prop where
  reads : ∀ pair ∈ tokens, pair.1.named = false → pair.2.value? = some pair.1.kind
  childless : ∀ node ∈ nodes, node.kind = "->" → node.children = []

/-- Besides, whatever has the kind of an arrow, or would be taken for one, is without a name. -/
structure Plain (tokens : List (ParseTree × Node)) (nodes : List ParseTree) : Prop extends
    Literal tokens nodes where
  arrows : ∀ node ∈ nodes, node.kind = "->" → node.named = false
  operators : ∀ pair ∈ tokens, pair.2.IsArrow → pair.1.named = false

variable {source}

theorem Plain.mono {tokens fewer : List (ParseTree × Node)} {nodes less : List ParseTree}
    (plain : Plain tokens nodes) (isToken : fewer ⊆ tokens) (isNode : less ⊆ nodes) :
    Plain fewer less where
  reads pair member := plain.reads pair (isToken member)
  childless node member := plain.childless node (isNode member)
  arrows node member := plain.arrows node (isNode member)
  operators pair member := plain.operators pair (isToken member)

/-- The leaf of a token is an arrow if and only if the token has the kind of one. -/
theorem isArrow_leafOf {tokens : List (ParseTree × Node)} {nodes : List ParseTree}
    (plain : Plain tokens nodes) {tree : ParseTree} {offset : Nat}
    (isToken : (tree, (leafOf source offset tree).1) ∈ tokens) (isNode : tree ∈ nodes) :
    (leafOf source offset tree).1.IsArrow ↔ tree.kind = "->" := by
  constructor
  · intro isArrow
    have reads := plain.reads _ isToken (plain.operators _ isToken isArrow)
    exact Option.some.inj (reads.symm.trans isArrow.2)
  · intro isArrow
    have unnamed := plain.arrows tree isNode isArrow
    have reads := plain.reads _ isToken unnamed
    rw [isArrow] at reads
    have text : part source (max tree.startByte offset)
        (max tree.endByte (max tree.startByte offset)) = ['-', '>'] :=
      String.ofList_injective (Option.some.inj reads)
    have noWord : startsWord ['-', '>'] = false := by decide +kernel
    refine ⟨?_, reads⟩
    simp only [leafOf, Node.leaf, tokenKind, isArrow, unnamed, text, noWord, Bool.false_eq_true,
      if_false]
    rfl

variable (source)

/-- The group of an arrow among parse trees that follow each other. -/
def IsGroupIn (trees : List ParseTree) (group : Node) : Prop :=
  ∃ front arrow rest offset, trees = front ++ arrow :: rest ∧ arrow.kind = "->" ∧
    group = (groupOf source offset arrow rest.head?).1

/-- The same at any depth. -/
def IsGroupBelow (trees : List ParseTree) (group : Node) : Prop :=
  IsGroupIn source trees group ∨
    ∃ parent ∈ ParseTree.preorderAll trees, IsGroupIn source parent.children group

variable {source}

theorem isGroupBelow_preorder {tree : ParseTree} {group : Node}
    (isGroup : IsGroupBelow source tree.children group) :
    ∃ parent ∈ tree.preorder, IsGroupIn source parent.children group := by
  obtain isGroup | ⟨parent, isParent, isGroup⟩ := isGroup
  · exact ⟨tree, ParseTree.mem_preorder_self tree, isGroup⟩
  · rw [ParseTree.preorder_eq]
    exact ⟨parent, List.mem_cons_of_mem _ isParent, isGroup⟩

theorem IsGroupBelow.head {first : ParseTree} {group : Node}
    (isGroup : ∃ parent ∈ first.preorder, IsGroupIn source parent.children group)
    (rest : List ParseTree) : IsGroupBelow source (first :: rest) group := by
  obtain ⟨parent, isParent, isGroup⟩ := isGroup
  exact .inr ⟨parent, List.mem_append_left _ isParent, isGroup⟩

theorem IsGroupBelow.tail {rest : List ParseTree} {group : Node} (first : ParseTree)
    (isGroup : IsGroupBelow source rest group) : IsGroupBelow source (first :: rest) group := by
  obtain ⟨front, arrow, later, offset, rfl, isArrow, made⟩ | ⟨parent, isParent, isGroup⟩ := isGroup
  · exact .inl ⟨first :: front, arrow, later, offset, rfl, isArrow, made⟩
  · exact .inr ⟨parent, List.mem_append_right _ isParent, isGroup⟩

/-- A tree in which each arrow is in a group, and each group is one of those that are made. -/
structure Grouped (isMade : Node → Prop) (root : Node) : Prop where
  arrows : ∀ way place arrow, root.get? (way ++ [place]) = some arrow → arrow.IsArrow →
    ∃ group, root.get? way = some group ∧ group.IsArrowGroup
  groups : ∀ way group, root.get? way = some group → group.IsArrowGroup → isMade group

namespace Grouped

variable {isMade further : Node → Prop} {kind : String} {start : Position} {children : List Node}

theorem mono {root : Node} (grouped : Grouped isMade root)
    (isFurther : ∀ group, isMade group → further group) : Grouped further root where
  arrows := grouped.arrows
  groups way group found isGroup := isFurther group (grouped.groups way group found isGroup)

theorem leaf (kind trivia value : String) (start : Position) :
    Grouped isMade (.leaf kind trivia value start) where
  arrows way place arrow found _ := by
    cases way <;> simp [Node.leaf, Node.get?] at found
  groups way group found isGroup := by
    cases way with
    | nil =>
      obtain rfl := Option.some.inj found
      obtain ⟨-, arrow, isFirst, -⟩ := isGroup
      contradiction
    | cons place rest => simp [Node.leaf, Node.get?] at found

/-- A node is grouped if its children are, and if it is a group that is made once there is an arrow
among them. -/
theorem composite (all : ∀ child ∈ children, Grouped isMade child)
    (group : (∃ child ∈ children, child.IsArrow) →
      (⟨kind, none, start, children⟩ : Node).IsArrowGroup ∧ isMade ⟨kind, none, start, children⟩) :
    Grouped isMade ⟨kind, none, start, children⟩ where
  arrows way place arrow found isArrow := by
    cases way with
    | nil =>
      obtain ⟨child, isChild, same⟩ := Option.bind_eq_some_iff.mp found
      obtain rfl := Option.some.inj same
      exact ⟨_, rfl, (group ⟨_, List.mem_of_getElem? isChild, isArrow⟩).1⟩
    | cons first rest =>
      obtain ⟨child, isChild, found⟩ := Option.bind_eq_some_iff.mp found
      obtain ⟨parent, isParent, isGroup⟩ :=
        (all child (List.mem_of_getElem? isChild)).arrows rest place arrow found isArrow
      exact ⟨parent, Option.bind_eq_some_iff.mpr ⟨child, isChild, isParent⟩, isGroup⟩
  groups way node found isGroup := by
    cases way with
    | nil =>
      obtain rfl := Option.some.inj found
      obtain ⟨-, arrow, isFirst, isArrow⟩ := isGroup
      exact (group ⟨arrow, List.mem_of_head? isFirst, isArrow⟩).2
    | cons first rest =>
      obtain ⟨child, isChild, found⟩ := Option.bind_eq_some_iff.mp found
      exact (all child (List.mem_of_getElem? isChild)).groups rest node found isGroup

theorem group {arrow : Node} {rest : List Node} (first : Grouped isMade arrow)
    (others : ∀ node ∈ rest, Grouped isMade node) (isArrow : arrow.IsArrow)
    (made : isMade ⟨arrowGroup, none, start, arrow :: rest⟩) :
    Grouped isMade ⟨arrowGroup, none, start, arrow :: rest⟩ :=
  composite (List.forall_mem_cons.mpr ⟨first, others⟩) fun _ => ⟨⟨rfl, arrow, rfl, isArrow⟩, made⟩

end Grouped

mutual
/-- The node of a parse tree is an arrow if the parse tree has the kind of one, and the arrows below it
are grouped. -/
theorem grouped_nodeOf (tree : ParseTree) (offset : Nat)
    (plain : Plain (tokensOf source offset tree) tree.preorder) :
    ((nodeOf source offset tree).1.IsArrow ↔ tree.kind = "->") ∧
      Grouped (fun group => ∃ parent ∈ tree.preorder, IsGroupIn source parent.children group)
        (nodeOf source offset tree).1 := by
  have isNode := ParseTree.mem_preorder_self tree
  have below := @isGroupBelow_preorder source tree
  obtain ⟨kind, named, isError, isMissing, hasError, startByte, endByte, children⟩ := tree
  unfold nodeOf
  unfold tokensOf at plain
  dsimp only at plain ⊢
  split
  · rename_i isToken
    rw [if_pos isToken] at plain
    exact ⟨isArrow_leafOf plain List.mem_cons_self isNode, .leaf _ _ _ _⟩
  · rename_i isComposite
    rw [if_neg isComposite] at plain
    have all := grouped_nodesOf children offset
      (plain.mono (List.Subset.refl _) (List.subset_cons_self _ _))
    refine ⟨⟨fun isArrow => ?_, fun isArrow => ?_⟩, ?_⟩
    · simp [Node.IsArrow, Node.value?] at isArrow
    · have childless : children = [] := plain.childless _ isNode isArrow
      exact absurd (by simp [isToken, childless]) isComposite
    · exact .composite (fun child isChild => (all child isChild).2.mono @below)
        fun ⟨child, isChild, isArrow⟩ => absurd isArrow (all child isChild).1

/-- Of nodes that follow each other none is an arrow, as each arrow is in a group. -/
theorem grouped_nodesOf (trees : List ParseTree) (offset : Nat)
    (plain : Plain (tokensOfAll source offset trees) (ParseTree.preorderAll trees)) :
    ∀ node ∈ (nodesOf source offset trees).1,
      ¬ node.IsArrow ∧ Grouped (IsGroupBelow source trees) node := by
  match trees with
  | [] => exact fun node member => absurd member List.not_mem_nil
  | first :: rest =>
    rw [tokensOfAll, ParseTree.preorderAll] at plain
    obtain ⟨arrowIff, firstGrouped⟩ := grouped_nodeOf first offset
      (plain.mono (List.subset_append_left _ _) (List.subset_append_left _ _))
    replace firstGrouped := firstGrouped.mono fun group isGroup => IsGroupBelow.head isGroup rest
    have later : Plain (tokensOfAll source (nodeOf source offset first).2 rest)
        (ParseTree.preorderAll rest) :=
      plain.mono (List.subset_append_right _ _) (List.subset_append_right _ _)
    by_cases isArrow : first.kind = "->"
    · have made : IsGroupBelow source (first :: rest) (groupOf source offset first rest.head?).1 :=
        .inl ⟨[], first, rest, offset, rfl, isArrow, rfl⟩
      rw [nodesOf_arrow source isArrow]
      match rest with
      | [] =>
        refine List.forall_mem_singleton.mpr ⟨?_, ?_⟩
        · simp [groupOf, Node.IsArrow, Node.value?]
        · exact .group firstGrouped (List.forall_mem_nil _) (arrowIff.mpr isArrow) made
      | second :: rest =>
        rw [tokensOfAll, ParseTree.preorderAll] at later
        obtain ⟨-, secondGrouped⟩ := grouped_nodeOf second (nodeOf source offset first).2
          (later.mono (List.subset_append_left _ _) (List.subset_append_left _ _))
        replace secondGrouped := secondGrouped.mono fun group isGroup =>
          (IsGroupBelow.head isGroup rest).tail first
        have others := grouped_nodesOf rest (nodeOf source (nodeOf source offset first).2 second).2
          (later.mono (List.subset_append_right _ _) (List.subset_append_right _ _))
        refine List.forall_mem_cons.mpr ⟨⟨?_, ?_⟩, fun node member =>
          ⟨(others node member).1, (others node member).2.mono fun _ isGroup =>
            (isGroup.tail second).tail first⟩⟩
        · simp [groupOf, Node.IsArrow, Node.value?]
        · exact .group firstGrouped (List.forall_mem_singleton.mpr secondGrouped)
            (arrowIff.mpr isArrow) made
    · rw [nodesOf_cons source isArrow]
      have others := grouped_nodesOf rest (nodeOf source offset first).2 later
      exact List.forall_mem_cons.mpr ⟨⟨mt arrowIff.mp isArrow, firstGrouped⟩, fun node member =>
        ⟨(others node member).1, (others node member).2.mono fun _ isGroup => isGroup.tail first⟩⟩
end

/-- Neither in what is passed by nor in the group of an arrow. -/
def Outside (root : Node) (address : Address) : Prop :=
  ¬ root.Within address (fun node => passThroughKinds.contains node.kind) ∧
    ¬ root.Within address Node.IsArrowGroup

section

variable {root node : Node} {address : Address}

theorem outside_of_kinds (kinds : ∀ way node, way <+: address → root.get? way = some node →
    passThroughKinds.contains node.kind = false ∧ node.kind ≠ arrowGroup) :
    Outside root address := by
  refine ⟨?_, ?_⟩
  · rintro ⟨way, node, isPrefix, found, isPassed⟩
    exact Bool.false_ne_true ((kinds way node isPrefix found).1.symm.trans isPassed)
  · rintro ⟨way, node, isPrefix, found, isGroup, -⟩
    exact (kinds way node isPrefix found).2 isGroup

theorem isPassThrough_eq (here : root.get? address = some node) :
    grammar.isPassThrough ⟨root, address⟩ = passThroughKinds.contains node.kind :=
  congrArg passThroughKinds.contains (Spot.kind_eq here)

theorem isReturnArrow_iff :
    grammar.isReturnArrow ⟨root, address⟩ = true ↔
      ∃ arrow, root.get? address = some arrow ∧ arrow.IsArrow := by
  cases found : root.get? address with
  | none => simp [grammar, Spot.value?, Spot.node?, found]
  | some arrow => simp [grammar, Spot.kind_eq found, Spot.value?, Spot.node?, found, Node.IsArrow]

theorem isReturnArrow_of_kind (here : root.get? address = some node)
    (other : node.kind ≠ "operator") : grammar.isReturnArrow ⟨root, address⟩ = false := by
  refine Bool.eq_false_iff.mpr fun isArrow => ?_
  obtain ⟨arrow, found, isOperator, -⟩ := isReturnArrow_iff.mp isArrow
  obtain rfl := Option.some.inj (here.symm.trans found)
  exact other isOperator

/-- A walk that gets down to a leaf comes through no type, no import and no group of an arrow. -/
theorem outside_of_free (tokens : root.TokensAtLeaves)
    (top : passThroughKinds.contains root.kind = false) (here : root.get? address = some node)
    (isLeaf : node.token?.isSome) (free : Walk.Free grammar root address) :
    Outside root address := by
  refine ⟨?_, ?_⟩
  · rintro ⟨way, passed, isPrefix, found, isPassed⟩
    obtain rfl | ⟨above, place, rfl⟩ := way.eq_nil_or_concat'
    · obtain rfl := Option.some.inj found
      simp_all
    · have entered := (free above place isPrefix).1
      rw [isPassThrough_eq found] at entered
      simp_all
  · rintro ⟨way, group, ⟨rest, rfl⟩, found, -, arrow, isFirst, isArrow⟩
    cases rest with
    | nil =>
      -- A leaf is no group, as it has no children.
      rw [List.append_nil, found] at here
      obtain rfl := Option.some.inj here
      rw [tokens way group found isLeaf] at isFirst
      contradiction
    | cons place rest =>
      have noArrow := (free way place ⟨rest, by simp⟩).2 0 (Nat.zero_le _)
      have isThere : root.get? (way ++ [0]) = some arrow := by
        rw [Node.get?_concat, found, Option.bind_some, ← List.head?_eq_getElem?, isFirst]
      have arrowThere := isReturnArrow_iff.mpr ⟨arrow, isThere, isArrow⟩
      simp_all

/-- Where arrows are in groups nothing else keeps a walk from a node. -/
theorem Grouped.free {isMade : Node → Prop} (grouped : Grouped isMade root)
    (here : root.get? address = some node) (outside : Outside root address) :
    Walk.Free grammar root address := by
  obtain ⟨notPassed, noGroup⟩ := outside
  rintro way place ⟨rest, rfl⟩
  rw [Node.get?_append, Option.bind_eq_some_iff] at here
  obtain ⟨entered, found, -⟩ := here
  refine ⟨?_, fun sibling _ => Bool.eq_false_iff.mpr fun isArrow => ?_⟩
  · rw [isPassThrough_eq found]
    exact Bool.eq_false_iff.mpr fun isPassed =>
      notPassed ⟨_, entered, List.prefix_append _ _, found, isPassed⟩
  · obtain ⟨arrow, isThere, isArrow⟩ := isReturnArrow_iff.mp isArrow
    obtain ⟨group, isAbove, isGroup⟩ := grouped.arrows way sibling arrow isThere isArrow
    exact noGroup ⟨way, group, ⟨place :: rest, by simp⟩, isAbove, isGroup⟩

end

/-- What a walk over the tree of a source leaves out. It looks up rules for the leaves outside types,
imports and the groups of arrows and for no others; each group is an arrow with the node right behind
it, and no arrow is elsewhere; so no mutant comes from a rule for a leaf inside of them. -/
structure LeavesOut (setting : Walk.Setting) (source : List Char) (tree : ParseTree) (root : Node) :
    Prop where
  leaves : ∀ address leaf, root.get? address = some leaf → leaf.token?.isSome →
    (Walk.StopsAt setting root address ↔ Outside root address)
  groups : Grouped (fun group => ∃ parent ∈ tree.preorder, IsGroupIn source parent.children group)
    root
  mutants : ∀ mutant ∈ Walk.mutants setting root,
    ∃ candidate ∈ Walk.candidates setting.grammar setting.table root,
      root.get? candidate.address = some candidate.node ∧
      Walk.mutant? setting root candidate = some mutant ∧
      (candidate.node.token?.isSome → Outside root candidate.address)

/-- In the tree of a source each arrow is in a group, made of it and the node right behind it. -/
theorem grouped_sourceTree {source : List Char} {tree : ParseTree}
    (plain : Plain (tokensOfAll source 0 tree.children) (ParseTree.preorderAll tree.children)) :
    Grouped (fun group => ∃ parent ∈ tree.preorder, IsGroupIn source parent.children group)
      (sourceTree source tree).root := by
  have all := grouped_nodesOf tree.children 0 plain
  exact .composite (fun child isChild => (all child isChild).2.mono fun _ => isGroupBelow_preorder)
    fun ⟨child, isChild, isArrow⟩ => absurd isArrow (all child isChild).1

/-- A walk over a source leaves out what is in types, in imports and in the groups of arrows. -/
theorem walk_leaves_out (trees : String → Option ParseTree) (table : RuleTable) (policy : Policy)
    (file : Path) {source : String} {tree : ParseTree} (parsed : trees source = some tree)
    (sound : tree.hasError = false)
    (plain : Plain (tokensOfAll source.toList 0 tree.children)
      (ParseTree.preorderAll tree.children)) :
    ∃ result, (frontend trees).parse file source = .ok result ∧
      Mutator.mutants ⟨frontend trees, table, policy⟩ file source =
        .ok (Walk.mutants (Mutator.setting ⟨frontend trees, table, policy⟩ file source result)
          result.root) ∧
      LeavesOut (Mutator.setting ⟨frontend trees, table, policy⟩ file source result) source.toList
        tree result.root := by
  have isParsed : (frontend trees).parse file source = .ok (sourceTree source.toList tree) := by
    simp [frontend, parse, parsed, sound]
  have grouped := grouped_sourceTree plain
  have tokens := tokensAtLeaves_sourceTree source.toList tree
  have top : passThroughKinds.contains (sourceTree source.toList tree).root.kind = false := rfl
  refine ⟨_, isParsed, mutants_of_parsed table policy file parsed sound,
    fun address leaf here isLeaf => ?_, grouped, fun mutant member => ?_⟩
  · have inside : address ≠ [] := by
      rintro rfl
      obtain rfl := Option.some.inj here
      contradiction
    rw [Walk.stopsAt_iff here inside]
    exact ⟨outside_of_free tokens top here isLeaf, grouped.free here⟩
  · obtain ⟨candidate, isCandidate, made⟩ := List.mem_filterMap.mp member
    have here := (Walk.comesFrom isCandidate).here
    exact ⟨candidate, isCandidate, here, made, fun isLeaf =>
      outside_of_free tokens top here isLeaf (Walk.free_of_mem_candidates isCandidate)⟩

/-- The parse tree of `def f() -> int:\n  return 1`, in which an arrow has a type behind it. -/
def annotatedTree : ParseTree :=
  let node (kind : String) (named : Bool) (first last : Nat) (children : List ParseTree) :
      ParseTree :=
    { kind, named, isError := false, isMissing := false, hasError := false
      startByte := first, endByte := last, children }
  node "module" true 0 26 [
    node "function_definition" true 0 26 [
      node "def" false 0 3 [], node "identifier" true 4 5 [],
      node "parameters" true 5 7 [node "(" false 5 6 [], node ")" false 6 7 []],
      node "->" false 8 10 [], node "type" true 11 14 [node "identifier" true 11 14 []],
      node ":" false 14 15 [],
      node "block" true 18 26 [
        node "return_statement" true 18 26 [
          node "return" false 18 24 [], node "integer" true 25 26 []]]]]

def annotatedMutator : Mutator :=
  ⟨frontend fun _ => some annotatedTree, .python [], .everyLine⟩

theorem annotated_leaves_out :
    annotatedTree.hasError = false ∧
      Plain (tokensOfAll "def f() -> int:\n  return 1".toList 0 annotatedTree.children)
        (ParseTree.preorderAll annotatedTree.children) ∧
      ∃ result, annotatedMutator.frontend.parse ⟨"t.py"⟩ "def f() -> int:\n  return 1" =
          .ok result ∧
        annotatedMutator.mutants ⟨"t.py"⟩ "def f() -> int:\n  return 1" =
          .ok (Walk.mutants (annotatedMutator.setting ⟨"t.py"⟩ "def f() -> int:\n  return 1" result)
            result.root) ∧
        LeavesOut (annotatedMutator.setting ⟨"t.py"⟩ "def f() -> int:\n  return 1" result)
          "def f() -> int:\n  return 1".toList annotatedTree result.root := by
  have plain : Plain (tokensOfAll "def f() -> int:\n  return 1".toList 0 annotatedTree.children)
      (ParseTree.preorderAll annotatedTree.children) := by
    refine ⟨⟨?_, ?_⟩, ?_, ?_⟩
    · decide +kernel
    · decide +kernel
    · decide +kernel
    · simp only [Node.IsArrow]
      decide +kernel
  exact ⟨rfl, plain, walk_leaves_out _ (.python []) .everyLine ⟨"t.py"⟩ rfl rfl plain⟩

/-- A parse tree of `-> x` whose first token has a name. -/
def namedArrow (kind : String) : ParseTree :=
  let node (kind : String) (first last : Nat) (children : List ParseTree) : ParseTree :=
    { kind, named := true, isError := false, isMissing := false, hasError := false
      startByte := first, endByte := last, children }
  node "module" 0 4 [node kind 0 2 [], node "identifier" 3 4 []]

/-- The tree that it becomes. -/
def namedResult (kind : String) : SourceTree :=
  sourceTree "-> x".toList (namedArrow kind)

/-- What a walk over that tree depends on. -/
def namedSetting (kind : String) : Walk.Setting :=
  Mutator.setting ⟨frontend fun _ => some (namedArrow kind), .python [], .everyLine⟩ ⟨"t.py"⟩ "-> x"
    (namedResult kind)

theorem root_operator : ∃ arrow leaf,
    (namedResult "operator").root = ⟨"module", none, ⟨0, 0⟩, [arrow, leaf]⟩ ∧
      arrow.IsArrow ∧ leaf.kind = "name" ∧ leaf.token?.isSome :=
  ⟨_, _, rfl, ⟨rfl, by decide +kernel⟩, rfl, rfl⟩

theorem root_arrow : ∃ arrow leaf start,
    (namedResult "->").root = ⟨"module", none, ⟨0, 0⟩,
      [⟨arrowGroup, none, start, [arrow, leaf]⟩]⟩ ∧
    IsGroupIn "-> x".toList (namedArrow "->").children ⟨arrowGroup, none, start, [arrow, leaf]⟩ ∧
    arrow.kind = "->" ∧ leaf.kind = "name" ∧ leaf.token?.isSome :=
  ⟨_, _, _, rfl, ⟨[], _, _, 0, rfl, rfl, rfl⟩, rfl, rfl, rfl⟩

/-- An operator with a name gets no group, and what is behind it is left out if it reads like an arrow;
what has a name and the kind of an arrow gets a group, and nothing in it is left out. -/
theorem named_arrow_misleads :
    (∀ kind ∈ ["operator", "->"], (namedArrow kind).hasError = false ∧
      Literal (tokensOfAll "-> x".toList 0 (namedArrow kind).children)
        (ParseTree.preorderAll (namedArrow kind).children)) ∧
    (∃ leaf, (namedResult "operator").root.get? [1] = some leaf ∧ leaf.token?.isSome ∧
      Outside (namedResult "operator").root [1] ∧
      ¬ Walk.StopsAt (namedSetting "operator") (namedResult "operator").root [1]) ∧
    ∃ group leaf, (namedResult "->").root.get? [0] = some group ∧
      IsGroupIn "-> x".toList (namedArrow "->").children group ∧
      (namedResult "->").root.get? [0, 1] = some leaf ∧ leaf.token?.isSome ∧
      Walk.StopsAt (namedSetting "->") (namedResult "->").root [0, 1] := by
  refine ⟨?_, ?_, ?_⟩
  · refine List.forall_mem_cons.mpr ⟨?_, List.forall_mem_singleton.mpr ?_⟩ <;>
    · exact ⟨rfl, by decide +kernel, by decide +kernel⟩
  · obtain ⟨arrow, leaf, root, isArrow, leafKind, isLeaf⟩ := root_operator
    rw [root, Walk.stopsAt_iff rfl (by decide)]
    refine ⟨leaf, rfl, isLeaf, outside_of_kinds fun way node isPrefix found => ?_, fun free => ?_⟩
    · obtain rfl | rfl : way = [] ∨ way = [1] := by simpa [List.prefix_cons_iff] using isPrefix
      · obtain rfl := Option.some.inj found
        change passThroughKinds.contains "module" = false ∧ "module" ≠ arrowGroup
        decide
      · obtain rfl := Option.some.inj found
        rw [leafKind]
        decide
    · have noArrow := (free [] 1 (List.prefix_refl _)).2 0 (Nat.zero_le _)
      exact absurd (isReturnArrow_iff.mpr ⟨arrow, rfl, isArrow⟩) (Bool.eq_false_iff.mp noArrow)
  · obtain ⟨arrow, leaf, start, root, isGroup, arrowKind, leafKind, isLeaf⟩ := root_arrow
    rw [root, Walk.stopsAt_iff rfl (by decide)]
    refine ⟨_, leaf, rfl, isGroup, rfl, isLeaf, ?_⟩
    have outer : Walk.Free grammar ⟨"module", none, ⟨0, 0⟩,
        [⟨arrowGroup, none, start, [arrow, leaf]⟩]⟩ ([] ++ [0]) := by
      refine Walk.free_concat.mpr ⟨Walk.free_nil _ _, rfl, fun sibling bound => ?_⟩
      obtain rfl := Nat.le_zero.mp bound
      rfl
    refine Walk.free_concat.mpr ⟨outer, ?_, fun sibling bound => ?_⟩
    · change passThroughKinds.contains leaf.kind = false
      rw [leafKind]
      rfl
    · obtain rfl | rfl : sibling = 0 ∨ sibling = 1 := by omega
      · exact isReturnArrow_of_kind rfl (by rw [arrowKind]; decide)
      · exact isReturnArrow_of_kind rfl (by rw [leafKind]; decide)

end Python

end MutationTesting
