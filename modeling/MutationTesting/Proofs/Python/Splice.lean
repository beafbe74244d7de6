import MutationTesting.Proofs.Python.EditRow
import MutationTesting.Proofs.Tree.Around
import MutationTesting.Python.Source
/-! The shape of the tree of a source. Whatever the parse tree is like, the tokens are at the
leaves, and below the root no node is without a token. -/
namespace MutationTesting.Python

variable (source : List Char)

theorem nodesOf_ne_nil {trees : List ParseTree} (nonempty : trees ≠ []) (offset : Nat) :
    (nodesOf source offset trees).1 ≠ [] := by
  match trees with
  | [] => contradiction
  | [last] =>
    unfold nodesOf
    dsimp only
    split <;> exact List.cons_ne_nil _ _
  | first :: second :: rest =>
    unfold nodesOf
    dsimp only
    split <;> exact List.cons_ne_nil _ _

mutual
/-- The node of a parse tree has its tokens at its leaves, and each node below it has a token. -/
theorem leaves_nodeOf (tree : ParseTree) (offset : Nat) :
    (nodeOf source offset tree).1.TokensAtLeaves ∧ (nodeOf source offset tree).1.Grown := by
  obtain ⟨kind, named, isError, isMissing, hasError, startByte, endByte, children⟩ := tree
  unfold nodeOf
  dsimp only
  split
  · exact ⟨.leaf _ _ _ _, .leaf _ _ _ _⟩
  · rename_i isComposite
    have nonempty : children ≠ [] := by
      rintro rfl
      exact isComposite rfl
    have all := leaves_nodesOf children offset
    exact ⟨.composite fun child isChild => (all child isChild).1,
      .composite (nodesOf_ne_nil source nonempty offset) fun child isChild => (all child isChild).2⟩

theorem leaves_nodesOf (trees : List ParseTree) (offset : Nat) :
    ∀ node ∈ (nodesOf source offset trees).1, node.TokensAtLeaves ∧ node.Grown := by
  have group {nodes : List Node} (nonempty : nodes ≠ [])
      (all : ∀ node ∈ nodes, node.TokensAtLeaves ∧ node.Grown) (start : Position) :
      (⟨arrowGroup, none, start, nodes⟩ : Node).TokensAtLeaves ∧
        (⟨arrowGroup, none, start, nodes⟩ : Node).Grown :=
    ⟨.composite fun node member => (all node member).1,
      .composite nonempty fun node member => (all node member).2⟩
  match trees with
  | [] => exact fun node member => absurd member List.not_mem_nil
  | [last] =>
    have node : ∀ node ∈ [(nodeOf source offset last).1], node.TokensAtLeaves ∧ node.Grown := by
      simpa using leaves_nodeOf last offset
    unfold nodesOf
    dsimp only
    split
    · simpa using group (List.cons_ne_nil _ _) node (positionOf source last)
    · exact node
  | first :: second :: rest =>
    have node := leaves_nodeOf first offset
    unfold nodesOf
    dsimp only
    split
    · have result := leaves_nodeOf second (nodeOf source offset first).2
      have both : ∀ node ∈ [(nodeOf source offset first).1,
          (nodeOf source (nodeOf source offset first).2 second).1],
          node.TokensAtLeaves ∧ node.Grown := by
        simpa using ⟨node, result⟩
      exact List.forall_mem_cons.mpr
        ⟨group (List.cons_ne_nil _ _) both _, leaves_nodesOf rest _⟩
    · exact List.forall_mem_cons.mpr ⟨node, leaves_nodesOf (second :: rest) _⟩
end

theorem tokensAtLeaves_sourceTree (tree : ParseTree) :
    (sourceTree source tree).root.TokensAtLeaves :=
  .composite fun child isChild => (leaves_nodesOf source tree.children 0 child isChild).1

end MutationTesting.Python

/-! The text of a mutant. A mutant is the source with one part of it exchanged: the value of a
token, the text of one child of a node, or a whole decorator. What stands in front of that part
stays, the blanks and comments before its first token included, and so does what stands behind it.
Only then double negations are left out. -/
namespace MutationTesting

/-- The text in front of the node at an address, its own trivia included. -/
def Node.frontOf (root : Node) (target : Address) : String :=
  root.before target ++ ((root.get? target).map Node.trivia).getD ""

namespace Walk

/-- What the rule of a candidate looks at. -/
def Candidate.context (candidate : Candidate) (table : RuleTable) (root : Node) : RuleContext :=
  contextOf table candidate.register candidate.address.path ⟨root, candidate.address⟩

/-- What a candidate exchanges in the tree, and for what: the value of a leaf, for which a rule gives
a new one; the text of one child, for which a rule puts a leaf; or that of a whole decorator, in place
of which its rule leaves nothing. -/
inductive Candidate.Exchanges (table : RuleTable) (root : Node) (candidate : Candidate) :
    Address → String → String → Prop where
  | value {token : Token} {change : String → RuleContext → Option String} {new : String} :
      candidate.node.token? = some token → candidate.node.children = [] →
      .value change ∈ table.rulesFor candidate.node.kind →
      change token.value (candidate.context table root) = some new →
      candidate.changed = candidate.node.withValue new →
      Exchanges table root candidate candidate.address token.value new
  | child {place : Nat} {child : Node} {change : List Node → RuleContext → Option (List Node)}
      {kind new : String} :
      candidate.node.kind ≠ "decorator" → candidate.node.children[place]? = some child →
      .children change ∈ table.rulesFor candidate.node.kind →
      change candidate.node.children (candidate.context table root) =
        some (candidate.node.children.set place (child.standIn kind new)) →
      candidate.changed = candidate.node.withChildren
        (candidate.node.children.set place (child.standIn kind new)) →
      Exchanges table root candidate (candidate.address ++ [place]) child.text new
  | decorator {first : Node} :
      candidate.node.kind = "decorator" → candidate.node.children.head? = some first →
      .children Rule.decorator ∈ table.rulesFor "decorator" →
      Rule.decorator candidate.node.children (candidate.context table root) =
        some [first.standIn "decorator" ""] →
      candidate.changed = candidate.node.withChildren [first.standIn "decorator" ""] →
      Exchanges table root candidate candidate.address candidate.node.text ""

/-- A mutant is the text of its source with the text of the node at an address exchanged, as a rule
says for a node that the walk has entered. -/
structure Splices (setting : Setting) (root : Node) (candidate : Candidate) (target : Address)
    (old new : String) (mutant : Mutant) : Prop where
  listed : candidate ∈ candidates setting.grammar setting.table root
  here : root.get? candidate.address = some candidate.node
  made : mutant? setting root candidate = some mutant
  exchanged : candidate.Exchanges setting.table root target old new
  ofSource : mutant.source = setting.source
  source : mutant.source = root.frontOf target ++ old ++ (root.behind target ++ setting.suffix)
  mutated : mutant.mutated = collapseNegations
    (root.frontOf target ++ new ++ (root.behind target ++ setting.suffix))

section

variable {setting : Setting} {grammar : Grammar} {synonyms : List String} {table : RuleTable}
  {root : Node} {candidate : Candidate} {target : Address} {old new : String} {mutant : Mutant}

theorem Candidate.ComesFrom.exchanges
    (origin : candidate.ComesFrom grammar (.python synonyms) root)
    (tokens : root.TokensAtLeaves) :
    ∃ target old new, candidate.Exchanges (.python synonyms) root target old new := by
  obtain ⟨rule, isRule, proposal, proposed, changed⟩ := origin.proposed
  cases rule with
  | value change =>
    obtain ⟨value, hasValue, isNew⟩ := Option.bind_eq_some_iff.mp proposed
    obtain ⟨new, gives, isNew⟩ := Option.bind_eq_some_iff.mp isNew
    obtain ⟨-, isNew⟩ := Option.ite_none_left_eq_some.mp isNew
    obtain rfl := Option.some.inj isNew
    simp only [contextOf, Spot.value?, Spot.node?, origin.here, Option.bind_some, Node.value?,
      Option.map_eq_some_iff] at hasValue
    obtain ⟨token, isToken, rfl⟩ := hasValue
    have isLeaf := tokens _ _ origin.here (by rw [isToken]; rfl)
    exact ⟨_, _, new, .value isToken isLeaf isRule gives changed⟩
  | children change =>
    obtain ⟨children, gives, rfl⟩ := Option.map_eq_some_iff.mp proposed
    simp only [contextOf, Spot.children_eq origin.here] at gives
    obtain ⟨other, swaps⟩ | same := RuleTable.python_swapsOne isRule
    · obtain ⟨place, child, kind, new, found, rfl⟩ := swaps _ _ _ gives
      rw [Rule.swapAt_eq found] at gives changed
      exact ⟨_, _, new, .child other found isRule gives changed⟩
    · obtain ⟨isDecorator, same⟩ := Prod.mk.inj same
      obtain rfl := Rule.children.inj same
      obtain ⟨first, isFirst, rfl⟩ := Option.map_eq_some_iff.mp gives
      rw [isDecorator] at isRule
      exact ⟨_, _, "", .decorator isDecorator isFirst isRule gives changed⟩

theorem Candidate.Exchanges.replaces (exchanged : candidate.Exchanges table root target old new) :
    candidate.Replaces target new := by
  cases exchanged with
  | value isToken _ _ _ changed => exact .value new (by rw [isToken]; rfl) changed
  | child _ found _ _ changed =>
    rw [← Rule.swapAt_eq found] at changed
    exact .child _ new found changed
  | decorator _ isFirst _ _ changed => exact .whole _ _ isFirst changed

theorem Candidate.Exchanges.text (exchanged : candidate.Exchanges table root target old new)
    (here : root.get? candidate.address = some candidate.node) :
    ∃ node, root.get? target = some node ∧ node.text = old := by
  cases exchanged with
  | @value token change new isToken _ _ _ changed =>
    refine ⟨candidate.node, here, ?_⟩
    obtain ⟨address, ⟨kind, token?, start, children⟩, changed, register⟩ := candidate
    obtain rfl : token? = some token := isToken
    rfl
  | @child place child change kind new _ found _ _ changed =>
    exact ⟨child, by simpa [Node.get?_concat, here] using found, rfl⟩
  | decorator => exact ⟨candidate.node, here, rfl⟩

theorem Candidate.Exchanges.code (exchanged : candidate.Exchanges table root target old new)
    (here : root.get? candidate.address = some candidate.node) (tokens : root.TokensAtLeaves) :
    root.code = root.frontOf target ++ old ++ root.behind target ∧
      (root.put candidate.address candidate.changed).code =
        root.frontOf target ++ new ++ root.behind target := by
  obtain ⟨node, found, before, after⟩ := exchanged.replaces.code here tokens
  obtain ⟨node', found', text⟩ := exchanged.text here
  obtain rfl : node' = node := Option.some.inj (found'.symm.trans found)
  simpa [Node.frontOf, found, text] using And.intro before after

theorem splices_of_exchanges (tokens : root.TokensAtLeaves)
    (whole : root.code ++ setting.suffix = setting.source)
    (listed : candidate ∈ candidates setting.grammar setting.table root)
    (exchanged : candidate.Exchanges setting.table root target old new)
    (made : mutant? setting root candidate = some mutant) :
    Splices setting root candidate target old new mutant := by
  have here := (comesFrom listed).here
  obtain ⟨before, after⟩ := exchanged.code here tokens
  have isMutant := made
  simp only [mutant?, rendered?, Option.ite_none_left_eq_some, Option.some.injEq] at isMutant
  obtain ⟨-, -, rfl⟩ := isMutant
  refine ⟨listed, here, made, exchanged, rfl, ?_, ?_⟩
  · rw [mutantOf, ← whole, before, String.append_assoc]
  · rw [mutantOf, render, after, String.append_assoc]

end

end Walk

namespace Python

section

variable {source : String} {tree : ParseTree}

theorem splices_of_mem (trees : String → Option ParseTree) (synonyms : List String)
    (policy : Policy) (file : Path) (inside : tree.Inside source.toList) {mutant : Mutant}
    (member : mutant ∈ Walk.mutants (Mutator.setting ⟨frontend trees, .python synonyms, policy⟩ file
        source (sourceTree source.toList tree)) (sourceTree source.toList tree).root) :
    ∃ candidate target old new,
      Walk.Splices (Mutator.setting ⟨frontend trees, .python synonyms, policy⟩ file source
          (sourceTree source.toList tree))
        (sourceTree source.toList tree).root candidate target old new mutant := by
  obtain ⟨candidate, listed, made⟩ := List.mem_filterMap.mp member
  have tokens := tokensAtLeaves_sourceTree source.toList tree
  obtain ⟨target, old, new, exchanged⟩ := (Walk.comesFrom listed).exchanges tokens
  exact ⟨candidate, target, old, new, Walk.splices_of_exchanges tokens
    (String.toList_inj.mp (code_sourceTree inside)) listed exchanged made⟩

end

/-- Every mutant of a source is the source with one part of its text exchanged, but for double
negations. In whatever order the nodes of the parse tree stand, the part is a token, the text of one
child from its first token on, or a decorator, and what replaces it is what a rule has put there. -/
theorem mutants_splice (trees : String → Option ParseTree) (synonyms : List String)
    (policy : Policy) (file : Path) {source : String} {tree : ParseTree}
    (parsed : trees source = some tree) (sound : tree.hasError = false)
    (inside : tree.Inside source.toList) :
    ∃ mutants,
      Mutator.mutants ⟨frontend trees, .python synonyms, policy⟩ file source = .ok mutants ∧
      ∀ mutant ∈ mutants, mutant.source = source ∧ ∃ candidate target old new,
        Walk.Splices (Mutator.setting ⟨frontend trees, .python synonyms, policy⟩ file source
            (sourceTree source.toList tree))
          (sourceTree source.toList tree).root candidate target old new mutant := by
  refine ⟨_, mutants_of_parsed (.python synonyms) policy file parsed sound, ?_⟩
  intro mutant member
  obtain ⟨candidate, target, old, new, splices⟩ :=
    splices_of_mem trees synonyms policy file inside member
  exact ⟨splices.ofSource, candidate, target, old, new, splices⟩

theorem masked_splice :
    maskedTree.hasError = false ∧ maskedTree.Inside maskedText.toList ∧
      ∃ mutants, maskedMutator.mutants ⟨"t.py"⟩ maskedText = .ok mutants ∧
        ∀ mutant ∈ mutants, mutant.source = maskedText ∧ ∃ candidate target old new,
          Walk.Splices (maskedMutator.setting ⟨"t.py"⟩ maskedText
              (sourceTree maskedText.toList maskedTree))
            (sourceTree maskedText.toList maskedTree).root candidate target old new mutant :=
  ⟨rfl, masked_inside,
    mutants_splice (fun _ => some maskedTree) [] .everyLine ⟨"t.py"⟩ rfl rfl masked_inside⟩

end Python

end MutationTesting
