import MutationTesting.Proofs.Python.Names
import MutationTesting.Proofs.Python.Nested
import MutationTesting.Proofs.Rule.Exchange
/-! The row of a mutant's name and the row on which its edit begins. The name has the row of the
last node that the walk has entered in the changed node. For a token this is where the edit begins;
for a composite node it may be further down, and then the lines of the edit are not asked whether
they are excluded. -/
namespace MutationTesting

namespace Walk

theorem startRowsOf_sublist {children : List Node} {place : Nat} {child : Node}
    (isChild : children[place]? = some child) :
    (startRows child).Sublist (startRowsOf children) := by
  induction children generalizing place with
  | nil => contradiction
  | cons first later ih =>
    cases place with
    | zero =>
      obtain rfl := Option.some.inj isChild
      exact List.sublist_append_left _ _
    | succ place => exact (ih isChild).trans (List.sublist_append_right _ _)

theorem startRows_sublist {root node : Node} {address : Address}
    (found : root.get? address = some node) : (startRows node).Sublist (startRows root) := by
  induction address generalizing root with
  | nil =>
    obtain rfl := Option.some.inj found
    exact List.Sublist.refl _
  | cons place rest ih =>
    obtain ⟨child, isChild, below⟩ := Option.bind_eq_some_iff.mp found
    obtain ⟨kind, token?, start, children⟩ := root
    exact (ih below).trans (.cons _ (startRowsOf_sublist isChild))

theorem le_of_getLast? {rows : List Nat} {last row : Nat} (sorted : rows.Pairwise (· ≤ ·))
    (isLast : rows.getLast? = some last) (member : row ∈ rows) : row ≤ last := by
  obtain ⟨front, rfl⟩ := List.getLast?_eq_some_iff.mp isLast
  obtain member | member := List.mem_append.mp member
  · exact (List.pairwise_append.mp sorted).2.2 row member last (List.mem_singleton_self _)
  · exact Nat.le_of_eq (List.mem_singleton.mp member)

end Walk

/-- The row on which the text of the node at an address begins, behind its trivia. -/
def Node.rowOf (root : Node) (target : Address) : Nat :=
  Text.feeds (root.before target ++ ((root.get? target).map Node.trivia).getD "")

namespace Walk

/-- A mutant is made by a candidate, which replaces the text of the node at an address: around that
text the source is as it was, but for double negations. -/
structure Edits (setting : Setting) (root : Node) (candidate : Candidate) (target : Address)
    (mutant : Mutant) : Prop where
  listed : candidate ∈ candidates setting.grammar setting.table root
  made : mutant? setting root candidate = some mutant
  replaced : ∃ node new, root.get? target = some node ∧ candidate.Replaces target new ∧
    mutant.source = root.before target ++ node.trivia ++ node.text ++
      (root.behind target ++ setting.suffix) ∧
    mutant.mutated = collapseNegations (root.before target ++ node.trivia ++ new ++
      (root.behind target ++ setting.suffix))

/-- How the row of a mutant's name goes with the row on which its edit begins. It is the last one of
the rows on which the walk enters a part of the changed node, and it is not excluded. So the edit
of a token begins on it, and any edit that begins on the last of those rows. -/
structure NamesRow (setting : Setting) (root : Node) (candidate : Candidate) (target : Address)
    (mutant : Mutant) : Prop where
  entered : mutant.id.row ∈ visitedRows setting.grammar root candidate.address candidate.node
  last : ∀ row ∈ visitedRows setting.grammar root candidate.address candidate.node,
    row ≤ mutant.id.row
  allowed : setting.lines.isExcluded mutant.id.row = false
  token : candidate.node.token?.isSome → root.rowOf target = mutant.id.row
  agrees : root.rowOf target = mutant.id.row ↔
    root.rowOf target ∈ visitedRows setting.grammar root candidate.address candidate.node ∧
      ∀ row ∈ visitedRows setting.grammar root candidate.address candidate.node,
        row ≤ root.rowOf target

variable {setting : Setting} {root : Node} {candidate : Candidate} {mutant : Mutant}
  {target : Address} {new : String}

theorem edits_of_replaces (fits : root.Fits 0)
    (whole : root.code ++ setting.suffix = setting.source)
    (listed : candidate ∈ candidates setting.grammar setting.table root)
    (replaces : candidate.Replaces target new)
    (made : mutant? setting root candidate = some mutant) :
    Edits setting root candidate target mutant := by
  obtain ⟨node, found, before, after⟩ := replaces.code (comesFrom listed).here fits.tokensAtLeaves
  refine ⟨listed, made, node, new, found, replaces, ?_⟩
  simp only [mutant?, rendered?, Option.ite_none_left_eq_some, Option.some.injEq] at made
  obtain ⟨-, -, rfl⟩ := made
  constructor
  · rw [mutantOf, ← whole, before, String.append_assoc]
  · rw [mutantOf, render, after, String.append_assoc]

/-- A token has no children, so what is changed of it is its own text. -/
theorem rowOf_token (fits : root.Fits 0)
    (here : root.get? candidate.address = some candidate.node)
    (replaces : candidate.Replaces target new) (isToken : candidate.node.token?.isSome) :
    root.rowOf target = candidate.node.start.row := by
  have noChild {place : Nat} {child : Node} : candidate.node.children[place]? ≠ some child := by
    intro isChild
    rw [((fits.get? here).children isChild).1] at isToken
    contradiction
  cases replaces with
  | value =>
    rw [Node.rowOf, here, fits.start_row here isToken, Nat.zero_add]
    rfl
  | child kind new isChild => exact absurd isChild noChild
  | whole kind new isFirst =>
    rw [List.head?_eq_getElem?] at isFirst
    exact absurd isFirst noChild

theorem startRows_token {node : Node} {row : Nat} (fits : node.Fits row)
    (isToken : node.token?.isSome) : startRows node = [node.start.row] := by
  obtain ⟨kind, token?, start, children⟩ := node
  cases token? with
  | none => contradiction
  | some token =>
    obtain ⟨rfl, -⟩ := fits
    rfl

/-- The name of a mutant in a tree whose nodes start on rows that never decrease. -/
theorem namesRow_of_replaces (fits : root.Fits 0) (sorted : (startRows root).Pairwise (· ≤ ·))
    (listed : candidate ∈ candidates setting.grammar setting.table root)
    (replaces : candidate.Replaces target new)
    (made : mutant? setting root candidate = some mutant) :
    NamesRow setting root candidate target mutant := by
  have origin := comesFrom listed
  have named : mutant.id.row = candidate.register.row := by rw [id_of_mutant? made]
  have isLast := origin.row
  rw [← named] at isLast
  have within := visitedRows_sublist setting.grammar root candidate.address candidate.node
  have ordered := sorted.sublist (within.trans (startRows_sublist origin.here))
  have entered := List.mem_of_getLast? isLast
  refine ⟨entered, fun row member => le_of_getLast? ordered isLast member, ?_, ?_, ?_, ?_⟩
  · obtain ⟨isAllowed, -⟩ := Option.ite_none_left_eq_some.mp made
    rw [named]
    exact Bool.eq_false_iff.mpr isAllowed
  · intro isToken
    rw [rowOf_token fits origin.here replaces isToken]
    have starts := within.subset entered
    rw [startRows_token (fits.get? origin.here) isToken] at starts
    exact (List.mem_singleton.mp starts).symm
  · intro same
    rw [same]
    exact ⟨entered, fun row member => le_of_getLast? ordered isLast member⟩
  · rintro ⟨isEntered, isGreatest⟩
    exact Nat.le_antisymm (le_of_getLast? ordered isLast isEntered) (isGreatest _ entered)

end Walk

namespace Python

/-- Every mutant of a source replaces the text of one node, and its name has the last row on which
the walk enters a part of the changed node. -/
theorem names_last_row (trees : String → Option ParseTree) (synonyms : List String)
    (policy : Policy) (file : Path) {source : String} {tree : ParseTree}
    (parsed : trees source = some tree) (sound : tree.hasError = false)
    (inside : tree.Inside source.toList) (nested : tree.Nested) :
    ∃ mutants,
      Mutator.mutants ⟨frontend trees, .python synonyms, policy⟩ file source = .ok mutants ∧
      ∀ mutant ∈ mutants, ∃ candidate target,
        Walk.Edits (Mutator.setting ⟨frontend trees, .python synonyms, policy⟩ file source
            (sourceTree source.toList tree))
          (sourceTree source.toList tree).root candidate target mutant ∧
        Walk.NamesRow (Mutator.setting ⟨frontend trees, .python synonyms, policy⟩ file source
            (sourceTree source.toList tree))
          (sourceTree source.toList tree).root candidate target mutant := by
  let mutator : Mutator := ⟨frontend trees, .python synonyms, policy⟩
  let result := sourceTree source.toList tree
  let setting := mutator.setting file source result
  have isParsed : mutator.frontend.parse file source = .ok result := by
    simp [mutator, result, frontend, parse, parsed, sound]
  have fits : result.root.Fits 0 := fits_sourceTree inside nested
  have whole : result.root.code ++ setting.suffix = setting.source :=
    String.toList_inj.mp (code_sourceTree inside)
  have sorted : (Walk.startRows result.root).Pairwise (· ≤ ·) :=
    List.pairwise_cons.mpr ⟨fun row _ => Nat.zero_le row,
      startRows_sorted (nested.inOrder source.toList)⟩
  refine ⟨Walk.mutants setting result.root, ?_, ?_⟩
  · rw [Mutator.mutants_eq, isParsed]
    rfl
  · intro mutant member
    obtain ⟨candidate, listed, made⟩ := List.mem_filterMap.mp member
    obtain ⟨target, new, replaces⟩ := (Walk.comesFrom listed).replaces
    exact ⟨candidate, target, Walk.edits_of_replaces fits whole listed replaces made,
      Walk.namesRow_of_replaces fits sorted listed replaces made⟩

/-- A value over four rows, the first of which asks for no mutation. -/
def maskedText : String :=
  "x = (  # pragma: no mutate\n    1,\n    2,\n)\n"

/-- Its parse tree. -/
def maskedTree : ParseTree :=
  let node (kind : String) (first last : Nat) (children : List ParseTree) : ParseTree :=
    { kind, named := !(["=", "(", ",", ")"].contains kind), isError := false, isMissing := false
      hasError := false, startByte := first, endByte := last, children }
  node "module" 0 43 [
    node "expression_statement" 0 42 [
      node "assignment" 0 42 [
        node "identifier" 0 1 [], node "=" 2 3 [],
        node "tuple" 4 42 [
          node "(" 4 5 [], node "comment" 7 26 [], node "integer" 31 32 [], node "," 32 33 [],
          node "integer" 38 39 [], node "," 39 40 [], node ")" 41 42 []]]]]

/-- Mutants of that value, with no lines left out but those that ask for it. -/
def maskedMutator : Mutator :=
  ⟨frontend fun _ => some maskedTree, .python [], .everyLine⟩

theorem masked_inside : maskedTree.Inside maskedText.toList := by
  decide

theorem masked_names_last_row :
    maskedTree.hasError = false ∧ maskedTree.Inside maskedText.toList ∧ maskedTree.Nested ∧
      ∃ mutants, maskedMutator.mutants ⟨"t.py"⟩ maskedText = .ok mutants ∧
        ∀ mutant ∈ mutants, ∃ candidate target,
          Walk.Edits (maskedMutator.setting ⟨"t.py"⟩ maskedText
              (sourceTree maskedText.toList maskedTree))
            (sourceTree maskedText.toList maskedTree).root candidate target mutant ∧
          Walk.NamesRow (maskedMutator.setting ⟨"t.py"⟩ maskedText
              (sourceTree maskedText.toList maskedTree))
            (sourceTree maskedText.toList maskedTree).root candidate target mutant :=
  have nested : maskedTree.Nested := by decide
  ⟨rfl, masked_inside, nested,
    names_last_row (fun _ => some maskedTree) [] .everyLine ⟨"t.py"⟩ rfl rfl masked_inside nested⟩

/-- The mutant that replaces the whole value. -/
def unmasked : Mutant where
  file := ⟨"t.py"⟩
  id := ⟨")", 0, 3⟩
  source := maskedText
  mutated := "x = None\n"

/-- The mutant of the whole value changes the first row, which is excluded, but it is named for the
last one: whatever is replaced in the source to make it begins on the first row. -/
theorem unmasked_begins_above :
    (∃ mutants, maskedMutator.mutants ⟨"t.py"⟩ maskedText = .ok mutants ∧ unmasked ∈ mutants) ∧
      (FileLines.ofSource .everyLine ⟨"t.py"⟩ maskedText).isExcluded 0 = true ∧
      ∀ front old new back : String, unmasked.source = front ++ old ++ back →
        unmasked.mutated = front ++ new ++ back →
        Text.feeds front = 0 ∧ Text.feeds front ≠ unmasked.id.row := by
  refine ⟨?_, by decide, ?_⟩
  · have made : (maskedMutator.mutants ⟨"t.py"⟩ maskedText).toOption.any (unmasked ∈ ·) = true := by
      decide +kernel
    cases found : maskedMutator.mutants ⟨"t.py"⟩ maskedText with
    | error error =>
      rw [found] at made
      contradiction
    | ok mutants =>
      rw [found] at made
      exact ⟨mutants, rfl, of_decide_eq_true made⟩
  · intro front old new back before after
    -- what the two texts begin with alike is no longer than the changed one
    have short : front.toList.length ≤ 9 := by
      have length : unmasked.mutated.toList.length = 9 := by decide
      rw [after] at length
      simp only [String.toList_append, List.length_append] at length
      omega
    have isFront : front.toList = maskedText.toList.take front.toList.length := by
      have whole : maskedText.toList = front.toList ++ (old.toList ++ back.toList) := by
        rw [← List.append_assoc, ← String.toList_append, ← String.toList_append]
        exact congrArg String.toList before
      rw [whole, List.take_left]
    have none : ∀ length ≤ 9, (maskedText.toList.take length).count '\n' = 0 := by decide
    have noFeed : Text.feeds front = 0 := by
      rw [Text.feeds, isFront]
      exact none _ short
    exact ⟨noFeed, by rw [noFeed]; decide⟩

end Python

end MutationTesting
