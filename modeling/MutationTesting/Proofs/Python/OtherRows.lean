import MutationTesting.Proofs.Python.Splice
/-! The rows of a mutant that its edit does not touch. Double negations are left out of the whole text
and not only where the edit has brought them about, so a row above or below the edit stays as it is
just in case it holds none; a comment or a string that holds one is changed along with the code. -/
namespace MutationTesting

namespace Walk

theorem rows_collapseNegations (text : String) :
    Text.rows (collapseNegations text) = (Text.rows text).map collapseNegations :=
  Text.rows_replace (by decide) (by decide) (by decide) text

theorem collapseNegations_eq_self (text : String) :
    collapseNegations text = text ↔ Text.contains " not not " text = false :=
  Text.replace_eq_self (by decide) text

/-- Several rows stay as they are if none of them holds a double negation, and only then. -/
theorem map_collapseNegations_eq_self (rows : List String) :
    rows.map collapseNegations = rows ↔ ∀ row ∈ rows, Text.contains " not not " row = false := by
  calc rows.map collapseNegations = rows
      ↔ rows.map collapseNegations = rows.map id := by rw [List.map_id]
    _ ↔ ∀ row ∈ rows, collapseNegations row = row := List.map_inj_left
    _ ↔ ∀ row ∈ rows, Text.contains " not not " row = false := by
      simp only [collapseNegations_eq_self]

/-- The rows of a source and of a mutant of it that has `new` in place of `old`: those that the edit
touches, and those above and below it. -/
structure RowsAround (front old new behind : String) (mutant : Mutant)
    (above touched changed below : List String) : Prop where
  source : Text.rows mutant.source = above ++ touched ++ below
  mutated : Text.rows mutant.mutated =
    above.map collapseNegations ++ changed ++ below.map collapseNegations
  length_above : above.length = Text.feeds front
  length_touched : touched.length = Text.feeds old + 1
  length_changed : changed.length = Text.feeds new + 1
  length_below : below.length = Text.feeds behind
  kept : above.map collapseNegations = above ∧ below.map collapseNegations = below ↔
    ∀ row ∈ above ++ below, Text.contains " not not " row = false

theorem Splices.rowsAround {setting : Setting} {root : Node} {candidate : Candidate}
    {target : Address} {old new : String} {mutant : Mutant}
    (splices : Splices setting root candidate target old new mutant) :
    ∃ above touched changed below, RowsAround (root.frontOf target) old new
      (root.behind target ++ setting.suffix) mutant above touched changed below := by
  obtain ⟨above, lead, trail, below, lengthAbove, lengthBelow, noLead, noTrail, split⟩ :=
    Text.rows_between (root.frontOf target) (root.behind target ++ setting.suffix)
  have length (middle : String) :
      (Text.rows (lead ++ middle ++ trail)).length = Text.feeds middle + 1 := by
    rw [Text.length_rows, Text.feeds_append, Text.feeds_append, noLead, noTrail, Nat.zero_add,
      Nat.add_zero]
  refine ⟨above, Text.rows (lead ++ old ++ trail),
    (Text.rows (lead ++ new ++ trail)).map collapseNegations, below, ?_, ?_, lengthAbove,
    length old, ?_, lengthBelow, ?_⟩
  · rw [splices.source, split]
  · rw [splices.mutated, rows_collapseNegations, split, List.map_append, List.map_append]
  · rw [List.length_map, length new]
  · rw [map_collapseNegations_eq_self, map_collapseNegations_eq_self, List.forall_mem_append]

end Walk

namespace Python

/-- Every mutant of a source has the rows of the source, but for those that its edit touches, without
their double negations. So all other rows are kept if none of them holds one, and only then. -/
theorem mutants_keep_rows (trees : String → Option ParseTree) (synonyms : List String)
    (policy : Policy) (file : Path) {source : String} {tree : ParseTree}
    (parsed : trees source = some tree) (sound : tree.hasError = false)
    (inside : tree.Inside source.toList) :
    ∃ mutants,
      Mutator.mutants ⟨frontend trees, .python synonyms, policy⟩ file source = .ok mutants ∧
      ∀ mutant ∈ mutants, mutant.source = source ∧ ∃ candidate target old new,
        Walk.Splices (Mutator.setting ⟨frontend trees, .python synonyms, policy⟩ file source
            (sourceTree source.toList tree))
          (sourceTree source.toList tree).root candidate target old new mutant ∧
        ∃ above touched changed below, Walk.RowsAround
          ((sourceTree source.toList tree).root.frontOf target) old new
          ((sourceTree source.toList tree).root.behind target ++
            (sourceTree source.toList tree).suffix)
          mutant above touched changed below := by
  refine ⟨_, mutants_of_parsed (.python synonyms) policy file parsed sound, ?_⟩
  intro mutant member
  obtain ⟨candidate, target, old, new, splices⟩ :=
    splices_of_mem trees synonyms policy file inside member
  exact ⟨splices.ofSource, candidate, target, old, new, splices, splices.rowsAround⟩

/-- A comment with a double negation above an assignment. -/
def commentText : String :=
  "# a not not b\nx = 1\n"

/-- Its parse tree. -/
def commentTree : ParseTree :=
  let node (kind : String) (first last : Nat) (children : List ParseTree) : ParseTree :=
    { kind, named := kind != "=", isError := false, isMissing := false, hasError := false
      startByte := first, endByte := last, children }
  node "module" 0 20 [
    node "comment" 0 13 [],
    node "expression_statement" 14 19 [
      node "assignment" 14 19 [
        node "identifier" 14 15 [], node "=" 16 17 [], node "integer" 18 19 []]]]

/-- Mutants of that text. -/
def commentMutator : Mutator :=
  ⟨frontend fun _ => some commentTree, .python [], .everyLine⟩

theorem comment_inside : commentTree.Inside commentText.toList := by
  decide

theorem comment_keeps_rows :
    commentTree.hasError = false ∧ commentTree.Inside commentText.toList ∧
      ∃ mutants, commentMutator.mutants ⟨"t.py"⟩ commentText = .ok mutants ∧
        ∀ mutant ∈ mutants, mutant.source = commentText ∧ ∃ candidate target old new,
          Walk.Splices (commentMutator.setting ⟨"t.py"⟩ commentText
              (sourceTree commentText.toList commentTree))
            (sourceTree commentText.toList commentTree).root candidate target old new mutant ∧
          ∃ above touched changed below, Walk.RowsAround
            ((sourceTree commentText.toList commentTree).root.frontOf target) old new
            ((sourceTree commentText.toList commentTree).root.behind target ++
              (sourceTree commentText.toList commentTree).suffix)
            mutant above touched changed below :=
  ⟨rfl, comment_inside,
    mutants_keep_rows (fun _ => some commentTree) [] .everyLine ⟨"t.py"⟩ rfl rfl comment_inside⟩

/-- The mutant that counts one further on the second row. -/
def commentChanged : Mutant where
  file := ⟨"t.py"⟩
  id := ⟨"x = 1", 0, 1⟩
  source := commentText
  mutated := "# a b\nx = 2\n"

/-- The mutant exchanges a token on the second row, and the comment on the first one is no longer the
same. -/
theorem comment_changes :
    (∃ mutants, commentMutator.mutants ⟨"t.py"⟩ commentText = .ok mutants ∧
      commentChanged ∈ mutants) ∧
    ∃ candidate target new,
      Walk.Splices (commentMutator.setting ⟨"t.py"⟩ commentText
          (sourceTree commentText.toList commentTree))
        (sourceTree commentText.toList commentTree).root candidate target "1" new commentChanged ∧
      Text.feeds ((sourceTree commentText.toList commentTree).root.frontOf target) = 1 ∧
      (Text.rows commentChanged.source)[0]? = some "# a not not b" ∧
      (Text.rows commentChanged.mutated)[0]? = some "# a b" := by
  let root := (sourceTree commentText.toList commentTree).root
  let setting := commentMutator.setting ⟨"t.py"⟩ commentText
    (sourceTree commentText.toList commentTree)
  have made : commentMutator.mutants ⟨"t.py"⟩ commentText = .ok (Walk.mutants setting root) :=
    mutants_of_parsed (.python []) .everyLine ⟨"t.py"⟩ rfl rfl
  have numbered : (Walk.candidates setting.grammar setting.table root).any (fun candidate =>
      candidate.address = [1, 0, 2] ∧
        Walk.mutant? setting root candidate = some commentChanged) = true := by
    decide +kernel
  obtain ⟨candidate, listed, isNumber⟩ := List.any_eq_true.mp numbered
  obtain ⟨place, isMade⟩ := of_decide_eq_true isNumber
  have member : commentChanged ∈ Walk.mutants setting root :=
    List.mem_filterMap.mpr ⟨candidate, listed, isMade⟩
  have here : root.get? [1, 0, 2] = some candidate.node := place ▸ (Walk.comesFrom listed).here
  have tokens : root.TokensAtLeaves := tokensAtLeaves_sourceTree commentText.toList commentTree
  have whole : root.code ++ setting.suffix = setting.source :=
    String.toList_inj.mp (code_sourceTree comment_inside)
  have isLeaf : (root.get? [1, 0, 2]).map (fun node => (node.children.length, node.value?)) =
      some (0, some "1") := by
    decide +kernel
  rw [here, Option.map_some, Option.some.injEq, Prod.mk.injEq, List.length_eq_zero_iff] at isLeaf
  obtain ⟨noChild, value⟩ := isLeaf
  obtain ⟨target, old, new, exchanged⟩ := (Walk.comesFrom listed).exchanges tokens
  have splices := Walk.splices_of_exchanges tokens whole listed exchanged isMade
  cases exchanged with
  | value isToken =>
    rw [Node.value?, isToken, Option.map_some, Option.some.injEq] at value
    rw [value, place] at splices
    exact ⟨⟨_, made, member⟩, candidate, [1, 0, 2], new, splices, by decide +kernel, by decide,
      by decide⟩
  | child _ found =>
    rw [noChild] at found
    contradiction
  | decorator _ isFirst =>
    rw [noChild] at isFirst
    contradiction

end Python

end MutationTesting
