import MutationTesting.Proofs.Mutator
import MutationTesting.Proofs.Python.InOrder
import MutationTesting.Rule.Catalogue
/-! The names of the mutants of a source. Where the nodes of the source stand in order, the names
go upwards, so a name belongs to one mutant at most and the first one that has it is the right
one. -/
namespace MutationTesting

/-- Names by rows and, on one row, by numbers. -/
instance : LT MutantId :=
  ⟨fun a b => a.row < b.row ∨ a.row = b.row ∧ a.index < b.index⟩

theorem MutantId.ne_of_lt {a b : MutantId} (less : a < b) : a ≠ b := by
  rintro rfl
  obtain less | ⟨-, less⟩ := less <;> exact Nat.lt_irrefl _ less

namespace Walk

variable {setting : Setting} {root : Node}

/-- A mutant has the row and the number of its candidate, and the text of the row. -/
theorem id_of_mutant? {candidate : Candidate} {mutant : Mutant}
    (made : mutant? setting root candidate = some mutant) :
    mutant.id = ⟨setting.lines.line candidate.register.row, candidate.register.index,
      candidate.register.row⟩ := by
  simp only [mutant?, rendered?, Option.ite_none_left_eq_some, Option.some.injEq] at made
  obtain ⟨-, -, rfl⟩ := made
  rfl

theorem ids_increasing (numbered : (candidates setting.grammar setting.table root).Pairwise
    fun a b => a.register < b.register) :
    ((mutants setting root).map Mutant.id).Pairwise (· < ·) := by
  refine List.pairwise_map.mpr (numbered.filterMap (mutant? setting root) ?_)
  intro a b less first isFirst second isSecond
  rw [id_of_mutant? isFirst, id_of_mutant? isSecond]
  exact less

theorem row_of_mem_mutants {mutant : Mutant} (member : mutant ∈ mutants setting root) :
    mutant.id.row ∈ 0 :: startRowsOf root.children ∧
      mutant.id.line = setting.lines.line mutant.id.row := by
  obtain ⟨candidate, isCandidate, made⟩ := List.mem_filterMap.mp member
  rw [id_of_mutant? made]
  exact ⟨row_of_mem_candidates isCandidate, rfl⟩

end Walk

/-- The mutants of a source have names that go upwards and so differ; a name has the text of its
row; and it leads back to its mutant, while any other name leads to none. -/
structure Mutator.Names (mutator : Mutator) (file : Path) (source : String)
    (mutants : List Mutant) : Prop where
  increasing : (mutants.map Mutant.id).Pairwise (· < ·)
  distinct : (mutants.map Mutant.id).Nodup
  line : ∀ mutant ∈ mutants, (Text.rows source)[mutant.id.row]? = some mutant.id.line
  found : ∀ mutant ∈ mutants, mutator.find? file source mutant.id = .ok (some mutant)
  absent : ∀ id ∉ mutants.map Mutant.id, mutator.find? file source id = .ok none

/-- Of mutants with different names the first one of a name is the only one. -/
theorem find?_id {mutants : List Mutant} (distinct : (mutants.map Mutant.id).Nodup)
    {mutant : Mutant} (member : mutant ∈ mutants) :
    mutants.find? (·.id == mutant.id) = some mutant := by
  induction mutants with
  | nil => contradiction
  | cons first rest ih =>
    obtain ⟨fresh, distinct⟩ := List.nodup_cons.mp distinct
    obtain rfl | member := List.mem_cons.mp member
    · exact List.find?_cons_of_pos (beq_self_eq_true _)
    · have other : first.id ≠ mutant.id := fun same =>
        fresh (List.mem_map.mpr ⟨mutant, member, same.symm⟩)
      rw [List.find?_cons_of_neg (by simpa using other)]
      exact ih distinct member

namespace Python

section Parsed

variable {trees : String → Option ParseTree} {file : Path} {source : String} {tree : ParseTree}

theorem mutants_of_parsed (table : RuleTable) (policy : Policy) (file : Path)
    (parsed : trees source = some tree) (sound : tree.hasError = false) :
    Mutator.mutants ⟨frontend trees, table, policy⟩ file source =
      .ok (Walk.mutants (Mutator.setting ⟨frontend trees, table, policy⟩ file source
        (sourceTree source.toList tree)) (sourceTree source.toList tree).root) := by
  have isParsed : (frontend trees).parse file source = .ok (sourceTree source.toList tree) := by
    simp [frontend, parse, parsed, sound]
  rw [Mutator.mutants_eq, isParsed]
  rfl

theorem line_of_mem_mutants {mutator : Mutator} {mutant : Mutant}
    (member : mutant ∈ Walk.mutants (mutator.setting file source (sourceTree source.toList tree))
      (sourceTree source.toList tree).root) :
    (Text.rows source)[mutant.id.row]? = some mutant.id.line := by
  obtain ⟨starts, line⟩ := Walk.row_of_mem_mutants member
  have bound : mutant.id.row < (Text.rows source).length := by
    obtain first | starts := List.mem_cons.mp starts
    · rw [first, Text.length_rows]
      exact Nat.succ_pos _
    · exact startRows_lt starts
  rw [line, List.getElem?_eq_getElem bound]
  exact congrArg some (List.getElem_eq_getD "")

end Parsed

/-- A source whose nodes start at positions that never decrease has mutants with names. -/
theorem mutants_named (trees : String → Option ParseTree) (table : RuleTable) (policy : Policy)
    (file : Path) {source : String} {tree : ParseTree} (parsed : trees source = some tree)
    (sound : tree.hasError = false) (ordered : tree.InOrder source.toList) :
    ∃ mutants, Mutator.mutants ⟨frontend trees, table, policy⟩ file source = .ok mutants ∧
      Mutator.Names ⟨frontend trees, table, policy⟩ file source mutants := by
  let mutator : Mutator := ⟨frontend trees, table, policy⟩
  let result := sourceTree source.toList tree
  let setting := mutator.setting file source result
  have made : mutator.mutants file source = .ok (Walk.mutants setting result.root) :=
    mutants_of_parsed table policy file parsed sound
  have increasing : ((Walk.mutants setting result.root).map Mutant.id).Pairwise (· < ·) :=
    Walk.ids_increasing (Walk.candidates_increasing (startRows_sorted ordered))
  have distinct := increasing.imp MutantId.ne_of_lt
  refine ⟨Walk.mutants setting result.root, made, increasing, distinct,
    fun mutant member => line_of_mem_mutants member, ?_, ?_⟩
  · intro mutant member
    rw [Mutator.find?_eq, made]
    exact congrArg Except.ok (find?_id distinct member)
  · intro id other
    rw [Mutator.find?_eq, made]
    refine congrArg Except.ok (List.find?_eq_none.mpr fun mutant member => ?_)
    simpa using fun same => other (List.mem_map.mpr ⟨mutant, member, same⟩)

/-- The parse tree of `f(\n  1,\n  2)`, a call over three rows. -/
def callTree : ParseTree :=
  let node (kind : String) (first last : Nat) (children : List ParseTree) : ParseTree :=
    { kind, named := true, isError := false, isMissing := false, hasError := false
      startByte := first, endByte := last, children }
  node "module" 0 12 [
    node "expression_statement" 0 12 [
      node "call" 0 12 [
        node "identifier" 0 1 [],
        node "argument_list" 1 12 [
          node "(" 1 2 [], node "integer" 5 6 [], node "," 6 7 [], node "integer" 10 11 [],
          node ")" 11 12 []]]]]

theorem call_named :
    callTree.hasError = false ∧ callTree.InOrder "f(\n  1,\n  2)".toList ∧
      ∃ mutants, Mutator.mutants ⟨frontend fun _ => some callTree, .python [], .everyLine⟩
          ⟨"t.py"⟩ "f(\n  1,\n  2)" = .ok mutants ∧
        Mutator.Names ⟨frontend fun _ => some callTree, .python [], .everyLine⟩
          ⟨"t.py"⟩ "f(\n  1,\n  2)" mutants :=
  have ordered : callTree.InOrder "f(\n  1,\n  2)".toList := by decide
  ⟨rfl, ordered, mutants_named _ _ _ ⟨"t.py"⟩ rfl rfl ordered⟩

end Python

end MutationTesting
