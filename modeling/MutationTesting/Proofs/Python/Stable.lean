import MutationTesting.Proofs.Python.Blocks
/-! Edits elsewhere in a source. Where the lines between two blocks are exchanged for others, the
mutants before them keep their names, and those behind them keep theirs but for the row, which moves
with the lines. -/
namespace MutationTesting

/-- The same name so many rows further down, or further up. -/
def MutantId.ShiftedBy (rows : Int) (id other : MutantId) : Prop :=
  other.line = id.line ∧ other.index = id.index ∧ (other.row : Int) = id.row + rows

namespace Python

open Text

/-- A source of three blocks, whose parse tree has the statements of the one behind those of the
other, and which holds no double negation. -/
structure ThreeBlocks (parser : String → Option ParseTree) (head middle tail : String)
    (first second third : List ParseTree) (tree : ParseTree) : Prop where
  parsed : parser (head ++ middle ++ tail) = some tree
  sound : tree.hasError = false
  children : tree.children = first ++ ParseTree.shiftedAll (byteLength head.toList) second ++
    ParseTree.shiftedAll (byteLength (head ++ middle).toList) third
  above : Block head first
  between : Block middle second
  below : Statements tail third
  free : contains " not not " (head ++ middle ++ tail) = false

/-- The mutants of a source of three blocks: those of the statements of each block. -/
structure InBlocks (mutator : Mutator) (file : Path) (source : String) (tree : ParseTree)
    (first second third : List ParseTree) (inFirst inSecond inThird : List Mutant) : Prop where
  mutants : mutator.mutants file source = .ok (inFirst ++ inSecond ++ inThird)
  inFirst : inFirst = mutantsIn mutator file source tree 0 first.length
  inSecond : inSecond = mutantsIn mutator file source tree first.length
    (first.length + second.length)
  inThird : inThird = mutantsIn mutator file source tree (first.length + second.length)
    (first.length + second.length + third.length)

namespace ThreeBlocks

variable {parser : String → Option ParseTree} {head middle tail : String}
  {first second third : List ParseTree} {tree : ParseTree} {table : RuleTable}

theorem statements (blocks : ThreeBlocks parser head middle tail first second third tree) :
    Statements (head ++ middle ++ tail) tree.children := by
  rw [blocks.children]
  exact (blocks.above.append blocks.between).behind blocks.below

/-- The mutants of a source of three blocks are those of the blocks, one behind the other. -/
theorem inBlocks (blocks : ThreeBlocks parser head middle tail first second third tree)
    (table : RuleTable) (file : Path) :
    ∃ inFirst inSecond inThird, InBlocks ⟨frontend parser, table, .everyLine⟩ file
      (head ++ middle ++ tail) tree first second third inFirst inSecond inThird := by
  refine ⟨_, _, _, ?_, rfl, rfl, rfl⟩
  let inlay := blocks.above.inlay blocks.between.toStatements tail
    (ParseTree.shiftedAll (byteLength (head ++ middle).toList) third)
  have whole : inlay.whole = (sourceTree (head ++ middle ++ tail).toList tree).root := by
    change (treeOf _ (_ ++ _ ++ _)).root = (treeOf _ tree.children).root
    rw [blocks.children]
  have inFirst : inlay.first.length = first.length := blocks.above.length
  have inSecond : (Node.movedAll inlay.rows inlay.lead inlay.part.children).length =
      second.length := by
    rw [Node.length_movedAll]
    exact blocks.between.length
  have all : inlay.whole.children.length = first.length + second.length + third.length := by
    rw [whole]
    refine blocks.statements.length.trans ?_
    rw [blocks.children, List.length_append, List.length_append, ParseTree.length_shiftedAll,
      ParseTree.length_shiftedAll]
  have inThird : inlay.later.length = third.length := by
    rw [inlay.children, List.length_append, List.length_append, inFirst, inSecond] at all
    exact Nat.add_left_cancel all
  have parts := inlay.children
  rw [whole] at parts
  rw [mutants_of_parsed table .everyLine file blocks.parsed blocks.sound,
    Walk.mutants_eq_parts blocks.statements.passes parts, inFirst, inSecond, inThird]
  rfl

/-- The mutants of the first block have the names that they have in the block by itself. -/
theorem ids_first (blocks : ThreeBlocks parser head middle tail first second third tree)
    (stops : StopsBefore head first) (isLocal : table.IsLocal) (file : Path) :
    (mutantsIn ⟨frontend parser, table, .everyLine⟩ file (head ++ middle ++ tail) tree 0
        first.length).map Mutant.id =
      idsOf ⟨frontend parser, table, .everyLine⟩ file head first := by
  have lines : head ++ middle ++ tail = "" ++ head ++ (middle ++ tail) := by
    rw [String.empty_append, String.append_assoc]
  have children : tree.children = ParseTree.placed "" [] first
      (ParseTree.shiftedAll (byteLength head.toList) second ++
        ParseTree.shiftedAll (byteLength (head ++ middle).toList) third) := by
    rw [blocks.children, List.append_assoc]
    exact congrArg (· ++ _) (ParseTree.shiftedAll_zero first).symm
  have ids := Block.empty.ids blocks.above.toStatements lines children blocks.statements
    (.inr ⟨blocks.above, stops⟩) blocks.free parser isLocal file
  rw [List.length_nil, Nat.zero_add] at ids
  exact ids.trans (List.map_id _)

/-- The mutants of the last block have the names that they have in the block by itself, moved down by
the rows of the other two. -/
theorem ids_third (blocks : ThreeBlocks parser head middle tail first second third tree)
    (isLocal : table.IsLocal) (file : Path) :
    (mutantsIn ⟨frontend parser, table, .everyLine⟩ file (head ++ middle ++ tail) tree
        (first.length + second.length) (first.length + second.length + third.length)).map
        Mutant.id =
      (idsOf ⟨frontend parser, table, .everyLine⟩ file tail third).map
        (MutantId.down (feeds (head ++ middle))) := by
  have children : tree.children = ParseTree.placed (head ++ middle)
      (first ++ ParseTree.shiftedAll (byteLength head.toList) second) third [] := by
    rw [blocks.children, ParseTree.placed, List.append_nil]
  have ids := (blocks.above.append blocks.between).ids blocks.below (String.append_empty).symm
    children blocks.statements (.inl rfl) blocks.free parser isLocal file
  rwa [List.length_append, ParseTree.length_shiftedAll] at ids

end ThreeBlocks

/-- What an edit leaves of names: the mutants before it keep them, and those behind it keep them but
for the row, and all stay in the same order. -/
structure NamesKept (rows : Int) (before behind before' behind' : List Mutant) : Prop where
  before : before'.map Mutant.id = before.map Mutant.id
  behind : List.Forall₂ (MutantId.ShiftedBy rows) (behind.map Mutant.id) (behind'.map Mutant.id)

/-- When the lines between two blocks are exchanged, the mutants of the first block keep their names,
and those of the last block keep theirs but for the row, which moves by the difference of the numbers
of lines. The rules may look at a node and at those above it, but neither at where these stand nor at
what is in front of their first tokens, as is so for Python. -/
theorem names_survive_edits (parser : String → Option ParseTree) {table : RuleTable}
    (isLocal : table.IsLocal) (file : Path) {head middle middle' tail : String}
    {first second second' third : List ParseTree} {tree tree' : ParseTree}
    (old : ThreeBlocks parser head middle tail first second third tree)
    (new : ThreeBlocks parser head middle' tail first second' third tree')
    (stops : StopsBefore head first) :
    ∃ inFirst inSecond inThird inFirst' inSecond' inThird',
      InBlocks ⟨frontend parser, table, .everyLine⟩ file (head ++ middle ++ tail) tree
        first second third inFirst inSecond inThird ∧
      InBlocks ⟨frontend parser, table, .everyLine⟩ file (head ++ middle' ++ tail) tree'
        first second' third inFirst' inSecond' inThird' ∧
      NamesKept ((feeds middle' : Int) - feeds middle) inFirst inThird inFirst' inThird' := by
  obtain ⟨inFirst, inSecond, inThird, oldMutants⟩ := old.inBlocks table file
  obtain ⟨inFirst', inSecond', inThird', newMutants⟩ := new.inBlocks table file
  refine ⟨_, _, _, _, _, _, oldMutants, newMutants, ?_, ?_⟩
  · rw [oldMutants.inFirst, newMutants.inFirst, old.ids_first stops isLocal file,
      new.ids_first stops isLocal file]
  · rw [oldMutants.inThird, newMutants.inThird, old.ids_third isLocal file,
      new.ids_third isLocal file, List.forall₂_map_left_iff, List.forall₂_map_right_iff,
      List.forall₂_same]
    intro id _
    refine ⟨rfl, rfl, ?_⟩
    simp only [MutantId.down, feeds_append, Int.natCast_add]
    omega

/-- The parse tree of a statement such as `x = 1` that starts at a byte. -/
def assignmentAt (start : Nat) : ParseTree :=
  let node (kind : String) (first last : Nat) (children : List ParseTree) : ParseTree :=
    { kind, named := kind != "=", isError := false, isMissing := false, hasError := false
      startByte := start + first, endByte := start + last, children }
  node "expression_statement" 0 5 [
    node "assignment" 0 5 [
      node "identifier" 0 1 [], node "=" 2 3 [], node "integer" 4 5 []]]

/-- Parse trees of three assignments, and of four with a blank line between two of them. -/
def assignments (source : String) : Option ParseTree :=
  if source = "x = 1\ny = 2\nz = 3\n" then
    some (.file [assignmentAt 0, assignmentAt 6, assignmentAt 12])
  else some (.file [assignmentAt 0, assignmentAt 6, assignmentAt 13, assignmentAt 19])

theorem assignments_keep_names :
    (RuleTable.python []).IsLocal ∧
    ThreeBlocks assignments "x = 1\n" "y = 2\n" "z = 3\n" [assignmentAt 0] [assignmentAt 0]
      [assignmentAt 0] (.file [assignmentAt 0, assignmentAt 6, assignmentAt 12]) ∧
    ThreeBlocks assignments "x = 1\n" "y = 2\n\nw = 4\n" "z = 3\n" [assignmentAt 0]
      [assignmentAt 0, assignmentAt 7] [assignmentAt 0]
      (.file [assignmentAt 0, assignmentAt 6, assignmentAt 13, assignmentAt 19]) ∧
    StopsBefore "x = 1\n" [assignmentAt 0] ∧
    ∃ inFirst inSecond inThird inFirst' inSecond' inThird',
      InBlocks ⟨frontend assignments, .python [], .everyLine⟩ ⟨"t.py"⟩
        ("x = 1\n" ++ "y = 2\n" ++ "z = 3\n")
        (.file [assignmentAt 0, assignmentAt 6, assignmentAt 12]) [assignmentAt 0] [assignmentAt 0]
        [assignmentAt 0] inFirst inSecond inThird ∧
      InBlocks ⟨frontend assignments, .python [], .everyLine⟩ ⟨"t.py"⟩
        ("x = 1\n" ++ "y = 2\n\nw = 4\n" ++ "z = 3\n")
        (.file [assignmentAt 0, assignmentAt 6, assignmentAt 13, assignmentAt 19]) [assignmentAt 0]
        [assignmentAt 0, assignmentAt 7] [assignmentAt 0] inFirst' inSecond' inThird' ∧
      NamesKept 2 inFirst inThird inFirst' inThird' :=
  have isLocal := RuleTable.python_isLocal []
  have old : ThreeBlocks assignments "x = 1\n" "y = 2\n" "z = 3\n" [assignmentAt 0]
      [assignmentAt 0] [assignmentAt 0]
      (.file [assignmentAt 0, assignmentAt 6, assignmentAt 12]) :=
    ⟨rfl, rfl, rfl, by decide, by decide, by decide, by decide⟩
  have new : ThreeBlocks assignments "x = 1\n" "y = 2\n\nw = 4\n" "z = 3\n" [assignmentAt 0]
      [assignmentAt 0, assignmentAt 7] [assignmentAt 0]
      (.file [assignmentAt 0, assignmentAt 6, assignmentAt 13, assignmentAt 19]) :=
    ⟨rfl, rfl, rfl, by decide, by decide, by decide, by decide⟩
  have stops : StopsBefore "x = 1\n" [assignmentAt 0] := by decide
  ⟨isLocal, old, new, stops, names_survive_edits assignments isLocal ⟨"t.py"⟩ old new stops⟩

/-- Two lines more put the mutants of the last assignment two rows further down. -/
example :
    (mutantsIn ⟨frontend assignments, .python [], .everyLine⟩ ⟨"t.py"⟩ "x = 1\ny = 2\nz = 3\n"
        (.file [assignmentAt 0, assignmentAt 6, assignmentAt 12]) 2 3).map Mutant.id =
      [⟨"z = 3", 0, 2⟩, ⟨"z = 3", 1, 2⟩] ∧
    (mutantsIn ⟨frontend assignments, .python [], .everyLine⟩ ⟨"t.py"⟩
        "x = 1\ny = 2\n\nw = 4\nz = 3\n"
        (.file [assignmentAt 0, assignmentAt 6, assignmentAt 13, assignmentAt 19]) 3 4).map
        Mutant.id =
      [⟨"z = 3", 0, 4⟩, ⟨"z = 3", 1, 4⟩] := by
  decide +kernel

theorem NamesKept.length {rows : Int} {before behind before' behind' : List Mutant}
    (kept : NamesKept rows before behind before' behind') :
    before'.length = before.length ∧ behind'.length = behind.length := by
  have first := congrArg List.length kept.before
  have third := kept.behind.length_eq
  rw [List.length_map, List.length_map] at first third
  exact ⟨first, third.symm⟩

/-- An edit that changes the number of mutants before it or behind it does not leave the names. -/
theorem ThreeBlocks.exists_lost {parser : String → Option ParseTree}
    {head middle middle' tail : String} {first second second' third : List ParseTree}
    {tree tree' : ParseTree}
    (old : ThreeBlocks parser head middle tail first second third tree)
    (new : ThreeBlocks parser head middle' tail first second' third tree') (table : RuleTable)
    (file : Path) (rows : Int)
    (differ :
      (mutantsIn ⟨frontend parser, table, .everyLine⟩ file (head ++ middle' ++ tail) tree' 0
          first.length).length ≠
        (mutantsIn ⟨frontend parser, table, .everyLine⟩ file (head ++ middle ++ tail) tree 0
          first.length).length ∨
      (mutantsIn ⟨frontend parser, table, .everyLine⟩ file (head ++ middle' ++ tail) tree'
          (first.length + second'.length)
          (first.length + second'.length + third.length)).length ≠
        (mutantsIn ⟨frontend parser, table, .everyLine⟩ file (head ++ middle ++ tail) tree
          (first.length + second.length)
          (first.length + second.length + third.length)).length) :
    ∃ inFirst inSecond inThird inFirst' inSecond' inThird',
      InBlocks ⟨frontend parser, table, .everyLine⟩ file (head ++ middle ++ tail) tree
        first second third inFirst inSecond inThird ∧
      InBlocks ⟨frontend parser, table, .everyLine⟩ file (head ++ middle' ++ tail) tree'
        first second' third inFirst' inSecond' inThird' ∧
      ¬ NamesKept rows inFirst inThird inFirst' inThird' := by
  obtain ⟨inFirst, inSecond, inThird, oldMutants⟩ := old.inBlocks table file
  obtain ⟨inFirst', inSecond', inThird', newMutants⟩ := new.inBlocks table file
  refine ⟨_, _, _, _, _, _, oldMutants, newMutants, fun kept => ?_⟩
  obtain ⟨sameFirst, sameThird⟩ := kept.length
  rw [oldMutants.inFirst, newMutants.inFirst] at sameFirst
  rw [oldMutants.inThird, newMutants.inThird] at sameThird
  exact differ.elim (· sameFirst) (· sameThird)

/-- The parse tree of a statement `_0` that starts at a byte. -/
def underscoreAt (start : Nat) : ParseTree :=
  let node (kind : String) (children : List ParseTree) : ParseTree :=
    { kind, named := true, isError := false, isMissing := false, hasError := false
      startByte := start, endByte := start + 2, children }
  node "expression_statement" [node "identifier" []]

/-- Parse trees of the statement `_0` on the first row and on the second one. -/
def underscores (source : String) : Option ParseTree :=
  if source = "_0\n" then some (.file [underscoreAt 0]) else some (.file [underscoreAt 1])

/-- Tables of which the first one has a rule that looks at the row, the second one a rule that looks
at the text in front of the statement, and the third one a rule that takes away what is in front of
the first token. -/
def farSighted : List RuleTable := [
  RuleTable.empty.insert "name" (.value fun _ context => some ("_" ++ toString context.row)),
  RuleTable.empty.insert "name" (.value fun _ context =>
    some ("_" ++ toString (feeds context.spot.root.code))),
  RuleTable.empty.insert "expression_statement" (.children fun _ _ =>
    some [.leaf "name" "" "_0" ⟨0, 0⟩])]

/-- The parse tree of a backslash in front of a line feed, which is one token. -/
def continuation : ParseTree :=
  { kind := "line_continuation", named := true, isError := false, isMissing := false
    hasError := false, startByte := 0, endByte := 2, children := [] }

/-- The parse tree of ` not c`. -/
def negation : ParseTree :=
  let node (kind : String) (first last : Nat) (children : List ParseTree) : ParseTree :=
    { kind, named := kind != "not", isError := false, isMissing := false, hasError := false
      startByte := first, endByte := last, children }
  node "expression_statement" 1 6 [
    node "not_operator" 1 6 [node "not" 1 4 [], node "identifier" 5 6 []]]

/-- Parse trees of such a backslash with a negation on the next row, and with an empty row. -/
def continuations (source : String) : Option ParseTree :=
  if source = "\\\n\n" then some (.file [continuation])
  else some (.file [continuation, negation.shifted 2])

/-- A table whose rule puts negations behind such a backslash. -/
def negating : RuleTable :=
  RuleTable.empty.insert "line_continuation" (.value fun value _ => some (value ++ " not not"))

theorem negating_isLocal : negating.IsLocal := by
  intro kind rule member
  obtain none | same := RuleTable.mem_rulesFor_insert member
  · contradiction
  · obtain ⟨-, rfl⟩ := Prod.mk.inj same
    exact Rule.isLocal_value fun _ _ _ _ => rfl

/-- An edit elsewhere changes the names where a rule looks further than its node or takes away what is
in front of the node, and where a token reaches the line feed that ends the first block. -/
theorem edits_change_names :
    (ThreeBlocks underscores "" "" "_0\n" [] [] [underscoreAt 0] (.file [underscoreAt 0]) ∧
      ThreeBlocks underscores "" "\n" "_0\n" [] [] [underscoreAt 0] (.file [underscoreAt 1]) ∧
      ∀ table ∈ farSighted, ∃ inFirst inSecond inThird inFirst' inSecond' inThird',
        InBlocks ⟨frontend underscores, table, .everyLine⟩ ⟨"t.py"⟩ ("" ++ "" ++ "_0\n")
          (.file [underscoreAt 0]) [] [] [underscoreAt 0] inFirst inSecond inThird ∧
        InBlocks ⟨frontend underscores, table, .everyLine⟩ ⟨"t.py"⟩ ("" ++ "\n" ++ "_0\n")
          (.file [underscoreAt 1]) [] [] [underscoreAt 0] inFirst' inSecond' inThird' ∧
        ¬ NamesKept 1 inFirst inThird inFirst' inThird') ∧
    (negating.IsLocal ∧
      ThreeBlocks continuations "\\\n" "\n" "" [continuation] [] [] (.file [continuation]) ∧
      ThreeBlocks continuations "\\\n" " not c\n" "" [continuation] [negation] []
        (.file [continuation, negation.shifted 2]) ∧
      ∃ inFirst inSecond inThird inFirst' inSecond' inThird',
        InBlocks ⟨frontend continuations, negating, .everyLine⟩ ⟨"t.py"⟩ ("\\\n" ++ "\n" ++ "")
          (.file [continuation]) [continuation] [] [] inFirst inSecond inThird ∧
        InBlocks ⟨frontend continuations, negating, .everyLine⟩ ⟨"t.py"⟩
          ("\\\n" ++ " not c\n" ++ "") (.file [continuation, negation.shifted 2]) [continuation]
          [negation] [] inFirst' inSecond' inThird' ∧
        ¬ NamesKept 0 inFirst inThird inFirst' inThird') := by
  have first : ThreeBlocks underscores "" "" "_0\n" [] [] [underscoreAt 0]
      (.file [underscoreAt 0]) := ⟨rfl, rfl, rfl, by decide, by decide, by decide, by decide⟩
  have second : ThreeBlocks underscores "" "\n" "_0\n" [] [] [underscoreAt 0]
      (.file [underscoreAt 1]) := ⟨rfl, rfl, rfl, by decide, by decide, by decide, by decide⟩
  have empty : ThreeBlocks continuations "\\\n" "\n" "" [continuation] [] []
      (.file [continuation]) := ⟨rfl, rfl, rfl, by decide, by decide, by decide, by decide⟩
  have negated : ThreeBlocks continuations "\\\n" " not c\n" "" [continuation] [negation] []
      (.file [continuation, negation.shifted 2]) :=
    ⟨rfl, rfl, rfl, by decide, by decide, by decide, by decide⟩
  refine ⟨⟨first, second, ?_⟩, negating_isLocal, empty, negated,
    empty.exists_lost negated negating ⟨"t.py"⟩ 0 (by decide +kernel)⟩
  simp only [farSighted, List.forall_mem_cons]
  exact ⟨first.exists_lost second _ ⟨"t.py"⟩ 1 (by decide +kernel),
    first.exists_lost second _ ⟨"t.py"⟩ 1 (by decide +kernel),
    first.exists_lost second _ ⟨"t.py"⟩ 1 (by decide +kernel), by simp⟩

end Python

end MutationTesting
