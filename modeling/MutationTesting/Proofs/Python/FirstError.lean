import MutationTesting.Proofs.Python.InOrder
import MutationTesting.Python.Source
/-! Where a source is wrong. The marks of a parse tree lead straight to its first error, and what is
said of a source that cannot be parsed is on which row this error starts and what the row reads. -/
namespace MutationTesting.Python

namespace ParseTree

/-- The marks of a tree say of each node whether it or a node below it is an error. -/
def Marked (tree : ParseTree) : Prop :=
  ∀ node ∈ tree.preorder, node.hasError = node.preorder.any isFaulty

instance (tree : ParseTree) : Decidable tree.Marked :=
  inferInstanceAs (Decidable (∀ node ∈ tree.preorder, _))

/-- Of a node without a mark the whole subtree is passed over, and no error is in it. -/
theorem find?_preorder_of_unmarked {tree : ParseTree}
    (marked : tree.hasError = tree.preorder.any isFaulty)
    (unmarked : ¬(tree.hasError || tree.isMissing) = true) :
    tree.preorder.find? isFaulty = none := by
  simp only [Bool.or_eq_true, not_or, Bool.not_eq_true] at unmarked
  rw [List.find?_eq_none, ← List.any_eq_false, ← marked, unmarked.1]

theorem firstError?_cons (tree : ParseTree) :
    tree.firstError? = if tree.isFaulty then some tree else firstErrorOf? tree.children := by
  cases tree
  rfl

mutual
/-- The error that is looked for where the marks lead is the first one of all nodes. -/
theorem firstError?_eq (tree : ParseTree)
    (marked : ∀ node ∈ preorderAll tree.children, node.hasError = node.preorder.any isFaulty) :
    tree.firstError? = tree.preorder.find? isFaulty := by
  rw [firstError?_cons, preorder_eq, List.find?_cons]
  cases tree.isFaulty with
  | true => rfl
  | false =>
    obtain ⟨kind, named, isError, isMissing, hasError, startByte, endByte, children⟩ := tree
    exact firstErrorOf?_eq children marked

theorem firstErrorOf?_eq (trees : List ParseTree)
    (marked : ∀ node ∈ preorderAll trees, node.hasError = node.preorder.any isFaulty) :
    firstErrorOf? trees = (preorderAll trees).find? isFaulty := by
  cases trees with
  | nil => rfl
  | cons child rest =>
    rw [preorderAll] at marked ⊢
    have later := firstErrorOf?_eq rest fun node member =>
      marked node (List.mem_append_right _ member)
    rw [firstErrorOf?, later, List.find?_append]
    split
    · rw [firstError?_eq child fun node member => marked node (List.mem_append_left _ ?_)]
      rw [preorder_eq]
      exact List.mem_cons_of_mem _ member
    · rename_i unmarked
      have none := find?_preorder_of_unmarked
        (marked child (List.mem_append_left _ (mem_preorder_self child))) unmarked
      rw [none, Option.none_or]
end

/-- Where the tree is marked there is an error, and the marks lead to the first one. -/
theorem Marked.firstError? {tree : ParseTree} (marked : tree.Marked)
    (isMarked : tree.hasError = true) :
    ∃ faulty, tree.preorder.find? isFaulty = some faulty ∧ tree.firstError? = some faulty := by
  have isSome : (tree.preorder.find? isFaulty).isSome = true := by
    rw [List.find?_isSome, ← List.any_eq_true, ← marked tree (mem_preorder_self tree), isMarked]
  obtain ⟨faulty, found⟩ := Option.isSome_iff_exists.mp isSome
  refine ⟨faulty, found, ?_⟩
  rw [firstError?_eq tree fun node member => marked node ?_, found]
  rw [preorder_eq]
  exact List.mem_cons_of_mem _ member

end ParseTree

/-- A source is refused if and only if its parse tree is marked, and then the error names the file,
the row on which the first error of the whole tree starts, and the text of this row. -/
theorem parse_names_first_error (trees : String → Option ParseTree) (file : Path) {source : String}
    {tree : ParseTree} (parsed : trees source = some tree) (marked : tree.Marked) :
    ((∃ error, (frontend trees).parse file source = .error error) ↔ tree.hasError = true) ∧
      (tree.hasError = true → ∃ faulty text,
        tree.preorder.find? ParseTree.isFaulty = some faulty ∧
        (Text.rows source)[(positionOf source.toList faulty).row]? = some text ∧
        (frontend trees).parse file source =
          .error (.badSyntax file ((positionOf source.toList faulty).row + 1) text)) := by
  have refused (isMarked : tree.hasError = true) : ∃ faulty text,
      tree.preorder.find? ParseTree.isFaulty = some faulty ∧
      (Text.rows source)[(positionOf source.toList faulty).row]? = some text ∧
      (frontend trees).parse file source =
        .error (.badSyntax file ((positionOf source.toList faulty).row + 1) text) := by
    obtain ⟨faulty, isFirst, found⟩ := marked.firstError? isMarked
    have bound := row_positionOf_lt source faulty
    refine ⟨faulty, (Text.rows source)[(positionOf source.toList faulty).row], isFirst,
      List.getElem?_eq_getElem bound, ?_⟩
    simp only [frontend, parse, parsed, isMarked, found, syntaxError, if_true]
    rw [List.getElem_eq_getD ""]
  refine ⟨⟨?_, fun isMarked => ?_⟩, refused⟩
  · rintro ⟨error, isError⟩
    cases isMarked : tree.hasError with
    | true => rfl
    | false =>
      simp only [frontend, parse, parsed, isMarked, Bool.false_eq_true, if_false] at isError
      contradiction
  · obtain ⟨faulty, text, -, -, isError⟩ := refused isMarked
    exact ⟨_, isError⟩

/-- A source with a parenthesis that is never closed, and a row further down that is wrong, too. -/
def brokenText : String :=
  "x = 1\ny = (2\nif\n"

/-- Its parse tree, in which the closing parenthesis is missing. -/
def brokenTree : ParseTree :=
  let node (kind : String) (first last : Nat) (hasError : Bool) (children : List ParseTree) :
      ParseTree :=
    { kind, named := !(["=", "(", ")", "if"].contains kind), isError := kind == "ERROR"
      isMissing := kind == ")", hasError, startByte := first, endByte := last, children }
  node "module" 0 16 true [
    node "expression_statement" 0 5 false [
      node "assignment" 0 5 false [
        node "identifier" 0 1 false [], node "=" 2 3 false [], node "integer" 4 5 false []]],
    node "expression_statement" 6 12 true [
      node "assignment" 6 12 true [
        node "identifier" 6 7 false [], node "=" 8 9 false [],
        node "parenthesized_expression" 10 12 true [
          node "(" 10 11 false [], node "integer" 11 12 false [], node ")" 12 12 true []]]],
    node "ERROR" 13 15 true [node "if" 13 15 false []]]

theorem broken_names_first_error :
    brokenTree.Marked ∧ brokenTree.hasError = true ∧
      (frontend fun _ => some brokenTree).parse ⟨"t.py"⟩ brokenText =
        .error (.badSyntax ⟨"t.py"⟩ 2 "y = (2") := by
  have marked : brokenTree.Marked := by decide
  obtain ⟨-, refused⟩ :=
    @parse_names_first_error (fun _ => some brokenTree) ⟨"t.py"⟩ brokenText brokenTree rfl marked
  obtain ⟨faulty, text, isFirst, isText, isError⟩ := refused rfl
  have isMissing : brokenTree.preorder.find? ParseTree.isFaulty = some ⟨")", false, false, true, true,
      12, 12, []⟩ := rfl
  obtain rfl := Option.some.inj (isMissing.symm.trans isFirst)
  obtain rfl : "y = (2" = text := Option.some.inj isText
  exact ⟨marked, rfl, isError⟩

end MutationTesting.Python
