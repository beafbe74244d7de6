import MutationTesting.Proofs.Text.Rows
import MutationTesting.Proofs.Walk.Numbered
import MutationTesting.Python.Source
/-! Where the nodes of a tree start. The tokens and the groups of arrows that a parse tree is made
into start where its nodes do, so they do so in the same order, and always on a row of the
source. -/
namespace MutationTesting

/-- Positions by rows and, on one row, by columns. -/
instance : LE Position :=
  ⟨fun a b => a.row < b.row ∨ a.row = b.row ∧ a.column ≤ b.column⟩

instance (a b : Position) : Decidable (a ≤ b) :=
  inferInstanceAs (Decidable (a.row < b.row ∨ a.row = b.row ∧ a.column ≤ b.column))

theorem Position.row_le {a b : Position} (ordered : a ≤ b) : a.row ≤ b.row := by
  obtain less | ⟨same, -⟩ := ordered
  · exact Nat.le_of_lt less
  · exact Nat.le_of_eq same

theorem Position.le_trans {a b c : Position} (first : a ≤ b) (second : b ≤ c) : a ≤ c := by
  obtain less | ⟨same, le⟩ := first
  · exact .inl (Nat.lt_of_lt_of_le less (row_le second))
  · obtain less | ⟨same', le'⟩ := second
    · exact .inl (same ▸ less)
    · exact .inr ⟨same.trans same', Nat.le_trans le le'⟩

namespace Python

theorem row_positionFrom_le (position : Position) (bytes : Nat) (cs : List Char) :
    (positionFrom position bytes cs).row ≤ position.row + cs.count '\n' := by
  fun_induction positionFrom position bytes cs with
  | case1 => exact Nat.le_add_right _ _
  | case2 => exact Nat.le_add_right _ _
  | case3 position bytes c rest fits ih =>
    refine Nat.le_trans ih ?_
    by_cases feed : c = '\n'
    · subst feed
      rw [if_pos rfl, List.count_cons_self, Nat.add_right_comm]
      exact Nat.le_refl _
    · simp only [if_neg feed, List.count_cons_of_ne feed]
      exact Nat.le_refl _
  | case4 => exact Nat.le_add_right _ _

theorem row_positionOf_lt (source : String) (tree : ParseTree) :
    (positionOf source.toList tree).row < (Text.rows source).length := by
  have bound := row_positionFrom_le ⟨0, 0⟩ tree.startByte source.toList
  rw [Nat.zero_add] at bound
  rw [Text.length_rows, positionOf]
  exact Nat.lt_succ_of_le bound

/-- The nodes of a parse tree, parents before children, start at positions that never decrease. -/
def ParseTree.InOrder (source : List Char) (tree : ParseTree) : Prop :=
  tree.preorder.Pairwise fun a b => positionOf source a ≤ positionOf source b

instance (source : List Char) (tree : ParseTree) : Decidable (tree.InOrder source) :=
  inferInstanceAs (Decidable (tree.preorder.Pairwise _))

/-- Rows that are among given ones and do not decrease if those do not. -/
structure Follows (rows given : List Nat) : Prop where
  subset : rows ⊆ given
  sorted : given.Pairwise (· ≤ ·) → rows.Pairwise (· ≤ ·)

namespace Follows

variable {rows later given givenLater : List Nat} {row : Nat}

theorem of_sublist (sublist : rows.Sublist given) : Follows rows given :=
  ⟨sublist.subset, fun sorted => sorted.sublist sublist⟩

theorem append (here : Follows rows given) (further : Follows later givenLater) :
    Follows (rows ++ later) (given ++ givenLater) where
  subset := List.append_subset.mpr
    ⟨List.subset_append_of_subset_left _ here.subset,
      List.subset_append_of_subset_right _ further.subset⟩
  sorted := by
    intro sorted
    obtain ⟨before, behind, across⟩ := List.pairwise_append.mp sorted
    exact List.pairwise_append.mpr ⟨here.sorted before, further.sorted behind,
      fun a isHere b isFurther => across a (here.subset isHere) b (further.subset isFurther)⟩

theorem repeat_head (follows : Follows rows (row :: given)) : Follows (row :: rows) (row :: given) where
  subset := List.cons_subset.mpr ⟨List.mem_cons_self, follows.subset⟩
  sorted := by
    intro sorted
    refine List.pairwise_cons.mpr ⟨fun other member => ?_, follows.sorted sorted⟩
    obtain rfl | member := List.mem_cons.mp (follows.subset member)
    · exact Nat.le_refl _
    · exact (List.pairwise_cons.mp sorted).1 other member

end Follows

/-- The rows on which nodes of a parse tree start. -/
def rowsOf (source : List Char) (trees : List ParseTree) : List Nat :=
  trees.map fun tree => (positionOf source tree).row

theorem rowsOf_preorder (source : List Char) (tree : ParseTree) :
    rowsOf source tree.preorder =
      (positionOf source tree).row :: rowsOf source (ParseTree.preorderAll tree.children) := by
  rw [ParseTree.preorder_eq, rowsOf, List.map_cons]
  rfl

theorem rowsOf_append (source : List Char) (first later : List ParseTree) :
    rowsOf source (first ++ later) = rowsOf source first ++ rowsOf source later :=
  List.map_append

open Walk (startRows startRowsOf)

mutual
theorem follows_nodeOf (source : List Char) (offset : Nat) (tree : ParseTree) :
    Follows (startRows (nodeOf source offset tree).1) (rowsOf source tree.preorder) := by
  obtain ⟨kind, named, isError, isMissing, hasError, startByte, endByte, children⟩ := tree
  rw [rowsOf_preorder]
  unfold nodeOf
  dsimp only
  split
  · exact .of_sublist (List.Sublist.cons_cons _ (List.nil_sublist _))
  · have inner := follows_nodesOf source offset children
    exact (Follows.of_sublist (List.Sublist.refl [_])).append inner

theorem follows_nodesOf (source : List Char) (offset : Nat) (trees : List ParseTree) :
    Follows (startRowsOf (nodesOf source offset trees).1)
      (rowsOf source (ParseTree.preorderAll trees)) := by
  match trees with
  | [] => exact .of_sublist (List.nil_sublist _)
  | [last] =>
    have node := follows_nodeOf source offset last
    have whole : ParseTree.preorderAll [last] = last.preorder := by
      rw [ParseTree.preorderAll, ParseTree.preorderAll, List.append_nil]
    rw [whole]
    unfold nodesOf
    dsimp only
    split
    · rw [rowsOf_preorder] at node ⊢
      simpa [startRowsOf, startRows] using node.repeat_head
    · simpa [startRowsOf] using node
  | first :: second :: rest =>
    have node := follows_nodeOf source offset first
    rw [ParseTree.preorderAll, rowsOf_append]
    unfold nodesOf
    dsimp only
    split
    · have result := follows_nodeOf source (nodeOf source offset first).2 second
      have nodes := follows_nodesOf source
        (nodeOf source (nodeOf source offset first).2 second).2 rest
      rw [rowsOf_preorder] at node
      have group := node.repeat_head
      rw [← rowsOf_preorder] at group
      rw [ParseTree.preorderAll, rowsOf_append]
      simpa [startRowsOf, startRows] using group.append (result.append nodes)
    · exact node.append (follows_nodesOf source (nodeOf source offset first).2 (second :: rest))
end

/-- The nodes of a source start on rows that never decrease if those of its parse tree do so. -/
theorem startRows_sorted {source : List Char} {tree : ParseTree} (ordered : tree.InOrder source) :
    (startRowsOf (sourceTree source tree).root.children).Pairwise (· ≤ ·) := by
  refine (follows_nodesOf source 0 tree.children).sorted ?_
  rw [ParseTree.InOrder, ParseTree.preorder_eq] at ordered
  exact List.pairwise_map.mpr
    ((List.pairwise_cons.mp ordered).2.imp fun position => Position.row_le position)

theorem startRows_lt {source : String} {tree : ParseTree} {row : Nat}
    (starts : row ∈ startRowsOf (sourceTree source.toList tree).root.children) :
    row < (Text.rows source).length := by
  obtain ⟨node, -, rfl⟩ := List.mem_map.mp
    ((follows_nodesOf source.toList 0 tree.children).subset starts)
  exact row_positionOf_lt source node

end Python

end MutationTesting
