import MutationTesting.Walk.Grammar
/-! Rows and numbers along the walk. The register is on the row of the node that was entered last,
and goes back to no smaller number unless it moves to another row. So where the entered nodes start
on rows that never decrease, the candidates are numbered upwards. -/
namespace MutationTesting.Walk

namespace Register

/-- Registers by rows and, on one row, by numbers. -/
instance : LE Register :=
  ⟨fun a b => a.row < b.row ∨ a.row = b.row ∧ a.index ≤ b.index⟩

instance : LT Register :=
  ⟨fun a b => a.row < b.row ∨ a.row = b.row ∧ a.index < b.index⟩

variable {a b c : Register}

theorem le_def : a ≤ b ↔ a.row < b.row ∨ a.row = b.row ∧ a.index ≤ b.index := Iff.rfl

theorem lt_def : a < b ↔ a.row < b.row ∨ a.row = b.row ∧ a.index < b.index := Iff.rfl

theorem le_refl (a : Register) : a ≤ a :=
  .inr ⟨rfl, Nat.le_refl _⟩

theorem le_trans (first : a ≤ b) (second : b ≤ c) : a ≤ c := by
  simp only [le_def] at *
  omega

theorem lt_of_lt_of_le (first : a < b) (second : b ≤ c) : a < c := by
  simp only [le_def, lt_def] at *
  omega

theorem lt_next (a : Register) : a < a.next :=
  .inr ⟨rfl, Nat.lt_succ_self _⟩

theorem le_of_lt (less : a < b) : a ≤ b := by
  simp only [le_def, lt_def] at *
  omega

@[simp] theorem row_moveTo (a : Register) (row : Nat) : (a.moveTo row).row = row := by
  unfold moveTo
  split <;> simp_all

theorem le_moveTo {row : Nat} (ahead : a.row ≤ row) : a ≤ a.moveTo row := by
  unfold moveTo
  split
  · exact le_refl a
  · exact .inl (show a.row < row by omega)

end Register

/-- Candidates are numbered upwards from one register on and below another one. -/
structure Numbered (first : Register) (found : List Candidate) (last : Register) : Prop where
  le : first ≤ last
  within : ∀ candidate ∈ found, first ≤ candidate.register ∧ candidate.register < last
  increasing : found.Pairwise fun a b => a.register < b.register

namespace Numbered

variable {first middle last : Register} {found later : List Candidate}

theorem nil (register : Register) : Numbered register [] register :=
  ⟨Register.le_refl _, by simp, .nil⟩

theorem append (here : Numbered first found middle) (further : Numbered middle later last) :
    Numbered first (found ++ later) last where
  le := Register.le_trans here.le further.le
  within := by
    intro candidate member
    obtain member | member := List.mem_append.mp member
    · obtain ⟨ahead, below⟩ := here.within _ member
      exact ⟨ahead, Register.lt_of_lt_of_le below further.le⟩
    · obtain ⟨ahead, below⟩ := further.within _ member
      exact ⟨Register.le_trans here.le ahead, below⟩
  increasing := List.pairwise_append.mpr ⟨here.increasing, further.increasing,
    fun _ before _ behind =>
      Register.lt_of_lt_of_le (here.within _ before).2 (further.within _ behind).1⟩

theorem from_le (found : Numbered middle later last) (ahead : first ≤ middle) :
    Numbered first later last :=
  (⟨ahead, by simp, .nil⟩ : Numbered first [] middle).append found

theorem single (address : Address) (node changed : Node) (register : Register) :
    Numbered register [⟨address, node, changed, register⟩] register.next where
  le := Register.le_of_lt register.lt_next
  within := by simpa using ⟨register.le_refl, register.lt_next⟩
  increasing := List.pairwise_singleton _ _

end Numbered

mutual
/-- The rows of the nodes that the walk enters in a subtree, in the order in which it enters
them. -/
def visitedRows (grammar : Grammar) (root : Node) (address : Address) : Node → List Nat
  | ⟨_, _, start, children⟩ =>
    if grammar.isPassThrough ⟨root, address⟩ then []
    else start.row :: visitedRowsFrom grammar root address 0 children

/-- The rows of the nodes that the walk enters in the children of a node from a place on. -/
def visitedRowsFrom (grammar : Grammar) (root : Node) (address : Address) (place : Nat) :
    List Node → List Nat
  | [] => []
  | child :: rest =>
    if grammar.isReturnArrow ⟨root, address ++ [place]⟩ then []
    else
      visitedRows grammar root (address ++ [place]) child ++
        visitedRowsFrom grammar root address (place + 1) rest
end

/-- What a part of the walk finds that enters nodes on the given rows: behind it the register is on
the last of them, and its candidates are on them or on the row where it began. -/
structure Finds (rows : List Nat) (register : Register) (found : List Candidate × Register) :
    Prop where
  row : found.2.row = rows.getLastD register.row
  within : ∀ candidate ∈ found.1, candidate.register.row ∈ register.row :: rows
  numbered : (register.row :: rows).Pairwise (· ≤ ·) → Numbered register found.1 found.2

namespace Finds

variable {rows laterRows : List Nat} {register : Register}

theorem nothing (register : Register) : Finds [] register ([], register) :=
  ⟨rfl, by simp, fun _ => .nil register⟩

theorem getLastD_mem (rows : List Nat) (row : Nat) : rows.getLastD row ∈ row :: rows := by
  induction rows generalizing row with
  | nil => simp
  | cons first rest ih =>
    rw [List.getLastD_cons]
    exact List.mem_cons_of_mem _ (ih first)

theorem getLastD_append (rows laterRows : List Nat) (row : Nat) :
    (rows ++ laterRows).getLastD row = laterRows.getLastD (rows.getLastD row) := by
  induction rows generalizing row with
  | nil => rfl
  | cons first rest ih =>
    rw [List.cons_append, List.getLastD_cons, List.getLastD_cons]
    exact ih first

theorem append {found later : List Candidate} {middle last : Register}
    (here : Finds rows register (found, middle)) (further : Finds laterRows middle (later, last)) :
    Finds (rows ++ laterRows) register (found ++ later, last) where
  row := by
    rw [getLastD_append, ← here.row]
    exact further.row
  within := by
    intro candidate member
    obtain member | member := List.mem_append.mp member
    · obtain begun | entered := List.mem_cons.mp (here.within _ member)
      · exact List.mem_cons.mpr (.inl begun)
      · exact List.mem_cons_of_mem _ (List.mem_append_left _ entered)
    · obtain begun | entered := List.mem_cons.mp (further.within _ member)
      · rw [begun, here.row]
        obtain same | entered := List.mem_cons.mp (getLastD_mem rows register.row)
        · exact List.mem_cons.mpr (.inl same)
        · exact List.mem_cons_of_mem _ (List.mem_append_left _ entered)
      · exact List.mem_cons_of_mem _ (List.mem_append_right _ entered)
  numbered := by
    intro sorted
    rw [← List.cons_append, List.pairwise_append] at sorted
    obtain ⟨before, behind, across⟩ := sorted
    refine (here.numbered before).append (further.numbered (List.pairwise_cons.mpr ⟨?_, behind⟩))
    rw [here.row]
    exact across _ (getLastD_mem rows register.row)

theorem enter {row : Nat} {found : List Candidate × Register}
    (inner : Finds rows (register.moveTo row) found) : Finds (row :: rows) register found where
  row := by rw [List.getLastD_cons, inner.row, Register.row_moveTo]
  within := fun candidate member => List.mem_cons_of_mem _ (by simpa using inner.within _ member)
  numbered := by
    intro sorted
    obtain ⟨ahead, sorted⟩ := List.pairwise_cons.mp sorted
    exact (inner.numbered (by simpa using sorted)).from_le
      (Register.le_moveTo (ahead row List.mem_cons_self))

theorem own (table : RuleTable) (root : Node) (address : Address) (node : Node)
    (rules : List Rule) (register : Register) :
    Finds [] register (ownCandidates table root address node register rules) := by
  induction rules generalizing register with
  | nil => exact nothing register
  | cons rule rest ih =>
    unfold ownCandidates
    split
    · exact ih register
    · rename_i proposal _
      have single : Finds [] register
          ([⟨address, node, proposal.applyTo node, register⟩], register.next) :=
        ⟨rfl, by simp, fun _ => .single address node _ register⟩
      exact single.append (ih register.next)

end Finds

mutual
theorem finds_visit (grammar : Grammar) (table : RuleTable) (root : Node) (address : Address)
    (register : Register) (node : Node) :
    Finds (visitedRows grammar root address node) register
      (visit grammar table root address register node) := by
  obtain ⟨kind, token?, start, children⟩ := node
  unfold visit visitedRows
  split
  · exact .nothing register
  · have inner := finds_visitFrom grammar table root address (register.moveTo start.row) 0 children
    have own := Finds.own table root address ⟨kind, token?, start, children⟩
      (table.rulesFor kind)
      (visitFrom grammar table root address (register.moveTo start.row) 0 children).2
    have both := inner.append own
    rw [List.append_nil] at both
    exact both.enter

theorem finds_visitFrom (grammar : Grammar) (table : RuleTable) (root : Node) (address : Address)
    (register : Register) (place : Nat) (children : List Node) :
    Finds (visitedRowsFrom grammar root address place children) register
      (visitFrom grammar table root address register place children) := by
  cases children with
  | nil => exact .nothing register
  | cons child rest =>
    unfold visitFrom visitedRowsFrom
    split
    · exact .nothing register
    · exact (finds_visit grammar table root (address ++ [place]) register child).append
        (finds_visitFrom grammar table root address _ (place + 1) rest)
end

mutual
/-- The rows on which the nodes of a subtree start, parents before children. -/
def startRows : Node → List Nat
  | ⟨_, _, start, children⟩ => start.row :: startRowsOf children

/-- The rows on which the nodes of several subtrees start. -/
def startRowsOf : List Node → List Nat
  | [] => []
  | node :: rest => startRows node ++ startRowsOf rest
end

mutual
theorem visitedRows_sublist (grammar : Grammar) (root : Node) (address : Address) (node : Node) :
    (visitedRows grammar root address node).Sublist (startRows node) := by
  obtain ⟨kind, token?, start, children⟩ := node
  unfold visitedRows startRows
  split
  · exact List.nil_sublist _
  · exact (visitedRowsFrom_sublist grammar root address 0 children).cons_cons _

theorem visitedRowsFrom_sublist (grammar : Grammar) (root : Node) (address : Address)
    (place : Nat) (children : List Node) :
    (visitedRowsFrom grammar root address place children).Sublist (startRowsOf children) := by
  cases children with
  | nil => exact List.nil_sublist _
  | cons child rest =>
    unfold visitedRowsFrom startRowsOf
    split
    · exact List.nil_sublist _
    · exact (visitedRows_sublist grammar root (address ++ [place]) child).append
        (visitedRowsFrom_sublist grammar root address (place + 1) rest)
end

/-- The candidates of a tree whose nodes start on rows that never decrease are numbered upwards. -/
theorem candidates_increasing {grammar : Grammar} {table : RuleTable} {root : Node}
    (sorted : (startRowsOf root.children).Pairwise (· ≤ ·)) :
    (candidates grammar table root).Pairwise fun a b => a.register < b.register := by
  have found := finds_visitFrom grammar table root [] .start 0 root.children
  have entered := sorted.sublist (visitedRowsFrom_sublist grammar root [] 0 root.children)
  refine (found.numbered (List.pairwise_cons.mpr ⟨?_, entered⟩)).increasing
  exact fun row _ => Nat.zero_le row

theorem row_of_mem_candidates {grammar : Grammar} {table : RuleTable} {root : Node}
    {candidate : Candidate} (member : candidate ∈ candidates grammar table root) :
    candidate.register.row ∈ 0 :: startRowsOf root.children := by
  have found := finds_visitFrom grammar table root [] .start 0 root.children
  have entered := (visitedRowsFrom_sublist grammar root [] 0 root.children).cons_cons 0
  exact entered.subset (found.within candidate member)

end MutationTesting.Walk

/-! Where a candidate comes from: a rule of the kind of its node, which the walk has come to after
the nodes below it. So a candidate is on the row of the last node that the walk has entered there,
whatever part of its node it changes. -/
namespace MutationTesting.Walk

/-- A candidate is what a rule proposes for a node of the tree, on the row of the node that was
entered last in its subtree. -/
structure Candidate.ComesFrom (grammar : Grammar) (table : RuleTable) (root : Node)
    (candidate : Candidate) : Prop where
  here : root.get? candidate.address = some candidate.node
  proposed : ∃ rule ∈ table.rulesFor candidate.node.kind, ∃ proposal,
    rule.propose? (contextOf table candidate.register candidate.address.path
      ⟨root, candidate.address⟩) = some proposal ∧
    candidate.changed = proposal.applyTo candidate.node
  row : (visitedRows grammar root candidate.address candidate.node).getLast? =
    some candidate.register.row

variable {grammar : Grammar} {table : RuleTable} {root : Node}

theorem mem_ownCandidates {address : Address} {node : Node} {register : Register}
    {rules : List Rule} {candidate : Candidate}
    (member : candidate ∈ (ownCandidates table root address node register rules).1) :
    candidate.address = address ∧ candidate.node = node ∧
      candidate.register.row = register.row ∧ ∃ rule ∈ rules, ∃ proposal,
        rule.propose? (contextOf table candidate.register address.path ⟨root, address⟩) =
          some proposal ∧ candidate.changed = proposal.applyTo node := by
  induction rules generalizing register with
  | nil => contradiction
  | cons rule rest ih =>
    unfold ownCandidates at member
    split at member
    · obtain ⟨place, same, row, other, isRule, proposed⟩ := ih member
      exact ⟨place, same, row, other, List.mem_cons_of_mem _ isRule, proposed⟩
    · rename_i proposal proposed
      obtain rfl | member := List.mem_cons.mp member
      · exact ⟨rfl, rfl, rfl, rule, List.mem_cons_self, proposal, proposed, rfl⟩
      · obtain ⟨place, same, row, other, isRule, proposed⟩ := ih member
        exact ⟨place, same, row, other, List.mem_cons_of_mem _ isRule, proposed⟩

mutual
theorem comesFrom_visit (node : Node) (address : Address) (register : Register)
    (here : root.get? address = some node) :
    ∀ candidate ∈ (visit grammar table root address register node).1,
      candidate.ComesFrom grammar table root := by
  obtain ⟨kind, token?, start, children⟩ := node
  intro candidate member
  unfold visit at member
  split at member
  · contradiction
  · rename_i entered
    obtain member | member := List.mem_append.mp member
    · exact comesFrom_visitFrom children address 0 _ here rfl candidate member
    · obtain ⟨rfl, same, row, rule, isRule, proposal, proposed, changed⟩ :=
        mem_ownCandidates member
      have inner := (finds_visitFrom grammar table root candidate.address
        (register.moveTo start.row) 0 children).row
      refine ⟨same ▸ here, ⟨rule, same ▸ isRule, proposal, proposed, same ▸ changed⟩, ?_⟩
      rw [row, inner, same, visitedRows, if_neg entered, Register.row_moveTo,
        List.getLastD_eq_getLast?, List.getLast?_cons]

/-- The candidates of the children of a node from a place on come from the nodes below them. -/
theorem comesFrom_visitFrom (children : List Node) {node : Node} (address : Address)
    (place : Nat) (register : Register) (here : root.get? address = some node)
    (rest : node.children.drop place = children) :
    ∀ candidate ∈ (visitFrom grammar table root address register place children).1,
      candidate.ComesFrom grammar table root := by
  intro candidate member
  cases children with
  | nil => contradiction
  | cons child later =>
    have isChild : node.children[place]? = some child := by
      simpa using congrArg List.head? rest
    have there : root.get? (address ++ [place]) = some child := by
      simpa [Node.get?_concat, here] using isChild
    have further : node.children.drop (place + 1) = later := by
      rw [← List.tail_drop, rest, List.tail_cons]
    unfold visitFrom at member
    split at member
    · contradiction
    · obtain member | member := List.mem_append.mp member
      · exact comesFrom_visit child (address ++ [place]) register there candidate member
      · exact comesFrom_visitFrom later address (place + 1) _ here further candidate member
end

theorem comesFrom {candidate : Candidate} (member : candidate ∈ candidates grammar table root) :
    candidate.ComesFrom grammar table root :=
  comesFrom_visitFrom root.children [] 0 .start rfl rfl candidate member

end MutationTesting.Walk
