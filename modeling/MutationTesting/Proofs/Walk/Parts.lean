import MutationTesting.Proofs.Python.Names
import MutationTesting.Proofs.Walk.Inlay
import MutationTesting.Proofs.Walk.Numbered
/-! The walk over some top-level nodes after others. Its candidates come in the order of the nodes
that they are in, so the mutants of a tree are those of its first nodes and then those of the nodes
behind them. Where the texts around a part do not interfere with what is rendered, the mutants of the
part have the names that they have in it by itself, so many rows further down. -/
namespace MutationTesting.Walk

section

variable {grammar : Grammar} {table : RuleTable} {root node : Node} {address : Address}

/-- Where no arrow stops it, the walk goes on from some nodes to those behind them. -/
theorem visitFrom_append (noArrow : ∀ place, grammar.isReturnArrow ⟨root, address ++ [place]⟩ = false)
    (register : Register) (place : Nat) (first later : List Node) :
    visitFrom grammar table root address register place (first ++ later) =
      let before := visitFrom grammar table root address register place first
      let behind := visitFrom grammar table root address before.2 (place + first.length) later
      (before.1 ++ behind.1, behind.2) := by
  induction first generalizing place register with
  | nil => simp [visitFrom]
  | cons child rest ih =>
    have next : place + 1 + rest.length = place + (child :: rest).length := by
      rw [List.length_cons]
      omega
    rw [List.cons_append, visitFrom, visitFrom, noArrow place]
    simp only [Bool.false_eq_true, if_false, ih, next, List.append_assoc]

theorem mem_own_address {register : Register} {rules : List Rule} {candidate : Candidate}
    (member : candidate ∈ (ownCandidates table root address node register rules).1) :
    address <+: candidate.address :=
  (mem_ownCandidates member).1 ▸ List.prefix_refl _

mutual
theorem mem_visit_address (node : Node) (address : Address) (register : Register)
    {candidate : Candidate}
    (member : candidate ∈ (visit grammar table root address register node).1) :
    address <+: candidate.address := by
  obtain ⟨kind, token?, start, children⟩ := node
  unfold visit at member
  split at member
  · contradiction
  · obtain member | member := List.mem_append.mp member
    · obtain ⟨place, -, -, below⟩ := mem_visitFrom_address children address 0 _ member
      exact (List.prefix_append _ _).trans below
    · exact mem_own_address member

/-- The candidates of the children of a node from a place on are at addresses below theirs. -/
theorem mem_visitFrom_address (children : List Node) (address : Address) (place : Nat)
    (register : Register) {candidate : Candidate}
    (member : candidate ∈ (visitFrom grammar table root address register place children).1) :
    ∃ other, place ≤ other ∧ other < place + children.length ∧
      address ++ [other] <+: candidate.address := by
  cases children with
  | nil => contradiction
  | cons child later =>
    rw [List.length_cons]
    unfold visitFrom at member
    split at member
    · contradiction
    · obtain member | member := List.mem_append.mp member
      · exact ⟨place, Nat.le_refl _, by omega, mem_visit_address child _ _ member⟩
      · obtain ⟨other, first, last, below⟩ :=
          mem_visitFrom_address later address (place + 1) _ member
        exact ⟨other, by omega, by omega, below⟩
end

end

/-- Whether a candidate is in a top-level node from one place on and before another one. -/
def Candidate.isIn (first last : Nat) (candidate : Candidate) : Bool :=
  candidate.address.head?.any fun place => first ≤ place && place < last

/-- The mutants in the top-level nodes from one place on and before another one. -/
def mutantsIn (setting : Setting) (root : Node) (first last : Nat) : List Mutant :=
  ((candidates setting.grammar setting.table root).filter (Candidate.isIn first last)).filterMap
    (mutant? setting root)

section

variable {grammar : Grammar} {root : Node}

/-- A candidate in a top-level node is in the part of the tree that this node is in. -/
theorem Candidate.isIn_eq {candidate : Candidate} {place first last : Nat}
    (below : [place] <+: candidate.address) :
    candidate.isIn first last = (first ≤ place && place < last) := by
  obtain ⟨rest, address⟩ := below
  rw [isIn, ← address]
  rfl

theorem filter_visitFrom_inside {table : RuleTable} {register : Register} {children : List Node}
    {place first last : Nat} (ahead : first ≤ place) (before : place + children.length ≤ last) :
    (visitFrom grammar table root [] register place children).1.filter
        (Candidate.isIn first last) =
      (visitFrom grammar table root [] register place children).1 := by
  refine List.filter_eq_self.mpr fun candidate member => ?_
  obtain ⟨other, least, bound, below⟩ := mem_visitFrom_address children [] place register member
  rw [Candidate.isIn_eq below, Bool.and_eq_true, decide_eq_true_iff, decide_eq_true_iff]
  omega

theorem filter_visitFrom_outside {table : RuleTable} {register : Register} {children : List Node}
    {place first last : Nat} (outside : place + children.length ≤ first ∨ last ≤ place) :
    (visitFrom grammar table root [] register place children).1.filter
      (Candidate.isIn first last) = [] := by
  refine List.filter_eq_nil_iff.mpr fun candidate member => ?_
  obtain ⟨other, least, bound, below⟩ := mem_visitFrom_address children [] place register member
  rw [Candidate.isIn_eq below, Bool.and_eq_true, decide_eq_true_iff, decide_eq_true_iff]
  omega

variable {first middle later : List Node}

/-- The candidates in some top-level nodes are those that the walk finds there, from the register on
that the nodes before them leave behind. -/
theorem candidates_between (table : RuleTable)
    (noArrow : ∀ place, grammar.isReturnArrow ⟨root, [place]⟩ = false)
    (children : root.children = first ++ middle ++ later) :
    (candidates grammar table root).filter
        (Candidate.isIn first.length (first.length + middle.length)) =
      (visitFrom grammar table root [] (visitFrom grammar table root [] .start 0 first).2
        first.length middle).1 := by
  rw [candidates, children, List.append_assoc, visitFrom_append noArrow]
  dsimp only
  rw [visitFrom_append noArrow]
  simp only [List.filter_append, Nat.zero_add]
  rw [filter_visitFrom_outside (.inl (by omega)), filter_visitFrom_inside (by omega) (by omega),
    filter_visitFrom_outside (.inr (by omega)), List.nil_append, List.append_nil]

/-- The mutants of a tree are those in its first top-level nodes, in the next ones, and in the
last ones. -/
theorem mutants_eq_parts {setting : Setting}
    (noArrow : ∀ place, setting.grammar.isReturnArrow ⟨root, [place]⟩ = false)
    (children : root.children = first ++ middle ++ later) :
    mutants setting root =
      mutantsIn setting root 0 first.length ++
        mutantsIn setting root first.length (first.length + middle.length) ++
        mutantsIn setting root (first.length + middle.length)
          (first.length + middle.length + later.length) := by
  have alone : root.children = [] ++ first ++ (middle ++ later) := by
    rw [children, List.nil_append, List.append_assoc]
  have all : root.children = first ++ middle ++ later ++ [] := by rw [children, List.append_nil]
  have inFirst := candidates_between setting.table noArrow alone
  have inMiddle := candidates_between setting.table noArrow children
  have inLater := candidates_between setting.table noArrow all
  rw [List.length_nil, Nat.zero_add] at inFirst
  rw [List.length_append] at inLater
  rw [mutantsIn, mutantsIn, mutantsIn, inFirst, inMiddle, inLater, ← List.filterMap_append,
    ← List.filterMap_append, mutants, candidates, children, visitFrom_append noArrow,
    visitFrom_append noArrow]
  simp only [visitFrom, Nat.zero_add, List.length_append]

end

end MutationTesting.Walk

namespace MutationTesting

/-- The name so many rows further down. -/
def MutantId.down (rows : Nat) (id : MutantId) : MutantId :=
  { id with row := id.row + rows }

namespace Walk

/-- The settings for a tree by itself and for the whole in which it stands. The texts before and after
it stay as they are when a changed copy is rendered, and the rows that its nodes start on have the
same text in both. -/
structure Inlay.Reads (inlay : Inlay) (setting outer : Setting) (before after : String) :
    Prop where
  table : outer.table = setting.table
  grammar : outer.grammar = setting.grammar
  front : inlay.front = before
  back : inlay.back ++ outer.suffix = setting.suffix ++ after
  source : outer.source = before ++ setting.source ++ after
  apart : ∀ code, collapseNegations (before ++ (code ++ setting.suffix) ++ after) =
    before ++ collapseNegations (code ++ setting.suffix) ++ after
  line : ∀ row ∈ 0 :: startRowsOf inlay.part.children,
    outer.lines.line (row + inlay.rows) = setting.lines.line row
  everyLine : setting.lines.policy = .everyLine ∧ outer.lines.policy = .everyLine

namespace Inlay

variable {inlay : Inlay} {setting outer : Setting} {before after : String}
  {candidate other : Candidate}

theorem isExcluded_everyLine {lines : FileLines} (everyLine : lines.policy = .everyLine)
    (row : Nat) : lines.isExcluded row = Exclusion.excludesItself (lines.line row) := by
  rw [FileLines.isExcluded, FileLines.isFiltered, everyLine]
  exact Bool.or_false _

theorem Reads.render (reads : inlay.Reads setting outer before after)
    (isMatch : inlay.Matches candidate other) :
    render outer (inlay.whole.put other.address other.changed) =
      before ++ Walk.render setting (inlay.part.put candidate.address candidate.changed) ++ after := by
  rw [Walk.render, Walk.render, isMatch.code, ← reads.apart, reads.front, String.append_assoc,
    reads.back]
  simp only [String.append_assoc]

theorem append_eq_iff (before text other after : String) :
    before ++ text ++ after = before ++ other ++ after ↔ text = other := by
  simp [← String.toList_inj]

/-- What matches a candidate makes a mutant of the same name, so many rows further down, or none
either. -/
theorem Reads.id (reads : inlay.Reads setting outer before after)
    (isMatch : inlay.Matches candidate other)
    (row : candidate.register.row ∈ 0 :: startRowsOf inlay.part.children) :
    (mutant? outer inlay.whole other).map Mutant.id =
      (mutant? setting inlay.part candidate).map fun mutant => mutant.id.down inlay.rows := by
  have line := reads.line _ row
  have moved : other.register = candidate.register.down inlay.rows := isMatch.register
  have excluded : outer.lines.isExcluded other.register.row =
      setting.lines.isExcluded candidate.register.row := by
    rw [isExcluded_everyLine reads.everyLine.2, isExcluded_everyLine reads.everyLine.1, moved,
      Register.down, line]
  unfold mutant? rendered?
  simp only [excluded, reads.render isMatch, reads.source, append_eq_iff]
  split
  · rfl
  · split
    · rfl
    · simp only [mutantOf, nameOf, moved, Register.down, line, Option.map_some, MutantId.down]

theorem Reads.ids (reads : inlay.Reads setting outer before after) {found others : List Candidate}
    (matching : List.Forall₂ inlay.Matches found others)
    (rows : ∀ candidate ∈ found, candidate.register.row ∈ 0 :: startRowsOf inlay.part.children) :
    (others.filterMap (mutant? outer inlay.whole)).map Mutant.id =
      (found.filterMap (mutant? setting inlay.part)).map fun mutant =>
        mutant.id.down inlay.rows := by
  simp only [List.map_filterMap]
  induction matching with
  | nil => rfl
  | cons isMatch _ ih =>
    obtain ⟨row, further⟩ := List.forall_mem_cons.mp rows
    rw [List.filterMap_cons, List.filterMap_cons, reads.id isMatch row, ih further]

end Inlay

end Walk

end MutationTesting
