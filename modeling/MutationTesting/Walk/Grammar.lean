import MutationTesting.Exclusion.Policy
import MutationTesting.Mutant.Basic
import MutationTesting.Rule.Basic
import MutationTesting.Text.Search
/-! What a walk over the tree of a source depends on, how a walk names and renders what it
finds, and what it finds. -/
namespace MutationTesting

/-- What a walk needs to know of a language. -/
structure Grammar where
  /-- Nodes that are left out with all that is below them. -/
  isPassThrough : Spot → Bool
  /-- The arrow before the type of a result: of a list of children that holds one, neither it
  nor what follows it is walked. -/
  isReturnArrow : Spot → Bool

namespace Walk

/-- What stays the same during a walk. -/
structure Setting where
  grammar : Grammar
  table : RuleTable
  lines : FileLines
  source : String
  suffix : String

/-- The row that the walk is on and the number of proposals there have been on it. -/
structure Register where
  row : Nat
  index : Nat
  deriving Repr, DecidableEq

namespace Register

def start : Register :=
  ⟨0, 0⟩

/-- The register at a node: on another row the count starts anew. -/
def moveTo (register : Register) (row : Nat) : Register :=
  if row = register.row then register else ⟨row, 0⟩

def next (register : Register) : Register :=
  { register with index := register.index + 1 }

end Register

/-- Two negations in a row, which come about when an operator gets one beside another, are left
out. -/
def collapseNegations (code : String) : String :=
  Text.replace " not not " " " code

/-- The text of a source whose root is `root`. -/
def render (setting : Setting) (root : Node) : String :=
  collapseNegations (root.code ++ setting.suffix)

def nameOf (setting : Setting) (register : Register) : MutantId :=
  ⟨setting.lines.line register.row, register.index, register.row⟩

/-- The mutant of a proposal that turns the source into `mutated`. -/
def mutantOf (setting : Setting) (register : Register) (mutated : String) : Mutant where
  file := setting.lines.file
  id := nameOf setting register
  source := setting.source
  mutated := mutated

def contextOf (table : RuleTable) (register : Register) (stack : List Address) (spot : Spot) :
    RuleContext :=
  { spot, stack, row := register.row, synonyms := table.synonyms }

/-! The walk as a recursion over the tree. The candidates are numbered first: those of a node are
those of its children, up to the first return arrow, and then those of its own rules. Which of
them are mutants is said of each one by itself. -/

/-- A proposal for a node of the tree: the address of the node, the node as it is and as a rule
would have it, and the number it takes. -/
structure Candidate where
  address : Address
  node : Node
  changed : Node
  register : Register

/-- The candidates that the rules of a node have, and the register behind them. A rule sees the
way down to the node. -/
def ownCandidates (table : RuleTable) (root : Node) (address : Address) (node : Node)
    (register : Register) : List Rule → List Candidate × Register
  | [] => ([], register)
  | rule :: rest =>
    match rule.propose? (contextOf table register address.path ⟨root, address⟩) with
    | none => ownCandidates table root address node register rest
    | some proposal =>
      let (later, behind) := ownCandidates table root address node register.next rest
      (⟨address, node, proposal.applyTo node, register⟩ :: later, behind)

mutual
/-- The candidates in a subtree, and the register behind them. -/
def visit (grammar : Grammar) (table : RuleTable) (root : Node) (address : Address)
    (register : Register) : Node → List Candidate × Register
  | ⟨kind, token?, start, children⟩ =>
    if grammar.isPassThrough ⟨root, address⟩ then ([], register)
    else
      let (inner, register) :=
        visitFrom grammar table root address (register.moveTo start.row) 0 children
      let (own, register) :=
        ownCandidates table root address ⟨kind, token?, start, children⟩ register
          (table.rulesFor kind)
      (inner ++ own, register)

/-- The candidates in the children of a node from a place on, and the register behind them. -/
def visitFrom (grammar : Grammar) (table : RuleTable) (root : Node) (address : Address)
    (register : Register) (place : Nat) : List Node → List Candidate × Register
  | [] => ([], register)
  | child :: rest =>
    if grammar.isReturnArrow ⟨root, address ++ [place]⟩ then ([], register)
    else
      let (first, register) := visit grammar table root (address ++ [place]) register child
      let (later, register) := visitFrom grammar table root address register (place + 1) rest
      (first ++ later, register)
end

/-- The candidates of a tree. The root has no rules. -/
def candidates (grammar : Grammar) (table : RuleTable) (root : Node) : List Candidate :=
  (visitFrom grammar table root [] .start 0 root.children).1

/-- The mutant that a candidate makes, unless it changes nothing in the text. -/
def rendered? (setting : Setting) (root : Node) (candidate : Candidate) : Option Mutant :=
  let mutated := render setting (root.put candidate.address candidate.changed)
  if mutated = setting.source then none
  else some (mutantOf setting candidate.register mutated)

/-- The mutant of a candidate, unless its row is excluded. -/
def mutant? (setting : Setting) (root : Node) (candidate : Candidate) : Option Mutant :=
  if setting.lines.isExcluded candidate.register.row then none
  else rendered? setting root candidate

def mutants (setting : Setting) (root : Node) : List Mutant :=
  (candidates setting.grammar setting.table root).filterMap (mutant? setting root)

end Walk

end MutationTesting
