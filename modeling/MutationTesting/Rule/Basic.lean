import MutationTesting.Text.Lines
import MutationTesting.Tree.Address
/-! Rules that propose a change of one node, and tables that say which rules a kind of node
has. -/
namespace MutationTesting

/-- What a rule may look at: the node in its tree, the addresses of the node and its ancestors
from the inside out, the root left out, the row the walk has reached, and the names that are
called like `dict`. -/
structure RuleContext where
  spot : Spot
  stack : List Address
  row : Nat
  synonyms : List String

namespace RuleContext

/-- The node and its ancestors from the inside out, the root left out. -/
def lineage (context : RuleContext) : List Node :=
  context.stack.filterMap context.spot.root.get?

/-- The kind of the ancestor `depth` levels above the node; 0 is the node itself. -/
def kindAt? (context : RuleContext) (depth : Nat) : Option String :=
  context.lineage[depth]?.map Node.kind

/-- The kind of the node's parent, unless that is the root. -/
def parentKind? (context : RuleContext) : Option String :=
  context.kindAt? 1

end RuleContext

/-- A proposal for a node: new children or a new value of its token. -/
inductive Rule where
  | children (change : List Node → RuleContext → Option (List Node))
  | value (change : String → RuleContext → Option String)

/-- What a rule makes of a node: other children, or another value of its token. -/
inductive Proposal where
  | children (new : List Node)
  | value (new : String)

namespace Proposal

def applyTo (proposal : Proposal) (node : Node) : Node :=
  match proposal with
  | .children new => node.withChildren new
  | .value new => node.withValue new

/-- What gives a node back once the proposal has been applied to it. -/
def undo (proposal : Proposal) (node : Node) : Proposal :=
  match proposal with
  | .children _ => .children node.children
  | .value _ => .value (node.value?.getD "")

theorem undo_applyTo (proposal : Proposal) (node : Node) :
    (proposal.undo node).applyTo (proposal.applyTo node) = node := by
  obtain ⟨kind, token, start, children⟩ := node
  cases proposal with
  | children new => rfl
  | value new => cases token <;> rfl

end Proposal

/-- Exchanges the children or the value of a node: yields the changed tree and what takes the
exchange back. -/
def Spot.exchange (spot : Spot) (proposal : Proposal) : Proposal × Node :=
  match spot.node? with
  | some node => (proposal.undo node, spot.root.put spot.address (proposal.applyTo node))
  | none => (proposal, spot.root)

theorem Spot.exchange_eq {root node : Node} {address : Address}
    (found : root.get? address = some node) (proposal : Proposal) :
    Spot.exchange ⟨root, address⟩ proposal =
      (proposal.undo node, root.put address (proposal.applyTo node)) := by
  simp [exchange, node?, found]

/-- An exchange that is taken back leaves the tree as it was. -/
theorem Spot.exchange_back (spot : Spot) (proposal : Proposal) :
    (Spot.exchange ⟨(spot.exchange proposal).2, spot.address⟩ (spot.exchange proposal).1).2 =
      spot.root := by
  obtain ⟨root, address⟩ := spot
  cases found : root.get? address with
  | none => simp [exchange, node?, found]
  | some node =>
    rw [exchange_eq found, exchange_eq (Node.get?_put found _)]
    simp [Node.put_put, Proposal.undo_applyTo, Node.put_self found]

/-- The proposal of a rule for a node, if it has one. A value must differ from the one that is
there; a node without a token has no value. -/
def Rule.propose? (rule : Rule) (context : RuleContext) : Option Proposal :=
  match rule with
  | .value change => do
    let value ← context.spot.value?
    let new ← change value context
    if new = value then none else some (.value new)
  | .children change => (change context.spot.children context).map .children

/-- The rules of a kind of node: at most one for its children and one for its value. -/
structure RuleSet where
  children? : Option (List Node → RuleContext → Option (List Node))
  value? : Option (String → RuleContext → Option String)

namespace RuleSet

def empty : RuleSet :=
  ⟨none, none⟩

/-- The set with a rule in place of the one for the same part of a node. -/
def insert (rules : RuleSet) : Rule → RuleSet
  | .children change => { rules with children? := some change }
  | .value change => { rules with value? := some change }

/-- The rules in the order in which they apply: first the children, then the value. -/
def toList (rules : RuleSet) : List Rule :=
  (rules.children?.map Rule.children).toList ++ (rules.value?.map Rule.value).toList

end RuleSet

/-- Rules for every kind of node, and the names that are called like `dict`. -/
structure RuleTable where
  rules : String → RuleSet
  synonyms : List String

namespace RuleTable

def empty : RuleTable :=
  ⟨fun _ => .empty, []⟩

/-- The table with one more rule for a kind of node. -/
def insert (table : RuleTable) (kind : String) (rule : Rule) : RuleTable :=
  { table with
    rules := fun other =>
      if other = kind then (table.rules kind).insert rule else table.rules other }

/-- The rules of a kind of node in the order in which they apply. -/
def rulesFor (table : RuleTable) (kind : String) : List Rule :=
  (table.rules kind).toList

/-- The names without blanks around them, each once, `dict` first. -/
def normalizeSynonyms (names : List String) : List String :=
  names.foldl (fun known name =>
    let name := Text.trim name
    if name = "" ∨ name ∈ known then known else known ++ [name]) ["dict"]

/-- The table with other names that are called like `dict`. -/
def withSynonyms (table : RuleTable) (names : List String) : RuleTable :=
  { table with synonyms := normalizeSynonyms names }

theorem length_rulesFor_le (table : RuleTable) (kind : String) :
    (table.rulesFor kind).length ≤ 2 := by
  unfold rulesFor RuleSet.toList
  cases (table.rules kind).children? <;> cases (table.rules kind).value? <;> simp

end RuleTable

end MutationTesting
