import Mathlib.Data.List.Forall2
import MutationTesting.Proofs.Rule.Exchange
import MutationTesting.Proofs.Tree.Moved
/-! Rules that look at a node and at the nodes above it, but neither at where these stand nor at the
trivia in front of their first tokens. Such a rule proposes the same for a node in whatever text its
statement stands. The rules for Python are of this kind. -/
namespace MutationTesting

open Node

/-- Two nodes that differ in where they stand and in the trivia in front of them. -/
def Node.Alike (node other : Node) : Prop :=
  ∃ rows lead, other = node.moved rows lead

/-- Two contexts with the same names in which a node and those above it, the root left out, differ in
where they stand and in the trivia in front of them. -/
structure RuleContext.Matches (context other : RuleContext) : Prop where
  lineage : List.Forall₂ Alike context.lineage other.lineage
  synonyms : other.synonyms = context.synonyms

/-- A rule that makes the same of a node wherever its statement stands, and that leaves the trivia in
front of the node where they are. -/
def Rule.IsLocal (rule : Rule) : Prop :=
  ∀ (context other : RuleContext) (node : Node) (rows : Nat) (lead : String),
    context.spot.node? = some node → other.spot.node? = some (node.moved rows lead) →
    node.Grown → context.Matches other →
    Option.Rel (fun proposal moved =>
        (moved.applyTo (node.moved rows lead)).code = lead ++ (proposal.applyTo node).code)
      (rule.propose? context) (rule.propose? other)

/-- A table of such rules. -/
def RuleTable.IsLocal (table : RuleTable) : Prop :=
  ∀ kind, ∀ rule ∈ table.rulesFor kind, rule.IsLocal

namespace Rule

variable {context other : RuleContext}

theorem lineage_getElem? (same : context.Matches other) (depth : Nat) :
    Option.Rel Alike context.lineage[depth]? other.lineage[depth]? := by
  have lineage := same.lineage
  generalize context.lineage = nodes, other.lineage = others at lineage
  induction lineage generalizing depth with
  | nil => exact .none
  | cons alike _ ih =>
    cases depth with
    | zero => exact .some alike
    | succ depth => exact ih depth

theorem isBelow_eq (same : context.Matches other) (kinds : List String) :
    isBelow other kinds = isBelow context kinds := by
  have parent := lineage_getElem? same 1
  unfold isBelow RuleContext.parentKind? RuleContext.kindAt?
  generalize context.lineage[1]? = first?, other.lineage[1]? = second? at parent
  cases parent with
  | none => rfl
  | some alike =>
    obtain ⟨rows, lead, rfl⟩ := alike
    simp

theorem isLocal_value {change : String → RuleContext → Option String}
    (agrees : ∀ value context other, context.Matches other →
      change value other = change value context) :
    (Rule.value change).IsLocal := by
  intro context other node rows lead here there grown same
  have value : context.spot.value? = node.value? := by rw [Spot.value?, here]; rfl
  have moved : other.spot.value? = node.value? := by
    rw [Spot.value?, there, Option.bind_some, value?_moved]
  unfold propose?
  simp only [value, moved, agrees _ _ _ same, Option.bind_eq_bind]
  cases isValue : node.value? with
  | none => exact .none
  | some value =>
    simp only [Option.bind_some]
    cases change value context with
    | none => exact .none
    | some new =>
      simp only [Option.bind_some]
      split
      · exact .none
      · refine .some ?_
        obtain ⟨kind, token?, start, children⟩ := node
        cases token? with
        | none => contradiction
        | some token => simp [Node.moved, Proposal.applyTo, withValue, code, String.append_assoc]

/-- A rule for composite nodes that changes the children alike wherever they stand, and leaves a
first token. -/
theorem isLocal_children {change : List Node → RuleContext → Option (List Node)}
    (agrees : ∀ children context other rows lead, (∀ child ∈ children, child.firstToken?.isSome) →
      context.Matches other → change (movedAll rows lead children) other =
        (change children context).map (movedAll rows lead))
    (leaves : ∀ children context new, (∀ child ∈ children, child.firstToken?.isSome) →
      change children context = some new → (firstTokenOf? new).isSome) :
    (Rule.children change).IsLocal := by
  intro context other node rows lead here there grown same
  have all : ∀ child ∈ node.children, child.firstToken?.isSome :=
    fun child isChild => (grown.child isChild).firstToken
  have children : context.spot.children = node.children := by rw [Spot.children, here]; rfl
  have moved : other.spot.children = movedAll rows (node.leadBelow lead) node.children := by
    rw [Spot.children, there, Option.map_some, Option.getD_some, children_moved]
  unfold propose?
  simp only [children, moved, agrees _ _ _ rows _ all same]
  cases changed : change node.children context with
  | none => exact .none
  | some new =>
    refine .some ?_
    have first := leaves _ _ _ all changed
    obtain ⟨kind, token?, start, children⟩ := node
    cases token? with
    | none =>
      simpa [Node.moved, Proposal.applyTo, withChildren, code, leadBelow] using
        codeAll_movedAll first
    | some token =>
      simp [Node.moved, Proposal.applyTo, withChildren, code, String.append_assoc]

section

variable {children : List Node} {rows : Nat} {lead : String}

theorem swapAt_movedAll (grown : ∀ child ∈ children, child.firstToken?.isSome) (place : Nat)
    (kind value : String) :
    swapAt (movedAll rows lead children) place kind value =
      movedAll rows lead (swapAt children place kind value) := by
  unfold swapAt
  induction children generalizing place lead with
  | nil => cases place <;> rfl
  | cons child rest ih =>
    obtain ⟨here, further⟩ := List.forall_mem_cons.mp grown
    cases place with
    | zero => simp [movedAll, standIn_moved here]
    | succ place => simp [movedAll, ih further]

theorem firstToken_swapAt (grown : ∀ child ∈ children, child.firstToken?.isSome)
    (some : children ≠ []) (place : Nat) (kind value : String) :
    (firstTokenOf? (swapAt children place kind value)).isSome := by
  cases children with
  | nil => contradiction
  | cons child rest =>
    cases place with
    | zero => simp [swapAt, firstTokenOf?, standIn, leaf, firstToken?]
    | succ place => simpa [swapAt, firstTokenOf?] using grown child List.mem_cons_self

theorem sentinel_moved (expression : Node) (rows : Nat) (lead number : String) :
    sentinel (expression.moved rows lead) number = sentinel expression number := by
  rw [sentinel, sentinel, text_moved]

theorem SwapsOne.leaves {change : List Node → RuleContext → Option (List Node)}
    (swaps : SwapsOne (.children change)) (children : List Node) (context : RuleContext)
    (new : List Node) (grown : ∀ child ∈ children, child.firstToken?.isSome)
    (changed : change children context = some new) : (firstTokenOf? new).isSome := by
  obtain ⟨place, child, kind, value, found, rfl⟩ := swaps children context new changed
  exact firstToken_swapAt grown (List.ne_nil_of_mem (List.mem_of_getElem? found)) place kind value

end

theorem booleanOperator_isLocal : IsLocal (.children booleanOperator) := by
  refine isLocal_children ?_ booleanOperator_swapsOne.leaves
  intro children context other rows lead grown _
  unfold booleanOperator
  rw [findIdx?_movedAll (by simp)]
  cases children.findIdx? fun child =>
      child.kind == "keyword" && (child.value? == some "and" || child.value? == some "or") with
  | none => rfl
  | some place =>
    simp only [Option.bind_eq_bind, Option.bind_some, getElem?_movedAll]
    cases children[place]? with
    | none => rfl
    | some operator => simp [swapAt_movedAll grown]

theorem lambdaBody_isLocal : IsLocal (.children lambdaBody) := by
  refine isLocal_children ?_ lambdaBody_swapsOne.leaves
  intro children context other rows lead grown _
  simp only [lambdaBody, List.getLast?_eq_getElem?, length_movedAll, getElem?_movedAll]
  cases children[children.length - 1]? with
  | none => rfl
  | some body => simp [sentinel_moved, swapAt_movedAll grown]

theorem assignedValue_isLocal : IsLocal (.children assignedValue) := by
  refine isLocal_children ?_ assignedValue_swapsOne.leaves
  intro children context other rows lead grown _
  unfold assignedValue
  rw [findIdx?_movedAll (by simp)]
  cases children.findIdx? fun child =>
      child.kind == "operator" && child.value? == some "=" with
  | none => rfl
  | some equals =>
    simp only [Option.bind_eq_bind, Option.bind_some, getElem?_movedAll]
    cases children[equals + 1]? with
    | none => rfl
    | some expression => simp [sentinel_moved, swapAt_movedAll grown]

theorem decorator_isLocal : IsLocal (.children decorator) := by
  refine isLocal_children ?_ ?_
  · intro children context other rows lead grown _
    cases children with
    | nil => rfl
    | cons first rest =>
      simp [decorator, movedAll, standIn_moved (grown first List.mem_cons_self)]
  · intro children context new _ changed
    obtain ⟨first, -, rfl⟩ := Option.map_eq_some_iff.mp changed
    simp [firstTokenOf?, standIn, leaf, firstToken?]

theorem subscriptIndex_isLocal : IsLocal (.children subscriptIndex) := by
  refine isLocal_children ?_ subscriptIndex_swapsOne.leaves
  intro children context other rows lead grown _
  match children with
  | [] => rfl
  | [_] => rfl
  | [_, _] => rfl
  | [_, _, _] => rfl
  | [whole, opening, index, closing] =>
    simp only [subscriptIndex, movedAll, value?_moved, kind_moved]
    split
    · exact congrArg some (swapAt_movedAll grown 2 "keyword" "None")
    · rfl
  | _ :: _ :: _ :: _ :: _ :: _ => rfl

theorem firstArgument_isLocal : IsLocal (.children firstArgument) := by
  refine isLocal_children ?_ firstArgument_swapsOne.leaves
  intro children context other rows lead grown _
  match children with
  | [] => rfl
  | [_] => rfl
  | opening :: first :: rest =>
    have last : ((movedAll rows "" rest).getLast?.bind Node.value?) =
        rest.getLast?.bind Node.value? := by
      rw [List.getLast?_eq_getElem?, List.getLast?_eq_getElem?, length_movedAll,
        getElem?_movedAll]
      cases rest[rest.length - 1]? <;> simp
    simp only [firstArgument, movedAll, value?_moved, kind_moved, last, length_movedAll]
    split
    · exact congrArg some (swapAt_movedAll grown 1 "keyword" "None")
    · rfl

theorem dictionaryKey_isLocal : IsLocal (.children dictionaryKey) := by
  refine isLocal_children ?_ dictionaryKey_swapsOne.leaves
  intro children context other rows lead grown same
  have call := lineage_getElem? same 2
  unfold dictionaryKey
  rw [same.synonyms]
  generalize context.lineage[2]? = first?, other.lineage[2]? = second? at call
  cases call with
  | none => rfl
  | @some call _ alike =>
    obtain ⟨callRows, callLead, rfl⟩ := alike
    simp only [Option.bind_eq_bind, Option.bind_some, Option.pure_def, kind_moved, children_moved,
      head?_movedAll]
    split
    · cases call.children.head? with
      | none => rfl
      | some function =>
        simp only [Option.map_some, Option.bind_some, kind_moved, value?_moved]
        split
        · cases function.value? with
          | none => rfl
          | some name =>
            simp only [Option.bind_some]
            split
            · cases children.head? with
              | none => rfl
              | some key =>
                simp only [Option.map_some, Option.bind_some, value?_moved]
                cases key.value? with
                | none => rfl
                | some value =>
                  exact congrArg some (swapAt_movedAll grown 0 "name" (value ++ keyMark))
            · rfl
        · rfl
    · rfl

theorem pythonRules_areLocal : ∀ entry ∈ pythonRules, entry.2.IsLocal := by
  simp only [pythonRules, List.forall_mem_cons]
  refine ⟨isLocal_value ?_, isLocal_value ?_, isLocal_value ?_, isLocal_value ?_, isLocal_value ?_,
    booleanOperator_isLocal, lambdaBody_isLocal, assignedValue_isLocal, decorator_isLocal,
    subscriptIndex_isLocal, firstArgument_isLocal, dictionaryKey_isLocal, by simp⟩
  · exact fun value context other same => by rw [operatorRule, operatorRule, isBelow_eq same]
  · exact fun value context other same => by rw [keywordRule, keywordRule, isBelow_eq same]
  · exact fun _ _ _ _ => rfl
  · exact fun _ _ _ _ => rfl
  · exact fun _ _ _ _ => rfl

end Rule

/-- The rules for Python look at nothing else. -/
theorem RuleTable.python_isLocal (synonyms : List String) : (python synonyms).IsLocal := by
  intro kind rule member
  obtain none | member := mem_rulesFor_foldl member
  · contradiction
  · exact Rule.pythonRules_areLocal _ member

end MutationTesting
