import MutationTesting.Proofs.Tree.Around
import MutationTesting.Proofs.Walk.Numbered
import MutationTesting.Rule.Catalogue
/-! What the rules for Python exchange: the value of a token, one child of a node for a token, or all
of them for one. In each case the text of one node gives way to another text, and the trivia in
front of it stay. -/
namespace MutationTesting

namespace Rule

/-- What a rule for composite nodes makes of the children: one of them gives way to a leaf, or all of
them to one that stands in for the first. -/
inductive Exchanges (children : List Node) : List Node → Prop where
  | one {place : Nat} {child : Node} (kind value : String) :
      children[place]? = some child → Exchanges children (swapAt children place kind value)
  | all {first : Node} (kind value : String) :
      children.head? = some first → Exchanges children [first.standIn kind value]

/-- A rule that changes a value, or exchanges children for a leaf. -/
def IsExchange : Rule → Prop
  | .value _ => True
  | .children change => ∀ children context new,
      change children context = some new → Exchanges children new

/-- A rule that changes a value, or exchanges one child for a leaf. -/
def SwapsOne : Rule → Prop
  | .value _ => True
  | .children change => ∀ children context new, change children context = some new →
      ∃ place child kind value, children[place]? = some child ∧
        new = swapAt children place kind value

theorem SwapsOne.isExchange {rule : Rule} (swaps : rule.SwapsOne) : rule.IsExchange := by
  cases rule with
  | value change => trivial
  | children change =>
    intro children context new changed
    obtain ⟨place, child, kind, value, found, rfl⟩ := swaps children context new changed
    exact .one kind value found

theorem swapAt_eq {children : List Node} {place : Nat} {child : Node}
    (found : children[place]? = some child) (kind value : String) :
    swapAt children place kind value = children.set place (child.standIn kind value) := by
  have : Inhabited Node := ⟨child⟩
  simp [swapAt, List.modify_eq_set, found]

theorem booleanOperator_swapsOne : SwapsOne (.children booleanOperator) := by
  intro children context new changed
  simp only [booleanOperator, Option.bind_eq_bind, Option.bind_eq_some_iff, Option.pure_def,
    Option.some.injEq] at changed
  obtain ⟨place, -, operator, found, isSwapped⟩ := changed
  exact ⟨place, operator, _, _, found, isSwapped.symm⟩

theorem lambdaBody_swapsOne : SwapsOne (.children lambdaBody) := by
  intro children context new changed
  simp only [lambdaBody, Option.bind_eq_bind, Option.bind_eq_some_iff, Option.pure_def,
    Option.some.injEq] at changed
  obtain ⟨body, found, isSwapped⟩ := changed
  rw [List.getLast?_eq_getElem?] at found
  exact ⟨_, body, _, _, found, isSwapped.symm⟩

theorem assignedValue_swapsOne : SwapsOne (.children assignedValue) := by
  intro children context new changed
  simp only [assignedValue, Option.bind_eq_bind, Option.bind_eq_some_iff, Option.pure_def,
    Option.some.injEq] at changed
  obtain ⟨equals, -, expression, found, isSwapped⟩ := changed
  exact ⟨equals + 1, expression, _, _, found, isSwapped.symm⟩

theorem decorator_isExchange : IsExchange (.children decorator) := by
  intro children context new changed
  obtain ⟨first, isFirst, rfl⟩ := Option.map_eq_some_iff.mp changed
  exact .all _ _ isFirst

theorem subscriptIndex_swapsOne : SwapsOne (.children subscriptIndex) := by
  intro children context new changed
  unfold subscriptIndex at changed
  split at changed
  · obtain ⟨-, isSwapped⟩ := Option.ite_none_right_eq_some.mp changed
    exact ⟨2, _, _, _, rfl, (Option.some.inj isSwapped).symm⟩
  · contradiction

theorem firstArgument_swapsOne : SwapsOne (.children firstArgument) := by
  intro children context new changed
  unfold firstArgument at changed
  split at changed
  · obtain ⟨-, isSwapped⟩ := Option.ite_none_right_eq_some.mp changed
    exact ⟨1, _, _, _, rfl, (Option.some.inj isSwapped).symm⟩
  · contradiction

theorem dictionaryKey_swapsOne : SwapsOne (.children dictionaryKey) := by
  intro children context new changed
  simp only [dictionaryKey, Option.bind_eq_bind, Option.pure_def, Option.bind_none] at changed
  obtain ⟨call, -, changed⟩ := Option.bind_eq_some_iff.mp changed
  split at changed
  · obtain ⟨function, -, changed⟩ := Option.bind_eq_some_iff.mp changed
    split at changed
    · obtain ⟨name, -, changed⟩ := Option.bind_eq_some_iff.mp changed
      split at changed
      · obtain ⟨key, isKey, changed⟩ := Option.bind_eq_some_iff.mp changed
        obtain ⟨value, -, isSwapped⟩ := Option.bind_eq_some_iff.mp changed
        rw [List.head?_eq_getElem?] at isKey
        exact ⟨0, key, _, _, isKey, (Option.some.inj isSwapped).symm⟩
      · contradiction
    · contradiction
  · contradiction

/-- Of the rules for Python only the one for decorators exchanges more than one child. -/
theorem pythonRules_swapOne : ∀ entry ∈ pythonRules,
    entry.1 ≠ "decorator" ∧ entry.2.SwapsOne ∨ entry = ("decorator", .children decorator) := by
  have swaps {kind : String} {rule : Rule} (other : kind ≠ "decorator") (swapsOne : rule.SwapsOne) :
      kind ≠ "decorator" ∧ rule.SwapsOne ∨ (kind, rule) = ("decorator", .children decorator) :=
    .inl ⟨other, swapsOne⟩
  simp only [pythonRules, List.forall_mem_cons, -String.reduceNe]
  exact ⟨swaps (by decide) trivial, swaps (by decide) trivial, swaps (by decide) trivial,
    swaps (by decide) trivial, swaps (by decide) trivial,
    swaps (by decide) booleanOperator_swapsOne, swaps (by decide) lambdaBody_swapsOne,
    swaps (by decide) assignedValue_swapsOne, .inr trivial,
    swaps (by decide) subscriptIndex_swapsOne, swaps (by decide) firstArgument_swapsOne,
    swaps (by decide) dictionaryKey_swapsOne, by simp⟩

end Rule

theorem RuleSet.mem_insert {rules : RuleSet} {rule new : Rule}
    (member : rule ∈ (rules.insert new).toList) : rule ∈ rules.toList ∨ rule = new := by
  cases new with
  | children change =>
    obtain isNew | known := List.mem_append.mp member
    · exact .inr (List.mem_singleton.mp isNew)
    · exact .inl (List.mem_append_right _ known)
  | value change =>
    obtain known | isNew := List.mem_append.mp member
    · exact .inl (List.mem_append_left _ known)
    · exact .inr (List.mem_singleton.mp isNew)

namespace RuleTable

theorem mem_rulesFor_insert {table : RuleTable} {kind other : String} {rule new : Rule}
    (member : rule ∈ (table.insert other new).rulesFor kind) :
    rule ∈ table.rulesFor kind ∨ (kind, rule) = (other, new) := by
  unfold rulesFor insert at member
  dsimp only at member
  split at member
  · rename_i same
    subst same
    obtain known | rfl := RuleSet.mem_insert member
    · exact .inl known
    · exact .inr rfl
  · exact .inl member

theorem mem_rulesFor_foldl {entries : List (String × Rule)} {table : RuleTable} {kind : String}
    {rule : Rule} (member : rule ∈ (entries.foldl
      (fun table (kind, rule) => table.insert kind rule) table).rulesFor kind) :
    rule ∈ table.rulesFor kind ∨ (kind, rule) ∈ entries := by
  induction entries generalizing table with
  | nil => exact .inl member
  | cons entry rest ih =>
    obtain known | isLater := ih member
    · obtain known | same := mem_rulesFor_insert known
      · exact .inl known
      · exact .inr (List.mem_cons.mpr (.inl same))
    · exact .inr (List.mem_cons_of_mem _ isLater)

theorem python_swapsOne {synonyms : List String} {kind : String} {rule : Rule}
    (member : rule ∈ (python synonyms).rulesFor kind) :
    kind ≠ "decorator" ∧ rule.SwapsOne ∨
      (kind, rule) = ("decorator", .children Rule.decorator) := by
  obtain none | member := mem_rulesFor_foldl member
  · contradiction
  · exact Rule.pythonRules_swapOne _ member

theorem python_isExchange {synonyms : List String} {kind : String} {rule : Rule}
    (member : rule ∈ (python synonyms).rulesFor kind) : rule.IsExchange := by
  obtain ⟨-, swaps⟩ | same := python_swapsOne member
  · exact swaps.isExchange
  · obtain ⟨-, rfl⟩ := Prod.mk.inj same
    exact Rule.decorator_isExchange

end RuleTable

namespace Walk

/-- What a candidate replaces: the text of the node at an address, by another text. -/
inductive Candidate.Replaces (candidate : Candidate) : Address → String → Prop where
  | value (new : String) :
      candidate.node.token?.isSome → candidate.changed = candidate.node.withValue new →
      Replaces candidate candidate.address new
  | child {place : Nat} {child : Node} (kind new : String) :
      candidate.node.children[place]? = some child →
      candidate.changed = candidate.node.withChildren
        (Rule.swapAt candidate.node.children place kind new) →
      Replaces candidate (candidate.address ++ [place]) new
  | whole {first : Node} (kind new : String) :
      candidate.node.children.head? = some first →
      candidate.changed = candidate.node.withChildren [first.standIn kind new] →
      Replaces candidate candidate.address new

variable {grammar : Grammar} {synonyms : List String} {root : Node} {candidate : Candidate}

theorem Candidate.ComesFrom.replaces
    (origin : candidate.ComesFrom grammar (.python synonyms) root) :
    ∃ target new, candidate.Replaces target new := by
  obtain ⟨rule, isRule, proposal, proposed, changed⟩ := origin.proposed
  have isExchange := RuleTable.python_isExchange isRule
  cases rule with
  | value change =>
    obtain ⟨value, hasValue, isNew⟩ := Option.bind_eq_some_iff.mp proposed
    obtain ⟨new, -, isNew⟩ := Option.bind_eq_some_iff.mp isNew
    obtain ⟨-, isNew⟩ := Option.ite_none_left_eq_some.mp isNew
    obtain rfl := Option.some.inj isNew
    refine ⟨_, new, .value new ?_ changed⟩
    simp only [contextOf, Spot.value?, Spot.node?, origin.here, Option.bind_some, Node.value?,
      Option.map_eq_some_iff] at hasValue
    obtain ⟨token, isToken, -⟩ := hasValue
    simp [isToken]
  | children change =>
    obtain ⟨new, isNew, rfl⟩ := Option.map_eq_some_iff.mp proposed
    have exchanges := isExchange _ _ _ isNew
    simp only [contextOf, Spot.children_eq origin.here] at exchanges
    cases exchanges with
    | one kind value found => exact ⟨_, value, .child kind value found changed⟩
    | all kind value isFirst => exact ⟨_, value, .whole kind value isFirst changed⟩

/-- The texts of a tree before and after a candidate has changed it. They differ in the text of one
node, in front of which all trivia stay. -/
theorem Candidate.Replaces.code {target : Address} {new : String}
    (replaces : candidate.Replaces target new)
    (here : root.get? candidate.address = some candidate.node) (tokens : root.TokensAtLeaves) :
    ∃ node, root.get? target = some node ∧
      root.code = root.before target ++ node.trivia ++ node.text ++ root.behind target ∧
      (root.put candidate.address candidate.changed).code =
        root.before target ++ node.trivia ++ new ++ root.behind target := by
  cases replaces with
  | value new isToken changed =>
    refine ⟨candidate.node, here, tokens.code_eq here, ?_⟩
    rw [tokens.code_put here, changed]
    obtain ⟨token, isToken⟩ := Option.isSome_iff_exists.mp isToken
    obtain ⟨address, ⟨kind, token?, start, children⟩, changed, register⟩ := candidate
    obtain rfl : token? = some token := isToken
    simp [Node.withValue, Node.code, Node.trivia, Node.firstToken?, String.append_assoc]
  | @child place child kind new found changed =>
    have there : root.get? (candidate.address ++ [place]) = some child := by
      simpa [Node.get?_concat, here] using found
    refine ⟨child, there, tokens.code_eq there, ?_⟩
    rw [changed, Rule.swapAt, ← Node.put_concat here found fun child => child.standIn kind new]
    exact tokens.code_standIn there kind new
  | @whole first kind new isFirst changed =>
    refine ⟨candidate.node, here, tokens.code_eq here, ?_⟩
    have isChild : candidate.node.children[0]? = some first := by
      rwa [← List.head?_eq_getElem?]
    have noToken := (tokens.get? here).noToken isChild
    rw [tokens.code_put here, changed]
    obtain ⟨address, ⟨kind', token?, start, children⟩, changed, register⟩ := candidate
    obtain rfl : token? = none := noToken
    obtain ⟨rest, rfl⟩ : ∃ rest, children = first :: rest := by
      cases children with
      | nil => contradiction
      | cons head rest => exact ⟨rest, by rw [Option.some.inj isFirst]⟩
    simp [Node.withChildren, Node.code, Node.codeAll, Node.standIn, Node.leaf, Node.trivia,
      Node.firstToken?, Node.firstTokenOf?, String.append_assoc]

end Walk

end MutationTesting
