import MutationTesting.Proofs.Rule.Exchange
/-! Comments and line continuations stand wherever blanks may stand, so that they are also among the
children that a rule counts or finds by their places: the arguments of a call, and what follows the
sign of an assignment. -/
namespace MutationTesting

/-- Whether a node may stand anywhere among others: a comment, or the end of a line that goes on. -/
def Node.isExtra (node : Node) : Bool :=
  node.kind == "comment" || node.kind == "line_continuation"

/-- A token at the very beginning. -/
def Node.ofToken (kind trivia value : String) : Node :=
  .leaf kind trivia value ⟨0, 0⟩

/-- What a rule sees of a node that is all there is below the root. -/
def RuleContext.alone (kind : String) (children : List Node) : RuleContext where
  spot := ⟨⟨"module", none, ⟨0, 0⟩, [⟨kind, none, ⟨0, 0⟩, children⟩]⟩, [0]⟩
  stack := [[0]]
  row := 0
  synonyms := []

namespace Rule

/-- What the rules for Python propose for a node. -/
def proposals (synonyms : List String) (context : RuleContext) : List Proposal :=
  ((RuleTable.python synonyms).rulesFor context.spot.kind).filterMap fun rule =>
    rule.propose? context

variable {synonyms : List String} {context : RuleContext} {kind : String}

/-- Where the only rule is one for the children, what it makes of them is proposed. -/
theorem proposals_eq {change : List Node → RuleContext → Option (List Node)}
    (only : (RuleTable.python synonyms).rulesFor kind = [.children change])
    (isKind : context.spot.kind = kind) :
    proposals synonyms context =
      ((change context.spot.children context).map Proposal.children).toList := by
  rw [proposals, isKind, only, List.filterMap_cons, propose?]
  cases change context.spot.children context <;> rfl

end Rule

/-! The arguments of a call. -/

/-- Whether a node is a comma. -/
def Node.isComma (node : Node) : Bool :=
  node.kind == "operator" && node.value? == some ","

/-- Whether a node between the parentheses of a call is an argument. -/
def Node.isArgument (node : Node) : Bool :=
  !node.isComma && !node.isExtra

/-- Whether a node is a name and nothing more. -/
def Node.isName (node : Node) : Bool :=
  node.kind == "name"

theorem Node.isArgument_of_isComma {node : Node} (isComma : node.isComma = true) :
    node.isArgument = false := by
  rw [isArgument, isComma]
  rfl

theorem Node.isExtra_of_isArgument {node : Node} (isArgument : node.isArgument = true) :
    node.isExtra = false := by
  rw [Node.isArgument, Bool.and_eq_true, Bool.not_eq_true', Bool.not_eq_true'] at isArgument
  exact isArgument.2

theorem Node.isArgument_of_isName {node : Node} (isName : node.isName = true) :
    node.isArgument = true := by
  rw [isArgument, isComma, isExtra, beq_iff_eq.mp isName]
  rfl

/-- Arguments with a comma behind each, which may be left out behind the last one. -/
inductive Separated : List Node → Prop where
  | none : Separated []
  | last {argument : Node} : argument.isArgument = true → Separated [argument]
  | more {argument comma : Node} {rest : List Node} :
      argument.isArgument = true → comma.isComma = true → Separated rest →
      Separated (argument :: comma :: rest)

/-- What stands in the parentheses of a call: separated arguments, or a comma alone, with comments
and line continuations anywhere among them. -/
structure ArgumentList where
  opening : Node
  inner : List Node
  closing : Node
  opens : opening.value? = some "("
  closes : closing.value? = some ")"
  -- what is left without comments and line continuations is what the grammar asks for
  grammatical : Separated (inner.filter fun node => !node.isExtra) ∨
    ∃ comma, comma.isComma = true ∧ inner.filter (fun node => !node.isExtra) = [comma]

namespace ArgumentList

variable (list : ArgumentList)

def children : List Node :=
  list.opening :: (list.inner ++ [list.closing])

def arguments : List Node :=
  list.inner.filter Node.isArgument

/-- The children with `None` in place of the first argument. -/
def swapped : List Node :=
  Rule.swapAt list.children (list.inner.findIdx Node.isArgument + 1) "keyword" "None"

/-- Whether the first argument is a name. -/
def beginsWithName : Bool :=
  list.arguments.head?.any Node.isName

/-- The first of three arguments or more is swapped if it is a name. -/
def expected : List Proposal :=
  if list.beginsWithName = true ∧ 3 ≤ list.arguments.length then [.children list.swapped] else []

/-- Whether the nodes between the parentheses tell if there are three arguments. They do not where
something stands in front of the first argument, nor where two arguments make four nodes, with a
comma behind the second one or a comment among them. -/
def Tells : Prop :=
  if list.inner.head?.any Node.isExtra then list.arguments.length < 3
  else 3 ≤ list.arguments.length ∨ list.inner.length ≤ 3

variable {list} {first : Node}

theorem two_mul_length_filter_le {nodes : List Node} (separated : Separated nodes) :
    2 * (nodes.filter Node.isArgument).length ≤ nodes.length + 1 := by
  induction separated with
  | none => exact Nat.zero_le _
  | last isArgument =>
    rw [List.filter_cons_of_pos isArgument]
    exact Nat.le_refl _
  | more isArgument isComma _ ih =>
    have noArgument := Bool.eq_false_iff.mp (Node.isArgument_of_isComma isComma)
    rw [List.filter_cons_of_pos isArgument, List.filter_cons_of_neg noArgument]
    simp only [List.length_cons]
    omega

theorem isArgument_of_separated {rest : List Node} (separated : Separated (first :: rest)) :
    first.isArgument = true := by
  cases separated with
  | last isArgument | more isArgument => exact isArgument

theorem arguments_eq (list : ArgumentList) :
    list.arguments = (list.inner.filter fun node => !node.isExtra).filter Node.isArgument := by
  rw [List.filter_filter, arguments]
  refine List.filter_congr fun node _ => ?_
  rw [Node.isArgument, Bool.and_assoc, Bool.and_self]

theorem separated_of_arguments (some : list.arguments ≠ []) :
    Separated (list.inner.filter fun node => !node.isExtra) := by
  obtain separated | ⟨comma, isComma, alone⟩ := list.grammatical
  · exact separated
  · have noArgument := Bool.eq_false_iff.mp (Node.isArgument_of_isComma isComma)
    rw [arguments_eq, alone, List.filter_cons_of_neg noArgument] at some
    contradiction

/-- What comes first is the first argument, unless it is a comment or there is none. -/
theorem isArgument_head {more : List Node} (isInner : list.inner = first :: more)
    (noExtra : first.isExtra = false) (some : list.arguments ≠ []) : first.isArgument = true := by
  have separated := separated_of_arguments some
  rw [isInner, List.filter_cons_of_pos (by rw [noExtra]; rfl)] at separated
  exact isArgument_of_separated separated

/-- Between two arguments there is a comma. -/
theorem two_mul_length_arguments_le (some : list.arguments ≠ []) :
    2 * list.arguments.length ≤ list.inner.length + 1 := by
  have bound := two_mul_length_filter_le (separated_of_arguments some)
  have length := List.length_filter_le (fun node : Node => !node.isExtra) list.inner
  rw [← arguments_eq] at bound
  omega

theorem firstArgument_children (list : ArgumentList) (context : RuleContext) :
    Rule.firstArgument list.children context =
      if list.inner.head?.any Node.isName = true ∧ 3 < list.inner.length then some list.swapped
      else none := by
  cases isInner : list.inner with
  | nil => simp [Rule.firstArgument, children, isInner]
  | cons first more =>
    have isChildren : list.children = list.opening :: first :: (more ++ [list.closing]) := by
      rw [children, isInner, List.cons_append]
    have last : (more ++ [list.closing]).getLast?.bind Node.value? = some ")" := by
      rw [List.getLast?_concat, Option.bind_some, list.closes]
    rw [isChildren, Rule.firstArgument, last, list.opens, List.length_append]
    by_cases isName : first.isName = true
    · have isFirst : list.inner.findIdx Node.isArgument = 0 := by
        rw [isInner, List.findIdx_cons, Node.isArgument_of_isName isName]
        rfl
      rw [swapped, isFirst, isChildren]
      simp [isName, beq_iff_eq.mp isName]
    · have other : first.kind ≠ "name" := fun same => isName (beq_iff_eq.mpr same)
      simp [isName, other]

theorem beginsWithName_of_head? (leads : list.inner.head?.any Node.isName = true) :
    list.beginsWithName = true := by
  cases isInner : list.inner with
  | nil =>
    rw [isInner] at leads
    contradiction
  | cons first more =>
    rw [isInner, List.head?_cons, Option.any_some] at leads
    rw [beginsWithName, arguments, isInner,
      List.filter_cons_of_pos (Node.isArgument_of_isName leads), List.head?_cons, Option.any_some,
      leads]

theorem arguments_ne_nil (begins : list.beginsWithName = true) : list.arguments ≠ [] := by
  intro none
  rw [beginsWithName, none] at begins
  contradiction

theorem head?_any_isName (begins : list.beginsWithName = true) :
    list.inner.head?.any Node.isName = !list.inner.head?.any Node.isExtra := by
  have some := arguments_ne_nil begins
  cases isInner : list.inner with
  | nil =>
    rw [arguments, isInner] at some
    contradiction
  | cons first more =>
    rw [List.head?_cons, Option.any_some, Option.any_some]
    cases isExtra : first.isExtra with
    | false =>
      have isArgument := isArgument_head isInner isExtra some
      rwa [beginsWithName, arguments, isInner, List.filter_cons_of_pos isArgument, List.head?_cons,
        Option.any_some] at begins
    | true =>
      refine Bool.eq_false_iff.mpr fun isName => ?_
      rw [Node.isExtra_of_isArgument (Node.isArgument_of_isName isName)] at isExtra
      contradiction

theorem proposed_iff (begins : list.beginsWithName = true) :
    ((list.inner.head?.any Node.isName = true ∧ 3 < list.inner.length) ↔
      3 ≤ list.arguments.length) ↔ list.Tells := by
  have bound := two_mul_length_arguments_le (arguments_ne_nil begins)
  rw [head?_any_isName begins, Tells]
  cases list.inner.head?.any Node.isExtra with
  | false =>
    rw [if_neg Bool.false_ne_true, Bool.not_false, eq_self, true_and]
    omega
  | true =>
    rw [if_pos rfl, Bool.not_true, eq_false Bool.false_ne_true, false_and, false_iff, Nat.not_le]

theorem proposals_eq_ite (list : ArgumentList) (synonyms : List String) {context : RuleContext}
    (isKind : context.spot.kind = "argument_list")
    (isList : context.spot.children = list.children) :
    Rule.proposals synonyms context =
      if list.inner.head?.any Node.isName = true ∧ 3 < list.inner.length then
        [.children list.swapped]
      else [] := by
  rw [Rule.proposals_eq rfl isKind, isList, firstArgument_children]
  split <;> rfl

/-- The rule for the first argument does as expected exactly if the number of nodes tells whether
there are three arguments; whatever it proposes, it swaps the first argument. -/
theorem proposals_argument_list (list : ArgumentList) (synonyms : List String)
    {context : RuleContext} (isKind : context.spot.kind = "argument_list")
    (isList : context.spot.children = list.children) :
    (Rule.proposals synonyms context = list.expected ↔
      (list.beginsWithName = true → list.Tells)) ∧
    (Rule.proposals synonyms context = [] ∨
      Rule.proposals synonyms context = [.children list.swapped]) := by
  rw [proposals_eq_ite list synonyms isKind isList, expected]
  constructor
  · -- if the first argument is no name, neither the rule nor the expectation proposes anything
    by_cases begins : list.beginsWithName = true
    · rw [← proposed_iff begins]
      by_cases three : 3 ≤ list.arguments.length <;>
        by_cases proposed : list.inner.head?.any Node.isName = true ∧ 3 < list.inner.length <;>
        simp [begins, three, proposed]
    · have other : ¬ list.inner.head?.any Node.isName = true :=
        fun leads => begins (beginsWithName_of_head? leads)
      simp [begins, other]
  · split
    · exact .inr rfl
    · exact .inl rfl

/-- The arguments of a call in which a comment stands between the first two. -/
def ofThree : ArgumentList where
  opening := .ofToken "operator" "" "("
  inner := [.ofToken "name" "" "a", .ofToken "operator" "" ",", .ofToken "comment" " " "# of three",
    .ofToken "name" "\n" "b", .ofToken "operator" "" ",", .ofToken "name" " " "c"]
  closing := .ofToken "operator" "" ")"
  opens := rfl
  closes := rfl
  grammatical := .inl (.more rfl rfl (.more rfl rfl (.last rfl)))

theorem first_of_three_swapped :
    Rule.proposals [] (.alone "argument_list" ofThree.children) = [.children ofThree.swapped] ∧
      Node.codeAll ofThree.swapped = "(None, # of three\nb, c)" :=
  ⟨(proposals_argument_list ofThree [] rfl rfl).1.mpr fun _ => .inl (by decide), by decide⟩

/-- The arguments of a call with a comma behind the second and last one. -/
def ofTwo : ArgumentList where
  opening := .ofToken "operator" "" "("
  inner := [.ofToken "name" "" "a", .ofToken "operator" "" ",", .ofToken "name" " " "b",
    .ofToken "operator" "" ","]
  closing := .ofToken "operator" "" ")"
  opens := rfl
  closes := rfl
  grammatical := .inl (.more rfl rfl (.more rfl rfl .none))

/-- With a comma behind the last one, two arguments are taken for three. -/
theorem first_of_two_swapped :
    ofTwo.arguments.length = 2 ∧ ofTwo.expected = [] ∧
      Rule.proposals [] (.alone "argument_list" ofTwo.children) = [.children ofTwo.swapped] ∧
      Node.codeAll ofTwo.swapped = "(None, b,)" :=
  ⟨by decide, if_neg (by decide), (proposals_eq_ite ofTwo [] rfl rfl).trans (if_pos (by decide)),
    by decide⟩

end ArgumentList

/-! What follows the sign of an assignment. -/

/-- Whether a node is the sign of an assignment. -/
def Node.isEquals (node : Node) : Bool :=
  node.kind == "operator" && node.value? == some "="

/-- What replaces a value: `7` for `None`, and `None` for anything else. -/
def Rule.withoutValue (node : Node) : Node :=
  node.standIn (sentinel node "7").1 (sentinel node "7").2

/-- An assignment: what is assigned to, the sign, comments and line continuations, the value, and
what comes behind it. -/
structure Assignment where
  target : List Node
  equals : Node
  extras : List Node
  value : Node
  behind : List Node
  isTarget : ∀ node ∈ target, node.isEquals = false
  isSign : equals.isEquals = true
  areExtras : ∀ node ∈ extras, node.isExtra = true
  isValue : value.isExtra = false

namespace Assignment

variable (assignment : Assignment)

def children : List Node :=
  assignment.target ++ assignment.equals ::
    (assignment.extras ++ assignment.value :: assignment.behind)

/-- The children with another value. -/
def expected : List Node :=
  assignment.target ++ assignment.equals ::
    (assignment.extras ++ Rule.withoutValue assignment.value :: assignment.behind)

end Assignment

namespace Rule

theorem isExtra_withoutValue (node : Node) : (withoutValue node).isExtra = false := by
  unfold withoutValue sentinel
  split <;> rfl

theorem assignedValue_eq {target rest : List Node} {equals next : Node}
    (isTarget : ∀ node ∈ target, node.isEquals = false) (isSign : equals.isEquals = true)
    (context : RuleContext) :
    assignedValue (target ++ equals :: next :: rest) context =
      some (target ++ equals :: withoutValue next :: rest) := by
  have none : target.findIdx? Node.isEquals = none := List.findIdx?_eq_none_iff.mpr isTarget
  have place : (target ++ equals :: next :: rest).findIdx? (fun child : Node =>
      child.kind == "operator" && child.value? == some "=") = some target.length := by
    change (target ++ equals :: next :: rest).findIdx? Node.isEquals = _
    rw [List.findIdx?_append, none, List.findIdx?_cons, isSign]
    simp
  have found : (target ++ equals :: next :: rest)[target.length + 1]? = some next := by
    rw [List.getElem?_append_right (by omega), Nat.add_sub_cancel_left]
    rfl
  simp only [assignedValue, place, found, Option.bind_eq_bind, Option.bind_some, Option.pure_def]
  rw [swapAt_eq found, List.set_append_right _ _ (by omega), Nat.add_sub_cancel_left]
  rfl

end Rule

namespace Assignment

variable {assignment : Assignment} {first : Node} {rest : List Node}

/-- What is next to the sign gives way: the value, or the first of what stands in front of it. -/
theorem proposals_eq_swapped
    (isNext : assignment.extras ++ assignment.value :: assignment.behind = first :: rest)
    (synonyms : List String) {context : RuleContext} (isKind : context.spot.kind = "assignment")
    (isAssignment : context.spot.children = assignment.children) :
    Rule.proposals synonyms context =
      [.children (assignment.target ++ assignment.equals :: Rule.withoutValue first :: rest)] := by
  rw [Rule.proposals_eq rfl isKind, isAssignment, children, isNext,
    Rule.assignedValue_eq assignment.isTarget assignment.isSign]
  rfl

theorem codeAll_expected (none : assignment.extras = []) :
    Node.codeAll assignment.expected =
      Node.codeAll assignment.target ++ assignment.equals.code ++ assignment.value.trivia ++
        (Rule.sentinel assignment.value "7").2 ++ Node.codeAll assignment.behind := by
  rw [expected, none, Node.codeAll_append]
  simp only [List.nil_append, Node.codeAll, Rule.withoutValue, Node.standIn, Node.leaf, Node.code,
    String.append_assoc]

/-- A comment or line continuation in front of the value gives way in its place. -/
theorem proposals_of_extras {more : List Node} (isExtras : assignment.extras = first :: more)
    (synonyms : List String) {context : RuleContext} (isKind : context.spot.kind = "assignment")
    (isAssignment : context.spot.children = assignment.children) :
    Rule.proposals synonyms context =
      [.children (assignment.target ++ assignment.equals :: Rule.withoutValue first ::
        (more ++ assignment.value :: assignment.behind))] :=
  proposals_eq_swapped (by rw [isExtras, List.cons_append]) synonyms isKind isAssignment

theorem expected_ne_of_extras {more : List Node} (isExtras : assignment.extras = first :: more) :
    assignment.target ++ assignment.equals :: Rule.withoutValue first ::
      (more ++ assignment.value :: assignment.behind) ≠ assignment.expected := by
  -- behind the sign there is the replacement on one side and what it replaces on the other
  intro same
  rw [expected, isExtras] at same
  obtain ⟨-, same⟩ := List.cons.inj (List.append_cancel_left same)
  obtain ⟨isFirst, -⟩ := List.cons.inj same
  have isExtra := assignment.areExtras first (isExtras ▸ List.mem_cons_self)
  rw [← isFirst, Rule.isExtra_withoutValue] at isExtra
  contradiction

/-- The value of an assignment is replaced exactly if nothing stands between the sign and the value.
Otherwise the first comment or line continuation there is. -/
theorem proposals_assignment (assignment : Assignment) (synonyms : List String)
    {context : RuleContext} (isKind : context.spot.kind = "assignment")
    (isAssignment : context.spot.children = assignment.children) :
    (Rule.proposals synonyms context = [.children assignment.expected] ↔
      assignment.extras = []) ∧
    (assignment.extras = [] → Node.codeAll assignment.expected =
      Node.codeAll assignment.target ++ assignment.equals.code ++ assignment.value.trivia ++
        (Rule.sentinel assignment.value "7").2 ++ Node.codeAll assignment.behind) ∧
    (∀ first more, assignment.extras = first :: more →
      Rule.proposals synonyms context =
        [.children (assignment.target ++ assignment.equals :: Rule.withoutValue first ::
          (more ++ assignment.value :: assignment.behind))]) := by
  refine ⟨⟨fun isExpected => ?_, fun none => ?_⟩, codeAll_expected,
    fun first more isExtras => proposals_of_extras isExtras synonyms isKind isAssignment⟩
  · cases isExtras : assignment.extras with
    | nil => rfl
    | cons first more =>
      rw [proposals_of_extras isExtras synonyms isKind isAssignment] at isExpected
      obtain ⟨isChildren, -⟩ := List.cons.inj isExpected
      exact absurd (Proposal.children.inj isChildren) (expected_ne_of_extras isExtras)
  · have isNext : assignment.extras ++ assignment.value :: assignment.behind =
        assignment.value :: assignment.behind := by
      rw [none, List.nil_append]
    rw [proposals_eq_swapped isNext synonyms isKind isAssignment, expected, none, List.nil_append]

/-- An assignment of `None` to a name with a type. -/
def ofNone : Assignment where
  target := [.ofToken "name" "" "x", .ofToken "operator" "" ":", .ofToken "type" " " "int"]
  equals := .ofToken "operator" " " "="
  extras := []
  value := .ofToken "keyword" " " "None"
  behind := []
  isTarget := by decide
  isSign := rfl
  areExtras := nofun
  isValue := rfl

theorem none_replaced :
    Rule.proposals [] (.alone "assignment" ofNone.children) = [.children ofNone.expected] ∧
      Node.codeAll ofNone.expected = "x: int = 7" :=
  have replaced := @proposals_assignment ofNone [] (.alone "assignment" ofNone.children) rfl rfl
  ⟨replaced.1.mpr rfl, (replaced.2.1 rfl).trans (by decide)⟩

/-- An assignment that goes on in the next line. -/
def ofTwoLines : Assignment where
  target := [.ofToken "name" "" "x"]
  equals := .ofToken "operator" " " "="
  extras := [.ofToken "line_continuation" " " "\\\n"]
  value := .ofToken "number" "    " "1"
  behind := []
  isTarget := by decide
  isSign := rfl
  areExtras := by decide
  isValue := rfl

/-- The end of the line is replaced and the value stays. -/
theorem end_of_line_replaced :
    Rule.proposals [] (.alone "assignment" ofTwoLines.children) ≠ [.children ofTwoLines.expected] ∧
    ∃ new, Rule.proposals [] (.alone "assignment" ofTwoLines.children) = [.children new] ∧
      Node.codeAll ofTwoLines.children = "x = \\\n    1" ∧ Node.codeAll new = "x = None    1" := by
  have made : Rule.proposals [] (.alone "assignment" ofTwoLines.children) = _ :=
    proposals_of_extras rfl [] rfl rfl
  refine ⟨fun same => ?_, _, made, by decide, by decide⟩
  obtain ⟨isChildren, -⟩ := List.cons.inj (made.symm.trans same)
  exact expected_ne_of_extras rfl (Proposal.children.inj isChildren)

end Assignment

end MutationTesting
