import MutationTesting.Decimal.Layout
import MutationTesting.Decimal.Numeral
import MutationTesting.Rule.Basic
import MutationTesting.Text.Search
/-! The rules for Python: those for composite nodes, those for single tokens, and the table of them
all. In a composite node one of the children gives way to a single token. -/
namespace MutationTesting.Rule

/-- The children with a leaf in place of the one at `place`; the leaf keeps the trivia in front
of that child. -/
def swapAt (children : List Node) (place : Nat) (kind value : String) : List Node :=
  children.modify place fun child => child.standIn kind value

/-- The leaf that replaces an expression: `None`, or `number` where the expression is `None`. -/
def sentinel (expression : Node) (number : String) : String × String :=
  if expression.text = "None" then ("number", number) else ("keyword", "None")

/-- Swaps the first `and` or `or`. -/
def booleanOperator (children : List Node) (_ : RuleContext) : Option (List Node) := do
  let place ← children.findIdx? fun child =>
    child.kind == "keyword" && (child.value? == some "and" || child.value? == some "or")
  let operator ← children[place]?
  return swapAt children place "keyword" (if operator.value? = some "and" then "or" else "and")

/-- Replaces the body of a function without a name. -/
def lambdaBody (children : List Node) (_ : RuleContext) : Option (List Node) := do
  let body ← children.getLast?
  let (kind, new) := sentinel body "0"
  return swapAt children (children.length - 1) kind new

/-- Replaces what follows the first `=`. -/
def assignedValue (children : List Node) (_ : RuleContext) : Option (List Node) := do
  let equals ← children.findIdx? fun child =>
    child.kind == "operator" && child.value? == some "="
  let expression ← children[equals + 1]?
  let (kind, new) := sentinel expression "7"
  return swapAt children (equals + 1) kind new

/-- Drops a decorator but for the trivia in front of it, so that the next line stays where it
is. -/
def decorator (children : List Node) (_ : RuleContext) : Option (List Node) :=
  children.head?.map fun first => [first.standIn "decorator" ""]

/-- Replaces an index that is a name. -/
def subscriptIndex (children : List Node) (_ : RuleContext) : Option (List Node) :=
  match children with
  | [_, opening, index, closing] =>
    if opening.value? = some "[" ∧ closing.value? = some "]" ∧ index.kind = "name" then
      some (swapAt children 2 "keyword" "None")
    else none
  | _ => none

/-- Replaces the first argument of a call if it is a name and more than three nodes, arguments
and commas alike, stand between the parentheses. -/
def firstArgument (children : List Node) (_ : RuleContext) : Option (List Node) :=
  match children with
  | opening :: first :: rest =>
    if opening.value? = some "(" ∧ (rest.getLast?.bind Node.value?) = some ")" ∧
        3 < rest.length ∧ first.kind = "name" then
      some (swapAt children 1 "keyword" "None")
    else none
  | _ => none

/-- What is added to a key of a dictionary. -/
def keyMark : String := "XX"

/-- Renames a key in a call of `dict` or of a name that is called like it. -/
def dictionaryKey (children : List Node) (context : RuleContext) : Option (List Node) := do
  let call ← context.lineage[2]?
  let function ← if call.kind = "call" then call.children.head? else none
  let name ← if function.kind = "name" then function.value? else none
  let key ← if name ∈ context.synonyms then children.head? else none
  let value ← key.value?
  return swapAt children 0 "name" (value ++ keyMark)

/-! New values for tokens. Those of a closed set, operators, keywords and names, have one each; a
number grows by one, and the content of a string gets a mark on either side. -/

def operatorReplacements : List (String × String) := [
  ("+", "-"), ("-", "+"), ("*", "/"), ("/", "*"), ("//", "/"), ("%", "/"),
  ("<<", ">>"), (">>", "<<"), ("&", "|"), ("|", "&"), ("^", "&"), ("**", "*"), ("~", ""),
  ("+=", "-="), ("-=", "+="), ("*=", "/="), ("/=", "*="), ("//=", "/="), ("%=", "/="),
  ("<<=", ">>="), (">>=", "<<="), ("&=", "|="), ("|=", "&="), ("^=", "&="), ("**=", "*="),
  ("<", "<="), ("<=", "<"), (">", ">="), (">=", ">"), ("==", "!="), ("!=", "=="), ("<>", "==")]

def keywordReplacements : List (String × String) := [
  ("not", ""), ("is", "is not"), ("in", "not in"), ("break", "continue"),
  ("continue", "break"), ("True", "False"), ("False", "True")]

def nameReplacements : List (String × String) := [
  ("True", "False"), ("False", "True"), ("deepcopy", "copy")]

def operatorMutation (value : String) : Option String :=
  operatorReplacements.lookup value

def keywordMutation (value : String) : Option String :=
  keywordReplacements.lookup value

def nameMutation (value : String) : Option String :=
  nameReplacements.lookup value

open MutationTesting.Decimal

/-- The letters that may end a number: the imaginary unit and the mark of a long integer. -/
def isUnit (c : Char) : Bool :=
  c == 'j' || c == 'J' || c == 'l' || c == 'L'

/-- A number and the unit that ends it. -/
def splitUnit (cs : List Char) : List Char × List Char :=
  match cs.getLast? with
  | some c => if isUnit c then (cs.dropLast, [c]) else (cs, [])
  | none => (cs, [])

/-- The base in which a number is written and its digits. The letters are small and there are no
underscores. A leading zero before further digits, all of them decimal ones, means base eight. -/
def splitBase (cs : List Char) : Nat × List Char :=
  match cs with
  | '0' :: 'o' :: rest => (8, rest)
  | '0' :: 'x' :: rest => (16, rest)
  | '0' :: 'b' :: rest => (2, rest)
  | '0' :: d :: rest => if (d :: rest).all isDigit then (8, d :: rest) else (10, cs)
  | _ => (10, cs)

/-- Numbers with a point or an exponent: an exponent below ten thousandths and from ten
quadrillions on, of two digits at least. -/
def floatLayout : Layout :=
  { plainFrom := -4, plainTo := 15, exponentDigits := 2, tie := .upper }

/-- The sum of a decimal numeral and one, where it is finite. -/
def nextFloat? (cs : List Char) : Option (List Char) :=
  (float? (String.ofList cs)).bind fun x =>
    if isFinite (x + 1.0) then some (floatLayout.render (x + 1.0)).toList else none

/-- The width in bits of the integers that are computed exactly. -/
def integerWidth : Nat := 128

/-- The digits of a number, in small letters and without underscores, and its base, grown by
one: in base ten, whatever the base was. -/
def successor? (base : Nat) (cs : List Char) : Option (List Char) :=
  match word? integerWidth base cs with
  | some n => if n + 1 < Nat.pow 2 integerWidth then some (Nat.toDigits 10 (n + 1)) else none
  | none => if base = 10 then nextFloat? cs else none

/-- A number grown by one, its unit kept. -/
def numberMutation (value : String) : Option String :=
  let (number, unit) := splitUnit value.toList
  let (base, digits) := splitBase ((number.filter (· != '_')).map Char.toLower)
  (successor? base digits).map fun next => String.ofList (next ++ unit)

/-- The characters that delimit a string. -/
def isQuote (c : Char) : Bool :=
  c == '"' || c == '\''

/-- The mark put around the content of a string. -/
def stringMark : List Char := ['X', 'X']

/-- A string with a mark on either side of its content. What stands before the first quote
stays, and a string between triple quotes has no mutation. -/
def stringMutation (value : String) : Option String :=
  let lead := value.toList.takeWhile fun c => !isQuote c
  match value.toList.dropWhile fun c => !isQuote c with
  | '"' :: '"' :: '"' :: _ => none
  | '\'' :: '\'' :: '\'' :: _ => none
  | quote :: c :: rest =>
    let content := (c :: rest).dropLast
    some (String.ofList (lead ++ quote :: stringMark ++ content ++ stringMark ++ [quote]))
  | _ => none

end MutationTesting.Rule

/-! The table of rules for Python. -/
namespace MutationTesting

namespace Rule

/-- Parents below which `in` and `is` stay: the compound operators have rules of their own, and
the header of a loop needs its `in`. -/
def keywordFrozenParents : List String :=
  ["not in", "is not", "for_statement", "for_in_clause"]

def operatorFrozenParents : List String := [
  "parameters", "lambda_parameters", "list_splat", "dictionary_splat", "list_splat_pattern",
  "dictionary_splat_pattern", "splat_pattern", "keyword_separator", "positional_separator",
  "union_pattern", "wildcard_import", "import_from_statement"]

/-- Whether the parent of the node is of one of the kinds. -/
def isBelow (context : RuleContext) (kinds : List String) : Bool :=
  context.parentKind?.any kinds.contains

def keywordRule (value : String) (context : RuleContext) : Option String :=
  if (value = "in" ∨ value = "is") ∧ isBelow context keywordFrozenParents then none
  else keywordMutation value

def operatorRule (value : String) (context : RuleContext) : Option String :=
  if isBelow context operatorFrozenParents then none else operatorMutation value

end Rule

/-- The rules of the kinds of nodes of Python. -/
def pythonRules : List (String × Rule) := [
  ("operator", .value Rule.operatorRule),
  ("keyword", .value Rule.keywordRule),
  ("number", .value fun value _ => Rule.numberMutation value),
  ("string", .value fun value _ => Rule.stringMutation value),
  ("name", .value fun value _ => Rule.nameMutation value),
  ("boolean_operator", .children Rule.booleanOperator),
  ("lambda", .children Rule.lambdaBody),
  ("assignment", .children Rule.assignedValue),
  ("decorator", .children Rule.decorator),
  ("subscript", .children Rule.subscriptIndex),
  ("argument_list", .children Rule.firstArgument),
  ("keyword_argument", .children Rule.dictionaryKey)]

/-- The table for Python; `dict` is always among the names called like it. -/
def RuleTable.python (synonyms : List String) : RuleTable :=
  pythonRules.foldl (fun table (kind, rule) => table.insert kind rule)
    (RuleTable.empty.withSynonyms synonyms)

end MutationTesting
