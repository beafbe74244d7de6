import MutationTesting.Error
/-! Patterns for names and paths. A question mark stands for a character, a star for any
characters, brackets for one of a set of characters; two stars stand for any directories and have
to be a component of their own. -/
namespace MutationTesting.Glob

/-- Characters between brackets: one, or those between two. -/
inductive CharSet where
  | one (c : Char)
  | range (first last : Char)
  deriving Repr, DecidableEq

/-- A part of a pattern. -/
inductive Token where
  | char (c : Char)
  | anyChar
  | anySequence
  | anyDirectories
  | within (sets : List CharSet)
  | except (sets : List CharSet)
  deriving Repr, DecidableEq

structure Pattern where
  tokens : List Token
  deriving Repr, DecidableEq

/-- The sets of characters that a text between brackets denotes. -/
def charSets : List Char → List CharSet
  | a :: '-' :: b :: rest => .range a b :: charSets rest
  | c :: rest => .one c :: charSets rest
  | [] => []

/-- The text up to the first closing bracket and the text after it. -/
def splitBracket? : List Char → Option (List Char × List Char)
  | [] => none
  | ']' :: rest => some ([], rest)
  | c :: rest => (splitBracket? rest).map fun (before, after) => (c :: before, after)

/-- The set after an opening bracket, the number of its characters, and the rest. The first
character of a set may be a closing bracket. -/
def bracket? : List Char → Option (Token × Nat × List Char)
  | '!' :: first :: rest =>
    (splitBracket? rest).map fun (others, rest) =>
      (.except (charSets (first :: others)), others.length + 4, rest)
  | '!' :: [] => none
  | first :: rest =>
    (splitBracket? rest).map fun (others, rest) =>
      (.within (charSets (first :: others)), others.length + 3, rest)
  | [] => none

/-- Adds a token for directories, unless the last one, with others before it, is such a token. -/
def pushDirectories (tokens : List Token) : List Token :=
  if 1 < tokens.length ∧ tokens.getLast? = some .anyDirectories then tokens
  else tokens ++ [.anyDirectories]

def wildcardReason : String :=
  "wildcards are either regular \x60*\x60 or recursive \x60**\x60"

def componentReason : String :=
  "recursive wildcards must form a single path component"

def rangeReason : String :=
  "invalid range pattern"

/-- What two stars lead to: the length of what they take and the rest. `before?` is the character
in front of them, at whose place `position` the stars stand. -/
def directories (position : Nat) (before? : Option Char) (rest : List Char) :
    Except PatternError (Nat × List Char) :=
  match before? with
  | some c => if c = '/' then behind else .error ⟨position - 1, componentReason⟩
  | none => behind
where
  behind : Except PatternError (Nat × List Char) :=
    match rest with
    | [] => .ok (2, [])
    | '/' :: rest => .ok (3, rest)
    | _ => .error ⟨position + 2, componentReason⟩

/-- The tokens of a text from a place on; `tokens` are those before it. Each token takes a
character at least, so `limit` is the number of those left. -/
def parseFrom (limit : Nat) (position : Nat) (before? : Option Char) (tokens : List Token)
    (cs : List Char) : Except PatternError (List Token) :=
  match limit, cs with
  | 0, _ => .ok tokens
  | _, [] => .ok tokens
  | limit + 1, '?' :: rest => parseFrom limit (position + 1) (some '?') (tokens ++ [.anyChar]) rest
  | limit + 1, '*' :: rest =>
    let stars := 1 + (rest.takeWhile (· == '*')).length
    let rest := rest.dropWhile (· == '*')
    if 2 < stars then .error ⟨position + 2, wildcardReason⟩
    else if stars = 2 then
      match directories position before? rest with
      | .error error => .error error
      | .ok (taken, rest) =>
        parseFrom limit (position + taken) (some (if taken = 2 then '*' else '/'))
          (pushDirectories tokens) rest
    else parseFrom limit (position + 1) (some '*') (tokens ++ [.anySequence]) rest
  | limit + 1, '[' :: rest =>
    match bracket? rest with
    | some (token, taken, rest) =>
      parseFrom limit (position + taken) (some ']') (tokens ++ [token]) rest
    | none => .error ⟨position, rangeReason⟩
  | limit + 1, c :: rest => parseFrom limit (position + 1) (some c) (tokens ++ [.char c]) rest

def Pattern.parse (text : String) : Except PatternError Pattern :=
  let cs := text.toList
  (parseFrom cs.length 0 none [] cs).map Pattern.mk

def CharSet.has (c : Char) : CharSet → Bool
  | one d => c == d
  | range first last => first ≤ c && c ≤ last

/-- All ends of a text, from the whole text to the empty one. -/
def ends : List Char → List (List Char)
  | [] => [[]]
  | c :: rest => (c :: rest) :: ends rest

/-- The ends of a text at which a directory starts, and the empty one. -/
def directoryEnds : List Char → List (List Char)
  | [] => [[]]
  | c :: rest => if c = '/' then rest :: directoryEnds rest else directoryEnds rest

def matchTokens : List Token → List Char → Bool
  | [], cs => cs.isEmpty
  | .anySequence :: tokens, cs => (ends cs).any (matchTokens tokens)
  | .anyDirectories :: tokens, cs =>
    matchTokens tokens cs || (directoryEnds cs).any (matchTokens tokens)
  | _ :: _, [] => false
  | .char d :: tokens, c :: cs => c == d && matchTokens tokens cs
  | .anyChar :: tokens, _ :: cs => matchTokens tokens cs
  | .within sets :: tokens, c :: cs => sets.any (CharSet.has c) && matchTokens tokens cs
  | .except sets :: tokens, c :: cs => !sets.any (CharSet.has c) && matchTokens tokens cs

/-- The character that a token stands for, if it is no wildcard. -/
def Token.char? : Token → Option Char
  | char c => some c
  | _ => none

namespace Pattern

def isMatch (pattern : Pattern) (text : String) : Bool :=
  matchTokens pattern.tokens text.toList

/-- The text that a pattern without wildcards denotes. -/
def literal? (pattern : Pattern) : Option String :=
  (pattern.tokens.mapM Token.char?).map String.ofList

/-- Whether a pattern stands for any directories. -/
def isRecursive (pattern : Pattern) : Bool :=
  pattern.tokens.contains .anyDirectories

end Pattern

end MutationTesting.Glob
