import MutationTesting.Glob.Pattern
/-! Texts read as patterns. A text without brackets and without two stars side by side is read
character by character, and its pattern matches the text itself. A text without stars matches texts of
one length only, and with a bracket in it these are shorter than it is. -/
namespace MutationTesting.Glob

/-- A text that is read character by character. -/
structure IsSimple (cs : List Char) : Prop where
  noBracket : '[' ∉ cs
  noStars : ¬ ['*', '*'] <:+: cs

/-- The token of a character that is read by itself. -/
def Token.ofChar (c : Char) : Token :=
  if c = '?' then .anyChar else if c = '*' then .anySequence else .char c

/-- The pattern that a simple text denotes. -/
def Pattern.ofSimple (cs : List Char) : Pattern :=
  ⟨cs.map Token.ofChar⟩

section Simple

variable {c : Char} {cs rest : List Char} {limit position : Nat} {before? : Option Char}
  {tokens : List Token}

theorem IsSimple.of_infix {part : List Char} (simple : IsSimple cs) (isPart : part <:+: cs) :
    IsSimple part := by
  constructor
  · intro member
    exact simple.noBracket (isPart.mem member)
  · intro stars
    exact simple.noStars (stars.trans isPart)

theorem parseFrom_cons (noBracket : c ≠ '[') (apart : c = '*' → rest.head? ≠ some '*') :
    parseFrom (limit + 1) position before? tokens (c :: rest) =
      parseFrom limit (position + 1) (some c) (tokens ++ [.ofChar c]) rest := by
  by_cases isQuestion : c = '?'
  · subst isQuestion
    rw [parseFrom]
    rfl
  · by_cases isStar : c = '*'
    · subst isStar
      have one : rest.takeWhile (· == '*') = [] ∧ rest.dropWhile (· == '*') = rest := by
        cases rest with
        | nil => simp
        | cons d rest =>
          have other : d ≠ '*' := by simpa using apart rfl
          simp [other]
      rw [parseFrom]
      simp only [one, List.length_nil]
      rfl
    · rw [parseFrom]
      · simp [Token.ofChar, isQuestion, isStar]
      · exact isQuestion
      · exact isStar
      · exact noBracket

theorem parseFrom_append (simple : IsSimple cs) (limit position : Nat) (before? : Option Char)
    (tokens : List Token) (rest : List Char) (apart : cs.getLast? = some '*' → rest.head? ≠ some '*') :
    parseFrom (cs.length + limit) position before? tokens (cs ++ rest) =
      parseFrom limit (position + cs.length) (cs.getLast?.or before?) (tokens ++ cs.map .ofChar)
        rest := by
  induction cs generalizing position before? tokens with
  | nil => simp
  | cons c cs ih =>
    have noBracket : c ≠ '[' := by
      rintro rfl
      exact simple.noBracket List.mem_cons_self
    have next : c = '*' → (cs ++ rest).head? ≠ some '*' := by
      rintro rfl
      cases cs with
      | nil => simpa using apart
      | cons d cs =>
        intro isStar
        obtain rfl := Option.some.inj isStar
        exact simple.noStars ⟨[], cs, rfl⟩
    have later : cs.getLast? = some '*' → rest.head? ≠ some '*' := by
      intro isStar
      apply apart
      rw [List.getLast?_cons, isStar]
      rfl
    have step := ih (simple.of_infix (List.suffix_cons c cs).isInfix) (position + 1) (some c)
      (tokens ++ [.ofChar c]) later
    rw [List.length_cons, Nat.add_right_comm, List.cons_append, parseFrom_cons noBracket next, step]
    rw [List.getLast?_cons]
    cases cs.getLast? <;> simp [Nat.add_comm, Nat.add_left_comm]

theorem parse_simple (simple : IsSimple cs) :
    Pattern.parse (String.ofList cs) = .ok (.ofSimple cs) := by
  have read := parseFrom_append simple 0 0 none [] [] (by simp)
  rw [Nat.add_zero, List.append_nil] at read
  rw [Pattern.parse, String.toList_ofList, read]
  rfl

theorem parse_directories : Pattern.parse "**" = .ok ⟨[.anyDirectories]⟩ :=
  rfl

theorem parseFrom_directories (back : List Char) :
    parseFrom (limit + 1) position (some '/') tokens ('*' :: '*' :: '/' :: back) =
      parseFrom limit (position + 3) (some '/') (pushDirectories tokens) back :=
  rfl

/-- Two stars between slashes and simple texts around them denote a pattern. -/
theorem parse_around {front back : List Char} (simple : IsSimple (front ++ ['/']))
    (isSimple : IsSimple back) :
    ∃ pattern,
      Pattern.parse (String.ofList (front ++ '/' :: '*' :: '*' :: '/' :: back)) = .ok pattern := by
  have first := parseFrom_append simple (back.length + 2 + 1) 0 none []
    ('*' :: '*' :: '/' :: back) (by simp)
  have last (position : Nat) (tokens : List Token) :=
    parseFrom_append isSimple 2 position (some '/') tokens [] (by simp)
  rw [List.getLast?_concat, Option.some_or, parseFrom_directories] at first
  simp only [List.append_nil] at last
  rw [last, List.append_assoc, List.singleton_append] at first
  have length : (front ++ '/' :: '*' :: '*' :: '/' :: back).length =
      (front ++ ['/']).length + (back.length + 2 + 1) := by
    simp only [List.length_append, List.length_cons, List.length_nil]
    omega
  rw [Pattern.parse, String.toList_ofList, length, first]
  exact ⟨_, rfl⟩

theorem matchTokens_ofChar (cs : List Char) : matchTokens (cs.map .ofChar) cs = true := by
  induction cs with
  | nil => rfl
  | cons c cs ih =>
    rw [List.map_cons, Token.ofChar]
    split
    · exact ih
    · split
      · have behind : cs ∈ ends (c :: cs) := by
          cases cs <;> simp [ends]
        exact List.any_eq_true.mpr ⟨cs, behind, ih⟩
      · simp [matchTokens, ih]

theorem Pattern.isMatch_ofSimple (cs : List Char) : (ofSimple cs).isMatch (String.ofList cs) = true := by
  rw [isMatch, String.toList_ofList]
  exact matchTokens_ofChar cs

theorem Pattern.isRecursive_ofSimple (cs : List Char) : (ofSimple cs).isRecursive = false := by
  rw [isRecursive, List.contains_eq_mem, decide_eq_false_iff_not]
  intro member
  obtain ⟨c, -, same⟩ := List.mem_map.mp member
  unfold Token.ofChar at same
  split at same
  · contradiction
  · split at same <;> contradiction

theorem Token.char?_ofChar (c : Char) :
    (ofChar c).char? = if c = '?' ∨ c = '*' then none else some c := by
  unfold ofChar
  by_cases isQuestion : c = '?'
  · simp [isQuestion, char?]
  · by_cases isStar : c = '*' <;> simp [isQuestion, isStar, char?]

theorem Pattern.literal?_ofSimple (cs : List Char) :
    (ofSimple cs).literal? = some (String.ofList cs) ∨
      (ofSimple cs).literal? = none ∧ ∃ c ∈ cs, c = '?' ∨ c = '*' := by
  unfold literal? ofSimple
  induction cs with
  | nil => exact .inl rfl
  | cons c cs ih =>
    rw [List.map_cons, List.mapM_cons, Token.char?_ofChar]
    split
    · rename_i isWildcard
      exact .inr ⟨rfl, c, List.mem_cons_self, isWildcard⟩
    · obtain isLiteral | ⟨noLiteral, d, member, isWildcard⟩ := ih
      · left
        cases found : (cs.map Token.ofChar).mapM Token.char? with
        | none => simp [found] at isLiteral
        | some ds =>
          rw [found] at isLiteral
          have same : ds = cs := String.ofList_injective (Option.some.inj isLiteral)
          subst same
          rfl
      · right
        refine ⟨?_, d, List.mem_cons_of_mem c member, isWildcard⟩
        cases found : (cs.map Token.ofChar).mapM Token.char? with
        | none => rfl
        | some ds => simp [found] at noLiteral

end Simple

section Single

/-! Texts without stars. -/

/-- Whether a token matches one character. -/
def Token.isSingle : Token → Bool
  | .anySequence | .anyDirectories => false
  | _ => true

theorem length_of_matchTokens {tokens : List Token} {cs : List Char}
    (single : ∀ token ∈ tokens, token.isSingle = true) (fits : matchTokens tokens cs = true) :
    cs.length = tokens.length := by
  induction tokens generalizing cs with
  | nil => simpa [matchTokens] using fits
  | cons token tokens ih =>
    obtain ⟨isSingle, others⟩ := List.forall_mem_cons.mp single
    have further {rest : List Char} (fits : matchTokens tokens rest = true) :
        rest.length + 1 = tokens.length + 1 := by
      rw [ih others fits]
    cases token with
    | anySequence => contradiction
    | anyDirectories => contradiction
    | char d =>
      cases cs with
      | nil => contradiction
      | cons c cs =>
        rw [matchTokens, Bool.and_eq_true] at fits
        exact further fits.2
    | anyChar =>
      cases cs with
      | nil => contradiction
      | cons c cs => exact further fits
    | within sets =>
      cases cs with
      | nil => contradiction
      | cons c cs =>
        rw [matchTokens, Bool.and_eq_true] at fits
        exact further fits.2
    | except sets =>
      cases cs with
      | nil => contradiction
      | cons c cs =>
        rw [matchTokens, Bool.and_eq_true] at fits
        exact further fits.2

theorem eq_of_splitBracket? {cs before after : List Char}
    (found : splitBracket? cs = some (before, after)) : cs = before ++ ']' :: after := by
  induction cs generalizing before with
  | nil => contradiction
  | cons c cs ih =>
    unfold splitBracket? at found
    split at found
    · contradiction
    · rename_i same
      obtain ⟨rfl, rfl⟩ := List.cons.inj same
      obtain ⟨rfl, rfl⟩ := Prod.mk.inj (Option.some.inj found)
      rfl
    · rename_i same
      obtain ⟨rfl, rfl⟩ := List.cons.inj same
      obtain ⟨⟨inner, rest⟩, isRest, pair⟩ := Option.map_eq_some_iff.mp found
      obtain ⟨rfl, rfl⟩ := Prod.mk.inj pair
      rw [ih isRest, List.cons_append]

theorem bracket?_spec {cs rest : List Char} {token : Token} {taken : Nat}
    (found : bracket? cs = some (token, taken, rest)) :
    token.isSingle = true ∧ token.char? = none ∧ rest.length + 2 ≤ cs.length ∧ rest <:+ cs := by
  have behind (lead : List Char) {others text : List Char}
      (isSplit : splitBracket? text = some (others, rest)) :
      rest.length + 1 ≤ text.length ∧ rest <:+ lead ++ text := by
    obtain rfl := eq_of_splitBracket? isSplit
    constructor
    · simp only [List.length_append, List.length_cons]
      omega
    · exact ⟨lead ++ (others ++ [']']), by simp⟩
  unfold bracket? at found
  split at found
  · rename_i first text
    obtain ⟨⟨others, after⟩, isSplit, triple⟩ := Option.map_eq_some_iff.mp found
    obtain ⟨rfl, same⟩ := Prod.mk.inj triple
    obtain ⟨-, rfl⟩ := Prod.mk.inj same
    obtain ⟨shorter, isSuffix⟩ := behind ['!', first] isSplit
    refine ⟨rfl, rfl, ?_, isSuffix⟩
    simp only [List.length_cons]
    omega
  · contradiction
  · rename_i first text _ _
    obtain ⟨⟨others, after⟩, isSplit, triple⟩ := Option.map_eq_some_iff.mp found
    obtain ⟨rfl, same⟩ := Prod.mk.inj triple
    obtain ⟨-, rfl⟩ := Prod.mk.inj same
    obtain ⟨shorter, isSuffix⟩ := behind [first] isSplit
    refine ⟨rfl, rfl, ?_, isSuffix⟩
    simp only [List.length_cons]
    omega
  · contradiction

/-- Tokens that stand for one character each, fewer than there are characters where a set is among
them. -/
structure ReadsSingle (cs : List Char) (tokens : List Token) : Prop where
  single : ∀ token ∈ tokens, token.isSingle = true
  length : tokens.length ≤ cs.length
  bracket : '[' ∈ cs → tokens.length < cs.length ∧ ∃ token ∈ tokens, token.char? = none

theorem ReadsSingle.cons {c : Char} {cs : List Char} {token : Token} {tokens : List Token}
    (noBracket : c ≠ '[') (single : token.isSingle = true) (reads : ReadsSingle cs tokens) :
    ReadsSingle (c :: cs) (token :: tokens) := by
  constructor
  · exact List.forall_mem_cons.mpr ⟨single, reads.single⟩
  · exact Nat.succ_le_succ reads.length
  · intro member
    obtain rfl | member := List.mem_cons.mp member
    · contradiction
    · obtain ⟨shorter, token, isToken, wildcard⟩ := reads.bracket member
      exact ⟨Nat.succ_lt_succ shorter, token, List.mem_cons_of_mem _ isToken, wildcard⟩

theorem ReadsSingle.set {cs rest : List Char} {token : Token} {tokens : List Token}
    (single : token.isSingle = true) (wildcard : token.char? = none)
    (longer : rest.length + 2 ≤ cs.length) (reads : ReadsSingle rest tokens) :
    ReadsSingle ('[' :: cs) (token :: tokens) := by
  have atMost := reads.length
  constructor
  · exact List.forall_mem_cons.mpr ⟨single, reads.single⟩
  · simp only [List.length_cons]
    omega
  · intro _
    refine ⟨?_, token, List.mem_cons_self, wildcard⟩
    simp only [List.length_cons]
    omega

theorem parseFrom_single {limit position : Nat} {before? : Option Char} {tokens found : List Token}
    {cs : List Char} (noStar : '*' ∉ cs) (enough : cs.length ≤ limit)
    (parsed : parseFrom limit position before? tokens cs = .ok found) :
    ∃ further, found = tokens ++ further ∧ ReadsSingle cs further := by
  have none {tokens : List Token} : ∃ further, tokens = tokens ++ further ∧ ReadsSingle [] further :=
    ⟨[], by simp, nofun, Nat.le_refl _, nofun⟩
  induction limit generalizing position before? tokens cs with
  | zero =>
    obtain rfl := List.eq_nil_of_length_eq_zero (Nat.le_zero.mp enough)
    obtain rfl := Except.ok.inj parsed
    exact none
  | succ limit ih =>
    cases cs with
    | nil =>
      obtain rfl := Except.ok.inj parsed
      exact none
    | cons c cs =>
      have noStars := List.not_mem_of_not_mem_cons noStar
      have isOther : c ≠ '*' := (List.ne_of_not_mem_cons noStar).symm
      have shorter : cs.length ≤ limit := Nat.le_of_succ_le_succ enough
      by_cases isBracket : c = '['
      · subst isBracket
        rw [parseFrom] at parsed
        split at parsed
        · rename_i token taken rest isSet
          obtain ⟨isSingle, wildcard, longer, isSuffix⟩ := bracket?_spec isSet
          have noStarsLater : '*' ∉ rest := fun member => noStars (isSuffix.mem member)
          obtain ⟨further, rfl, reads⟩ := ih noStarsLater (by omega) parsed
          exact ⟨token :: further, by simp, .set isSingle wildcard longer reads⟩
        · contradiction
      · rw [parseFrom_cons isBracket fun isStar => absurd isStar isOther] at parsed
        obtain ⟨further, rfl, reads⟩ := ih noStars shorter parsed
        refine ⟨.ofChar c :: further, by simp, reads.cons isBracket ?_⟩
        unfold Token.ofChar
        split
        · rfl
        · rfl

theorem parse_single {cs : List Char} {pattern : Pattern} (noStar : '*' ∉ cs)
    (parsed : Pattern.parse (String.ofList cs) = .ok pattern) : ReadsSingle cs pattern.tokens := by
  rw [Pattern.parse, String.toList_ofList] at parsed
  cases found : parseFrom cs.length 0 none [] cs with
  | error error =>
    rw [found] at parsed
    contradiction
  | ok tokens =>
    rw [found] at parsed
    obtain rfl := Except.ok.inj parsed
    obtain ⟨further, same, reads⟩ := parseFrom_single noStar (Nat.le_refl _) found
    rw [List.nil_append] at same
    rwa [same]

variable {cs : List Char} {pattern : Pattern}

theorem ReadsSingle.isRecursive (reads : ReadsSingle cs pattern.tokens) :
    pattern.isRecursive = false := by
  rw [Pattern.isRecursive, List.contains_eq_mem, decide_eq_false_iff_not]
  intro member
  exact nomatch reads.single _ member

theorem ReadsSingle.literal? (reads : ReadsSingle cs pattern.tokens) (isBracket : '[' ∈ cs) :
    pattern.literal? = none := by
  obtain ⟨-, token, isToken, wildcard⟩ := reads.bracket isBracket
  obtain ⟨front, back, shape⟩ := List.append_of_mem isToken
  rw [Pattern.literal?, shape, List.mapM_append, List.mapM_cons, wildcard]
  cases front.mapM Token.char? <;> rfl

theorem ReadsSingle.ne_of_isMatch {name : String} (reads : ReadsSingle cs pattern.tokens)
    (isBracket : '[' ∈ cs) (fits : pattern.isMatch name = true) : name.toList ≠ cs := by
  have length := length_of_matchTokens reads.single fits
  have shorter := (reads.bracket isBracket).1
  intro same
  rw [same] at length
  omega

end Single

end MutationTesting.Glob
