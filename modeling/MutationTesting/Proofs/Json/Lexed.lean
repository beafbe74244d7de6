import MutationTesting.Decimal.Numeral
import MutationTesting.Json.Reader
import MutationTesting.Json.Value
/-! What is written for a number or a text is read as one token, whatever follows it. -/
namespace MutationTesting.Json

/-- Digits, one at least. -/
structure IsRun (digits : List Char) : Prop where
  some : digits ≠ []
  all : ∀ c ∈ digits, Decimal.isDigit c = true

/-- A text that no digit begins. -/
def Stops (rest : List Char) : Prop :=
  ∀ c ∈ rest.head?, Decimal.isDigit c = false

/-- A text that does not go on with a number. -/
def Ends (rest : List Char) : Prop :=
  ∀ c ∈ rest.head?, Decimal.isDigit c = false ∧ c ≠ '.' ∧ c ≠ 'e' ∧ c ≠ 'E'

/-- The whole part of a number: digits without a leading zero, or one zero. -/
def IsWhole (digits : List Char) : Prop :=
  IsRun digits ∧ (digits = ['0'] ∨ digits.head? ≠ some '0')

def IsFraction (fraction : List Char) : Prop :=
  fraction = [] ∨ ∃ digits, IsRun digits ∧ fraction = '.' :: digits

def IsExponent (exponent : List Char) : Prop :=
  exponent = [] ∨
    ∃ sign digits, (sign = '+' ∨ sign = '-') ∧ IsRun digits ∧ exponent = 'e' :: sign :: digits

/-- A number as it is written. -/
def IsNumber (digits : List Char) : Prop :=
  ∃ sign whole fraction exponent, (sign = [] ∨ sign = ['-']) ∧ IsWhole whole ∧
    IsFraction fraction ∧ IsExponent exponent ∧ digits = sign ++ (whole ++ fraction ++ exponent)

variable {digits whole fraction exponent rest : List Char}

theorem isRun_zero : IsRun ['0'] :=
  ⟨by simp, by simp [Decimal.isDigit]⟩

theorem Ends.stops (ends : Ends rest) : Stops rest :=
  fun c member => (ends c member).1

theorem digitRun?_append (isRun : IsRun digits) (stops : Stops rest) :
    digitRun? (digits ++ rest) = some (digits, rest) := by
  have taken : (digits ++ rest).takeWhile Decimal.isDigit = digits := by
    rw [List.takeWhile_append_of_pos isRun.all]
    cases rest with
    | nil => simp
    | cons c rest => simp [stops c rfl]
  have dropped : (digits ++ rest).dropWhile Decimal.isDigit = rest := by
    rw [List.dropWhile_append_of_pos isRun.all]
    cases rest with
    | nil => rfl
    | cons c rest => simp [stops c rfl]
  unfold digitRun?
  rw [taken, dropped]
  cases digits with
  | nil => exact absurd rfl isRun.some
  | cons c digits => rfl

theorem whole?_append (isWhole : IsWhole whole) (stops : Stops rest) :
    whole? (whole ++ rest) = some (whole, rest) := by
  obtain ⟨isRun, rfl | nonzero⟩ := isWhole
  · rfl
  · cases whole with
    | nil => exact absurd rfl isRun.some
    | cons c whole =>
      rw [List.cons_append, whole?.eq_2 _ fun other same => nonzero (by simp_all)]
      exact digitRun?_append isRun stops

theorem fraction?_append (isFraction : IsFraction fraction) (stops : Stops rest)
    (noPoint : rest.head? ≠ some '.') : fraction? (fraction ++ rest) = some (fraction, rest) := by
  obtain rfl | ⟨digits, isRun, rfl⟩ := isFraction
  · rw [List.nil_append, fraction?.eq_2 _ fun other same => noPoint (by simp [same])]
  · rw [List.cons_append, fraction?, digitRun?_append isRun stops]
    rfl

theorem exponent?_append (isExponent : IsExponent exponent) (ends : Ends rest) :
    exponent? (exponent ++ rest) = some (exponent, rest) := by
  obtain rfl | ⟨sign, digits, isSign, isRun, rfl⟩ := isExponent
  · rw [List.nil_append]
    cases rest with
    | nil => rfl
    | cons mark rest =>
      obtain ⟨-, -, small, large⟩ := ends mark rfl
      cases rest <;> simp [exponent?, small, large]
  · rw [List.cons_append, List.cons_append, exponent?, if_pos (.inl rfl), if_pos isSign,
      digitRun?_append isRun ends.stops]
    rfl

theorem unsigned?_append (isWhole : IsWhole whole) (isFraction : IsFraction fraction)
    (isExponent : IsExponent exponent) (ends : Ends rest) :
    unsigned? (whole ++ fraction ++ exponent ++ rest) =
      some (whole ++ fraction ++ exponent, rest) := by
  have behindFraction : Stops (exponent ++ rest) ∧ (exponent ++ rest).head? ≠ some '.' := by
    obtain rfl | ⟨sign, digits, -, -, rfl⟩ := isExponent
    · exact ⟨ends.stops, fun point => (ends '.' point).2.1 rfl⟩
    · exact ⟨fun c same => by simp_all; subst same; decide, by simp⟩
  have behindWhole : Stops (fraction ++ (exponent ++ rest)) := by
    obtain rfl | ⟨digits, -, rfl⟩ := isFraction
    · exact behindFraction.1
    · exact fun c same => by simp_all; subst same; decide
  unfold unsigned?
  rw [List.append_assoc, List.append_assoc, whole?_append isWhole behindWhole]
  simp only [Option.bind_eq_bind, Option.bind_some]
  rw [fraction?_append isFraction behindFraction.1 behindFraction.2]
  simp only [Option.bind_some]
  rw [exponent?_append isExponent ends]
  rfl

/-- The first character of a number. -/
def Starts (c : Char) : Prop :=
  c = '-' ∨ Decimal.isDigit c = true
  deriving Decidable

theorem IsWhole.starts (isWhole : IsWhole whole) :
    ∃ c rest, whole = c :: rest ∧ Decimal.isDigit c = true := by
  obtain ⟨⟨some, all⟩, -⟩ := isWhole
  cases whole with
  | nil => exact absurd rfl some
  | cons c rest => exact ⟨c, rest, rfl, all c List.mem_cons_self⟩

theorem IsNumber.starts (isNumber : IsNumber digits) : ∃ c rest, digits = c :: rest ∧ Starts c := by
  obtain ⟨sign, whole, fraction, exponent, rfl | rfl, isWhole, -, -, rfl⟩ := isNumber
  · obtain ⟨c, rest, rfl, isDigit⟩ := isWhole.starts
    exact ⟨c, _, rfl, .inr isDigit⟩
  · exact ⟨'-', _, rfl, .inl rfl⟩

theorem number?_append (isNumber : IsNumber digits) (ends : Ends rest) :
    number? (digits ++ rest) = some (digits, rest) := by
  obtain ⟨sign, whole, fraction, exponent, isSign, isWhole, isFraction, isExponent, rfl⟩ := isNumber
  have read := unsigned?_append isWhole isFraction isExponent ends
  obtain rfl | rfl := isSign
  · obtain ⟨c, more, rfl, isDigit⟩ := isWhole.starts
    rw [List.nil_append, ← read]
    refine number?.eq_2 _ fun other same => ?_
    obtain ⟨rfl, -⟩ := List.cons.inj same
    contradiction
  · rw [List.append_assoc, List.singleton_append, number?, read]
    rfl

theorem first?_number (isNumber : IsNumber digits) (ends : Ends rest) :
    first? (digits ++ rest) = some (.number (String.ofList digits), rest) := by
  have read := number?_append isNumber ends
  obtain ⟨c, more, rfl, starts⟩ := isNumber.starts
  rw [List.cons_append] at read ⊢
  unfold first?
  split
  iterate 10
    rename_i same
    obtain ⟨rfl, -⟩ := List.cons.inj same
    exact absurd starts (by decide)
  rw [read]
  rfl

/-- The two last digits of the escape of a control character. -/
def controlDigits (n : Nat) : List Char :=
  List.replicate (2 - (Text.hexadecimal n).length) '0' ++ Text.hexadecimal n

theorem controlDigits_read : ∀ n : Fin 32, (controlDigits n).length = 2 ∧
    Decimal.digits? 16 ('0' :: '0' :: controlDigits n) = some n.val := by
  decide

theorem string?_escaped (c : Char) (rest : List Char) :
    string? (escaped c ++ rest) =
      (string? rest).map fun (units, rest) => (.char c :: units, rest) := by
  have letter (mark char : Char) (isEscape : escape? mark = some char) (noUnicode : mark ≠ 'u') :
      string? ('\\' :: mark :: rest) =
        (string? rest).map fun (units, rest) => (.char char :: units, rest) := by
    rw [string?.eq_4 _ _ (by simp_all)]
    simp only [isEscape]
    cases string? rest <;> rfl
  simp only [escaped]
  split
  · exact ‹c = _› ▸ letter '"' '"' rfl (by decide)
  split
  · exact ‹c = _› ▸ letter '\\' '\\' rfl (by decide)
  split
  · exact ‹c = _› ▸ letter 'b' '\x08' rfl (by decide)
  split
  · exact ‹c = _› ▸ letter 'f' '\x0c' rfl (by decide)
  split
  · exact ‹c = _› ▸ letter 'n' '\n' rfl (by decide)
  split
  · exact ‹c = _› ▸ letter 'r' '\r' rfl (by decide)
  split
  · exact ‹c = _› ▸ letter 't' '\t' rfl (by decide)
  split
  · rename_i isControl
    obtain ⟨length, read⟩ := controlDigits_read ⟨c.toNat, isControl⟩
    rw [List.append_assoc ['\\', 'u', '0', '0'], ← controlDigits]
    generalize controlDigits c.toNat = digits at length read
    match digits, length with
    | [a, b], _ =>
      have char : Unit16.ofCode c.toNat = .char c := by
        unfold Unit16.ofCode
        rw [if_neg (by omega), Char.ofNat_toNat]
      simp only [List.cons_append, List.nil_append, string?, read, Option.bind_eq_bind,
        Option.bind_some, char]
      cases string? rest <;> rfl
  · rename_i noQuote noBackslash _ _ _ _ _ noControl
    rw [List.singleton_append, string?.eq_5 _ _ (by simpa using noQuote) (by simp_all) (by simp_all),
      if_neg (by simp [noBackslash, noControl])]

theorem string?_append (cs rest : List Char) :
    string? (cs.flatMap escaped ++ '"' :: rest) = some (cs.map .char, rest) := by
  induction cs with
  | nil => rfl
  | cons c cs ih =>
    rw [List.flatMap_cons, List.append_assoc, string?_escaped, ih]
    rfl

theorem joinUnits?_chars (cs : List Char) : joinUnits? (cs.map .char) = some cs := by
  induction cs with
  | nil => rfl
  | cons c cs ih => simp [joinUnits?, ih]

theorem first?_quote (s : String) (rest : List Char) :
    first? ((quote s).toList ++ rest) = some (.string (some s), rest) := by
  have chars : (quote s).toList ++ rest = '"' :: (s.toList.flatMap escaped ++ '"' :: rest) := by
    simp [quote]
  rw [chars, first?, string?_append]
  simp [joinUnits?_chars]

/-- A text that consists of tokens and blanks between them. Each token takes a character at
least. -/
inductive Reads : List Char → List Token → Prop where
  | done : Reads [] []
  | blank {c cs tokens} : isBlank c = true → Reads cs tokens → Reads (c :: cs) tokens
  | token {c cs rest token tokens} : isBlank c = false → first? (c :: cs) = some (token, rest) →
      rest.length ≤ cs.length → Reads rest tokens → Reads (c :: cs) (token :: tokens)

variable {cs : List Char} {tokens : List Token}

theorem Reads.length_le (reads : Reads cs tokens) : tokens.length ≤ cs.length := by
  induction reads with
  | done => exact Nat.le_refl _
  | blank _ _ ih => exact Nat.le_succ_of_le ih
  | token _ _ shorter _ ih => exact Nat.succ_le_succ (Nat.le_trans ih shorter)

theorem Reads.tokensWithin? (reads : Reads cs tokens) {limit : Nat} (enough : tokens.length ≤ limit) :
    tokensWithin? limit cs = some tokens := by
  induction reads generalizing limit with
  | done => cases limit <;> rfl
  | @blank c cs tokens isBlank _ ih =>
    have same : Json.tokensWithin? limit (c :: cs) = Json.tokensWithin? limit cs := by
      cases limit <;> simp [Json.tokensWithin?, isBlank]
    rw [same, ih enough]
  | @token c cs rest token tokens noBlank read _ _ ih =>
    cases limit with
    | zero => contradiction
    | succ limit =>
      have later := ih (Nat.le_of_succ_le_succ enough)
      simp [Json.tokensWithin?, noBlank, read, later]

theorem Reads.tokens? (reads : Reads cs tokens) : tokens? cs = some tokens :=
  reads.tokensWithin? reads.length_le

theorem Reads.append {piece rest : List Char} {token : Token} (some : piece ≠ [])
    (noBlank : ∀ c ∈ piece.head?, isBlank c = false)
    (read : first? (piece ++ rest) = .some (token, rest)) (reads : Reads rest tokens) :
    Reads (piece ++ rest) (token :: tokens) := by
  cases piece with
  | nil => exact absurd rfl some
  | cons c cs => exact .token (noBlank c rfl) read (by simp) reads

end MutationTesting.Json
