import MutationTesting.Decimal.Numeral
import MutationTesting.Json.Magnitude
/-! The values of numbers of JSON. Rounding to a significand of 53 bits keeps the order of numbers, so
a word times a power of ten has a value unless their product comes close to the largest one. The word
holds the first digits of a number and is no greater than their value in the power of ten that goes
with it, so that a number has a value if it is not too large. -/
namespace MutationTesting.Json

/-- The multiple of a unit that is nearest to a number, the even one of two equally near ones. -/
def nearest (unit n : Nat) : Nat :=
  (if unit < 2 * (n % unit) ∨ (2 * (n % unit) = unit ∧ n / unit % 2 = 1) then n / unit + 1
    else n / unit) * unit

theorem rounded_eq (n : Nat) : rounded n = nearest (Nat.pow 2 (n.log2 - 52)) n :=
  rfl

variable {unit m n : Nat}

theorem le_nearest (unit n : Nat) : n / unit * unit ≤ nearest unit n := by
  unfold nearest
  split
  · exact Nat.mul_le_mul_right unit (Nat.le_succ _)
  · exact Nat.le_refl _

theorem nearest_le (unit n : Nat) : nearest unit n ≤ (n / unit + 1) * unit := by
  unfold nearest
  split
  · exact Nat.le_refl _
  · exact Nat.mul_le_mul_right unit (Nat.le_succ _)

theorem nearest_mono (le : m ≤ n) : nearest unit m ≤ nearest unit n := by
  obtain less | same := Nat.lt_or_eq_of_le (Nat.div_le_div_right (c := unit) le)
  · calc nearest unit m ≤ (m / unit + 1) * unit := nearest_le unit m
      _ ≤ n / unit * unit := Nat.mul_le_mul_right unit less
      _ ≤ nearest unit n := le_nearest unit n
  · have rest : m % unit ≤ n % unit := by
      have first := Nat.div_add_mod m unit
      have second := Nat.div_add_mod n unit
      rw [same] at first
      omega
    unfold nearest
    rw [same]
    refine Nat.mul_le_mul_right unit ?_
    split
    · rename_i up
      exact Nat.le_of_eq (if_pos (by omega)).symm
    · split
      · exact Nat.le_succ _
      · exact Nat.le_refl _

theorem pow_log2_le (some : n ≠ 0) : Nat.pow 2 n.log2 ≤ n :=
  Nat.log2_self_le some

theorem lt_pow_log2 (n : Nat) : n < Nat.pow 2 (n.log2 + 1) :=
  Nat.lt_log2_self

theorem pow_eq_mul_unit (n : Nat) {power : Nat} (le : n.log2 - 52 ≤ power) :
    Nat.pow 2 power = Nat.pow 2 (power - (n.log2 - 52)) * Nat.pow 2 (n.log2 - 52) :=
  (Nat.pow_sub_mul_pow 2 le).symm

/-- A number is rounded to one between the powers of two around it. -/
theorem pow_log2_le_rounded (some : n ≠ 0) : Nat.pow 2 n.log2 ≤ rounded n := by
  have positive : 0 < Nat.pow 2 (n.log2 - 52) := Nat.pow_pos (by decide)
  have whole := pow_eq_mul_unit n (Nat.sub_le n.log2 52)
  have below : Nat.pow 2 (n.log2 - (n.log2 - 52)) ≤ n / Nat.pow 2 (n.log2 - 52) := by
    rw [Nat.le_div_iff_mul_le positive, ← whole]
    exact pow_log2_le some
  rw [whole, rounded_eq]
  exact Nat.le_trans (Nat.mul_le_mul_right _ below) (le_nearest _ n)

theorem rounded_le_pow_log2 (n : Nat) : rounded n ≤ Nat.pow 2 (n.log2 + 1) := by
  have positive : 0 < Nat.pow 2 (n.log2 - 52) := Nat.pow_pos (by decide)
  have whole := pow_eq_mul_unit n (show n.log2 - 52 ≤ n.log2 + 1 by omega)
  have above : n / Nat.pow 2 (n.log2 - 52) < Nat.pow 2 (n.log2 + 1 - (n.log2 - 52)) := by
    rw [Nat.div_lt_iff_lt_mul positive, ← whole]
    exact lt_pow_log2 n
  rw [whole, rounded_eq]
  exact Nat.le_trans (nearest_le _ n) (Nat.mul_le_mul_right _ above)

theorem rounded_mono (le : m ≤ n) : rounded m ≤ rounded n := by
  obtain zero | some := Nat.eq_zero_or_pos m
  · rw [zero]
    exact Nat.zero_le _
  · have log : m.log2 ≤ n.log2 := by
      refine Nat.le_of_lt_succ ((Nat.pow_lt_pow_iff_right (a := 2) (by decide)).mp ?_)
      exact Nat.lt_of_le_of_lt (pow_log2_le (by omega)) (Nat.lt_of_le_of_lt le (lt_pow_log2 n))
    obtain less | same := Nat.lt_or_eq_of_le log
    · calc rounded m ≤ Nat.pow 2 (m.log2 + 1) := rounded_le_pow_log2 m
        _ ≤ Nat.pow 2 n.log2 := Nat.pow_le_pow_right (by decide) less
        _ ≤ rounded n := pow_log2_le_rounded (by omega)
    · rw [rounded_eq, rounded_eq, same]
      exact nearest_mono le

/-- The number in the middle between the two largest floating-point values. -/
def nearlyLargest : Nat :=
  (Nat.pow 2 54 - 3) * Nat.pow 2 970

/-- The largest word that may stand before a power of ten. -/
def wordLimit (exponent : Nat) : Nat :=
  min (Nat.pow 2 64) (nearlyLargest / Nat.pow 10 exponent)

/-- No such word overflows. The numbers are rounded twice, so this has to be seen from each power. -/
theorem rounded_wordLimit : ∀ k : Fin (largestPower + 1),
    rounded (wordLimit k) * rounded (Nat.pow 10 k) < overflow := by
  decide +kernel

theorem pow_ten_mono {low high : Nat} (le : low ≤ high) : Nat.pow 10 low ≤ Nat.pow 10 high :=
  Nat.pow_le_pow_right (by decide) le

theorem nearlyLargest_lt : nearlyLargest < Nat.pow 10 (largestPower + 1) := by
  decide +kernel

/-- A word times a power of ten has a value up to the middle between the two largest ones. -/
theorem scale?_isSome {word : Nat} {exponent : Int} (isWord : word < Nat.pow 2 64)
    (le : word * Nat.pow 10 exponent.toNat ≤ nearlyLargest) : (scale? word exponent).isSome := by
  unfold scale?
  split
  · rfl
  · split
    · rename_i small
      have words : word ≤ wordLimit exponent.toNat :=
        Nat.le_min.mpr ⟨Nat.le_of_lt isWord,
          (Nat.le_div_iff_mul_le (Nat.pow_pos (by decide))).mpr le⟩
      have less : rounded word * rounded (Nat.pow 10 exponent.toNat) < overflow :=
        Nat.lt_of_le_of_lt (Nat.mul_le_mul_right _ (rounded_mono words))
          (rounded_wordLimit ⟨exponent.toNat, Nat.lt_succ_of_le small⟩)
      rw [if_pos less]
      rfl
    · rename_i large
      have zero : word = 0 := by
        have beyond : nearlyLargest < Nat.pow 10 exponent.toNat :=
          Nat.lt_of_lt_of_le nearlyLargest_lt (pow_ten_mono (Nat.lt_of_not_le large))
        refine Nat.eq_zero_of_not_pos fun positive => ?_
        exact Nat.not_lt.mpr le (Nat.lt_of_lt_of_le beyond (Nat.le_mul_of_pos_left _ positive))
      rw [if_pos zero]
      rfl

open Decimal (isDigit)

/-- Further digits. -/
def Gathered.pushAll (state : Gathered) (digits : List Char) : Gathered :=
  digits.foldl Gathered.push state

variable {state : Gathered} {digits : List Char}

/-- A digit is taken, or it is left out and the word is full. -/
theorem Gathered.push_cases (state : Gathered) (c : Char) :
    (state.full = false ∧ state.word * 10 + (c.toNat - '0'.toNat) < Nat.pow 2 64 ∧
      state.push c = { state with
        word := state.word * 10 + (c.toNat - '0'.toNat)
        read := state.read + 1 }) ∨
    state.push c = { state with skipped := state.skipped + 1, full := true } := by
  unfold push
  dsimp only
  split
  · exact .inr rfl
  · rename_i fits
    rw [not_or, Bool.not_eq_true, Nat.not_le] at fits
    exact .inl ⟨fits.1, fits.2, rfl⟩

theorem Gathered.pushAll_spec (state : Gathered) (digits : List Char)
    (isWord : state.word < Nat.pow 2 64) :
    (state.pushAll digits).word < Nat.pow 2 64 ∧
      (state.pushAll digits).skipped ≤ state.skipped + digits.length := by
  induction digits generalizing state with
  | nil => exact ⟨isWord, Nat.le_refl _⟩
  | cons c rest ih =>
    rw [pushAll, List.foldl_cons, ← pushAll, List.length_cons]
    obtain ⟨-, fits, taken⟩ | left := state.push_cases c
    · obtain ⟨word, skipped⟩ := ih (state.push c) (by rw [taken]; exact fits)
      refine ⟨word, Nat.le_trans skipped ?_⟩
      rw [taken]
      exact Nat.add_le_add_left (Nat.le_succ _) _
    · obtain ⟨word, skipped⟩ := ih (state.push c) (by rw [left]; exact isWord)
      refine ⟨word, Nat.le_trans skipped (Nat.le_of_eq ?_)⟩
      rw [left]
      show state.skipped + 1 + rest.length = _
      omega

theorem Gathered.pushAll_full (full : state.full = true) (digits : List Char) :
    (state.pushAll digits).word = state.word ∧ (state.pushAll digits).read = state.read := by
  induction digits generalizing state with
  | nil => exact ⟨rfl, rfl⟩
  | cons c rest ih =>
    rw [pushAll, List.foldl_cons, ← pushAll]
    obtain ⟨notFull, -, -⟩ | left := state.push_cases c
    · rw [full] at notFull
      contradiction
    · rw [left]
      exact ih rfl

/-- The word holds the first digits: those that are left out can only make the value greater. -/
theorem Gathered.pushAll_le (state : Gathered) (digits : List Char) :
    ∃ taken, taken ≤ digits.length ∧ (state.pushAll digits).read = state.read + taken ∧
      (state.pushAll digits).word * Nat.pow 10 (digits.length - taken) ≤
        Nat.ofDigitChars 10 digits state.word := by
  induction digits generalizing state with
  | nil => exact ⟨0, Nat.le_refl _, rfl, Nat.le_of_eq (Nat.mul_one _)⟩
  | cons c rest ih =>
    rw [pushAll, List.foldl_cons, ← pushAll, Nat.ofDigitChars_cons]
    obtain ⟨-, -, next⟩ | left := state.push_cases c
    · obtain ⟨taken, le, read, value⟩ := ih (state.push c)
      rw [next] at read value
      refine ⟨taken + 1, Nat.succ_le_succ le, ?_, ?_⟩
      · rw [next, read]
        exact Nat.add_right_comm _ 1 taken
      · rw [next, List.length_cons, Nat.add_sub_add_right, Nat.mul_comm 10]
        exact value
    · have full : (state.push c).full = true := by rw [left]
      obtain ⟨word, read⟩ := Gathered.pushAll_full full rest
      refine ⟨0, Nat.zero_le _, by rw [read, left]; rfl, ?_⟩
      rw [word, left, Nat.ofDigitChars_eq_ofDigitChars_zero, Nat.mul_add, Nat.sub_zero]
      have shifted : state.word * Nat.pow 10 (c :: rest).length =
          Nat.pow 10 rest.length * (10 * state.word) := by
        show state.word * (Nat.pow 10 rest.length * 10) = _
        rw [Nat.mul_comm, Nat.mul_assoc]
      exact Nat.le_trans (Nat.le_of_eq shifted)
        (Nat.le_trans (Nat.le_add_right _ _) (Nat.le_add_right _ _))

section Magnitude

variable {fraction exponent rest : List Char} {d : Char}

/-- The digits of a text up to the first character that is none. -/
theorem takeWhile_digits (all : ∀ c ∈ digits, isDigit c = true)
    (stops : ∀ c ∈ rest.head?, isDigit c = false) :
    (digits ++ rest).takeWhile isDigit = digits ∧ (digits ++ rest).dropWhile isDigit = rest := by
  rw [List.takeWhile_append_of_pos all, List.dropWhile_append_of_pos all]
  cases rest with
  | nil => simp
  | cons c rest => simp [stops c rfl]

/-- No digits. -/
def Gathered.start : Gathered :=
  ⟨0, 0, 0, false⟩

/-- The digits behind a point. They are tried even if one in front of it was left out. -/
def Gathered.behindPoint (state : Gathered) (fraction : List Char) : Gathered :=
  Gathered.pushAll { state with read := 0, full := false } fraction

theorem magnitude?_point (all : ∀ c ∈ digits, isDigit c = true)
    (allFraction : ∀ c ∈ fraction, isDigit c = true)
    (stops : ∀ c ∈ rest.head?, isDigit c = false) :
    magnitude? (digits ++ '.' :: (fraction ++ rest)) =
      scale? ((Gathered.start.pushAll digits).behindPoint fraction).word
        (exponentOf rest + (Gathered.start.pushAll digits).skipped -
          ((Gathered.start.pushAll digits).behindPoint fraction).read) := by
  have point : ∀ c ∈ ('.' :: (fraction ++ rest)).head?, isDigit c = false := by
    intro c same
    obtain rfl := Option.some.inj same
    decide
  obtain ⟨taken, dropped⟩ := takeWhile_digits all point
  obtain ⟨takenFraction, droppedFraction⟩ := takeWhile_digits allFraction stops
  simp only [magnitude?, taken, dropped, takenFraction, droppedFraction]
  rfl

theorem behindPoint_isWord (state : Gathered) (isWord : state.word < Nat.pow 2 64)
    (fraction : List Char) : (state.behindPoint fraction).word < Nat.pow 2 64 :=
  (Gathered.pushAll_spec { state with read := 0, full := false } fraction isWord).1

theorem word_le_nearlyLargest {word : Nat} (isWord : word < Nat.pow 2 64) {power : Nat}
    (small : power ≤ 16) : word * Nat.pow 10 power ≤ nearlyLargest := by
  calc word * Nat.pow 10 power ≤ Nat.pow 2 64 * Nat.pow 10 16 :=
        Nat.mul_le_mul (Nat.le_of_lt isWord) (pow_ten_mono small)
    _ ≤ nearlyLargest := by decide +kernel

theorem magnitude?_plain (all : ∀ c ∈ digits, isDigit c = true)
    (allFraction : ∀ c ∈ fraction, isDigit c = true) (short : digits.length ≤ 16) :
    (magnitude? (digits ++ '.' :: fraction)).isSome := by
  have read : magnitude? (digits ++ '.' :: (fraction ++ [])) = _ :=
    magnitude?_point all allFraction (by simp)
  rw [List.append_nil] at read
  obtain ⟨isWord, skipped⟩ := Gathered.pushAll_spec .start digits (by decide)
  rw [read]
  refine scale?_isSome (behindPoint_isWord _ isWord fraction)
    (word_le_nearlyLargest (behindPoint_isWord _ isWord fraction) ?_)
  have none : exponentOf [] = 0 := rfl
  have zero : Gathered.start.skipped = 0 := rfl
  omega

theorem start_pushAll_digit (one : isDigit d = true) :
    Gathered.start.pushAll [d] = ⟨d.toNat - '0'.toNat, 1, 0, false⟩ := by
  have small := (Decimal.digit?_ten one).2
  have fits : ¬Nat.pow 2 64 ≤ d.toNat - '0'.toNat :=
    Nat.not_le.mpr (Nat.lt_trans small (by decide))
  simp only [Gathered.pushAll, List.foldl_cons, List.foldl_nil, Gathered.push, Gathered.start, fits,
    Bool.false_eq_true, or_self, if_false, Nat.zero_mul, Nat.zero_add]

theorem magnitude?_digit (one : isDigit d = true)
    (le : (d.toNat - '0'.toNat) * Nat.pow 10 (exponentOf ('e' :: exponent)).toNat ≤ nearlyLargest) :
    (magnitude? (d :: 'e' :: exponent)).isSome := by
  have mark : ∀ c ∈ ('e' :: exponent).head?, isDigit c = false := by
    intro c same
    obtain rfl := Option.some.inj same
    decide
  obtain ⟨taken, dropped⟩ := takeWhile_digits (show ∀ c ∈ [d], isDigit c = true by simpa using one) mark
  have read : magnitude? (d :: 'e' :: exponent) =
      scale? (Gathered.start.pushAll [d]).word
        (exponentOf ('e' :: exponent) + (Gathered.start.pushAll [d]).skipped) := by
    rw [List.singleton_append] at taken dropped
    simp only [magnitude?, taken, dropped]
    rfl
  rw [read, start_pushAll_digit one]
  refine scale?_isSome (Nat.lt_trans (Decimal.digit?_ten one).2 (by decide)) ?_
  simpa using le

theorem pow_ten_add (a b : Nat) : Nat.pow 10 (a + b) = Nat.pow 10 a * Nat.pow 10 b :=
  Nat.pow_add 10 a b

theorem le_of_shifted {word value limit a b c k : Nat} (first : word * Nat.pow 10 c ≤ value)
    (second : value * Nat.pow 10 b ≤ limit * Nat.pow 10 a) (same : k + a = c + b) :
    word * Nat.pow 10 k ≤ limit := by
  refine Nat.le_of_mul_le_mul_right (c := Nat.pow 10 a) ?_ (Nat.pow_pos (by decide))
  calc word * Nat.pow 10 k * Nat.pow 10 a = word * Nat.pow 10 c * Nat.pow 10 b := by
        rw [Nat.mul_assoc, ← pow_ten_add, same, pow_ten_add, ← Nat.mul_assoc]
    _ ≤ value * Nat.pow 10 b := Nat.mul_le_mul_right _ first
    _ ≤ limit * Nat.pow 10 a := second

theorem magnitude?_scientific (one : isDigit d = true) (all : ∀ c ∈ fraction, isDigit c = true)
    (le : Nat.ofDigitChars 10 (d :: fraction) 0 *
        Nat.pow 10 (exponentOf ('e' :: exponent) - fraction.length).toNat ≤
      nearlyLargest * Nat.pow 10 (fraction.length - exponentOf ('e' :: exponent)).toNat) :
    (magnitude? (d :: '.' :: (fraction ++ 'e' :: exponent))).isSome := by
  have mark : ∀ c ∈ ('e' :: exponent).head?, isDigit c = false := by
    intro c same
    obtain rfl := Option.some.inj same
    decide
  have read : magnitude? ([d] ++ '.' :: (fraction ++ 'e' :: exponent)) = _ :=
    magnitude?_point (by simpa using one) all mark
  rw [List.singleton_append, start_pushAll_digit one] at read
  rw [read]
  let first : Gathered := ⟨d.toNat - '0'.toNat, 0, 0, false⟩
  have isWord : (first.pushAll fraction).word < Nat.pow 2 64 :=
    (first.pushAll_spec fraction (Nat.lt_trans (Decimal.digit?_ten one).2 (by decide))).1
  obtain ⟨taken, short, isTaken, value⟩ := first.pushAll_le fraction
  refine scale?_isSome isWord ?_
  show (first.pushAll fraction).word *
    Nat.pow 10 (exponentOf ('e' :: exponent) + (0 : Nat) - (first.pushAll fraction).read).toNat ≤ _
  rw [isTaken, show first.read + taken = taken from Nat.zero_add taken]
  obtain negative | ordinary := Int.lt_or_le (exponentOf ('e' :: exponent)) taken
  · exact word_le_nearlyLargest isWord (by omega)
  · have whole : Nat.ofDigitChars 10 (d :: fraction) 0 =
        Nat.ofDigitChars 10 fraction (d.toNat - '0'.toNat) := by
      rw [Nat.ofDigitChars_cons, Nat.mul_zero, Nat.zero_add]
    rw [whole] at le
    exact le_of_shifted value le (by omega)

end Magnitude

end MutationTesting.Json
