import Mathlib
import MutationTesting.Proofs.Decimal.Sign
import MutationTesting.Proofs.Number.Rendered
/-! Which numbers of Python grow by one. An integer does as long as it fits into the width in which
it is computed; behind that it becomes a number with a point or an exponent. The digits of an imaginary
number are in base ten even behind a zero, but a zero is taken for the sign of base eight. -/
namespace MutationTesting.Number

open Decimal

variable {digits text number : List Char} {unit : Char} {n : Nat} {next : String}

/-! Reading digits as a floating-point value. -/

theorem named?_digits (areDigits : AreDigits digits) (some : digits ≠ []) : named? digits = none := by
  obtain ⟨first, rest, rfl⟩ := List.exists_cons_of_ne_nil some
  have isDigit : digitValue first < 10 := areDigits first List.mem_cons_self
  have other {name : String} (letter : Char) (more : List Char) (isName : name.toList = letter :: more)
      (isLetter : 10 ≤ digitValue letter) :
      String.ofList ((first :: rest).map Char.toLower) ≠ name := by
    intro same
    have same := congrArg String.toList same
    rw [String.toList_ofList, isName, List.map_cons, toLower_of_lt_ten isDigit] at same
    rw [(List.cons.inj same).1] at isDigit
    omega
  unfold named?
  dsimp only
  rw [if_neg, if_neg]
  · exact other 'n' _ rfl (by decide)
  · rintro (isInf | isInfinity)
    · exact other 'i' _ rfl (by decide) isInf
    · exact other 'i' _ rfl (by decide) isInfinity

theorem numeral?_digits (areDigits : AreDigits digits) (some : digits ≠ []) :
    numeral? digits = .some (nearestFloat (valueOf 10 digits) 0) := by
  have all : ∀ c ∈ digits, isDigit c = true := fun c member => isDigit_iff.mpr (areDigits c member)
  have read := digits?_toLower (by decide) some areDigits
  rw [map_toLower_of_lt_ten areDigits] at read
  unfold numeral?
  rw [List.takeWhile_eq_self_iff.mpr all, List.dropWhile_eq_nil_iff.mpr all]
  simp [read, valueOf, areDigits.bare]

theorem float?_digits (areDigits : AreDigits digits) (some : digits ≠ []) :
    float? (String.ofList digits) = .some (nearestFloat (valueOf 10 digits) 0) := by
  unfold float?
  rw [String.toList_ofList]
  dsimp only
  split
  · exact absurd List.mem_cons_self (areDigits.not_mem (by decide))
  · exact absurd List.mem_cons_self (areDigits.not_mem (by decide))
  · rw [named?_digits areDigits some, numeral?_digits areDigits some]
    rfl

/-- The sum of a large number and one as text, if it is finite. -/
theorem nextFloat?_digits (areDigits : AreDigits digits) (large : 2 ^ 53 ≤ valueOf 10 digits)
    {next : List Char} (grown : Rule.nextFloat? digits = some next) :
    Denotes next (shortestValue Rule.floatLayout.tie (nearestFloat (valueOf 10 digits) 0 + 1.0)) ∧
      ∃ c ∈ ['.', '+', '-'], c ∈ next := by
  have some : digits ≠ [] := by
    rintro rfl
    exact absurd large (by decide)
  have positive : isNegative (nearestFloat (valueOf 10 digits) 0 + 1.0) = false :=
    isNegative_add (isNegative_nearestFloat large) (by decide +kernel)
  rw [Rule.nextFloat?, float?_digits areDigits some, Option.bind_some,
    Option.ite_none_right_eq_some] at grown
  obtain ⟨-, isText⟩ := grown
  obtain rfl := Option.some.inj isText
  exact ⟨denotes_render _ positive, exists_mem_render _ _⟩

/-! Integers. -/

theorem isInteger_toDigits (positive : 0 < n) : IsInteger (Nat.toDigits 10 n) n := by
  obtain ⟨first, rest, isText, nonzero⟩ := toDigits_eq_cons positive
  have begins : (Nat.toDigits 10 n).head? ≠ some '0' := by
    rw [isText]
    exact fun same => nonzero (Option.some.inj same)
  have isInteger := IsInteger.decimal begins
    (.of_digits (areDigits_toDigits n) Nat.toDigits_ne_nil)
  rwa [valueOf_toDigits] at isInteger

/-- An integer grows by one if it fits into the width, and becomes no integer otherwise. -/
theorem isInteger_next_iff (isInteger : IsInteger text n)
    (grown : Rule.numberMutation (String.ofList text) = some next) :
    IsInteger next.toList (n + 1) ↔ n < 2 ^ 128 := by
  obtain ⟨integer, isText, rfl, noUnit⟩ := isInteger.exists_integer
  obtain ⟨cs, read, isDecimal, mutation⟩ := integer.numberMutation_text
  rw [← isText, mutation, successor?_eq read, noUnit] at grown
  obtain ⟨number, isNumber, rfl⟩ := Option.map_eq_some_iff.mp grown
  rw [String.toList_ofList, List.append_nil]
  split at isNumber
  · obtain rfl := Option.some.inj isNumber
    exact iff_of_true (isInteger_toDigits (Nat.succ_pos _)) (by omega)
  · split at isNumber
    · contradiction
    · -- only base ten goes on behind the width, with a text that has a point or a sign
      split at isNumber
      · rename_i baseTen
        have form : integer.form = .decimal := by
          cases isForm : integer.form <;> rw [isForm] at baseTen <;> first | rfl | contradiction
        have areDigits : AreDigits (bare integer.digits) := fun c member => by
          have isDigit := integer.areDigits c member
          rwa [form] at isDigit
        have value : valueOf 10 (bare integer.digits) = integer.value := by
          rw [Integer.value, form, valueOf, areDigits.bare]
          rfl
        rw [isDecimal form] at isNumber
        obtain ⟨-, c, isMark, member⟩ := nextFloat?_digits areDigits (by omega) isNumber
        exact iff_of_false (fun isInteger => isInteger.not_mem isMark member) (by omega)
      · contradiction

/-! Imaginary numbers. -/

theorem denotes_toDigits (n : Nat) : Denotes (Nat.toDigits 10 n) n where
  isDecimal := .digits (.of_digits (areDigits_toDigits n) Nat.toDigits_ne_nil)
  value := by
    rw [decimalValue_mantissa (areDigits_toDigits n).freeOfMarks,
      mantissaValue_digits (areDigits_toDigits n), valueOf_toDigits]

theorem isImaginary_iff {value other : ℚ} (denotes : Denotes number value) (isUnit : unit ∈ ['j', 'J']) :
    IsImaginary (number ++ [unit]) other ↔ value = other := by
  constructor
  · rintro ⟨number', unit', same, -, -, isValue⟩
    obtain ⟨rfl, -⟩ := List.append_inj' same rfl
    exact denotes.value.symm.trans isValue
  · rintro rfl
    exact ⟨number, unit, rfl, isUnit, denotes.isDecimal, denotes.value⟩

theorem mem_units (isUnit : unit ∈ ['j', 'J']) : [unit] ∈ units := by
  obtain rfl | rfl : unit = 'j' ∨ unit = 'J' := by simpa using isUnit
  · decide
  · decide

theorem numberMutation_decimal (part : DigitPart 10 digits) (isUnit : unit ∈ ['j', 'J'])
    (begins : Form.decimal.Begins (bare digits)) :
    unsigned? 10 (bare digits) = some (valueOf 10 digits) ∧
      Rule.numberMutation (String.ofList (digits ++ [unit])) =
        (Rule.successor? 10 (bare digits)).map fun next => String.ofList (next ++ [unit]) := by
  obtain ⟨cs, read, isDecimal, mutation⟩ := Integer.numberMutation_text ⟨.decimal, [], digits, [unit],
    by decide, part.areDigits (by decide), part.bare_ne_nil (by decide), begins, mem_units isUnit⟩
  obtain rfl := isDecimal rfl
  exact ⟨read, mutation⟩

/-- In base ten an imaginary number becomes the next one as long as it fits into the width, and then
the shortest decimal for a sum of floating-point values. -/
theorem exists_decimal_next (part : DigitPart 10 digits) (isUnit : unit ∈ ['j', 'J'])
    (begins : Form.decimal.Begins (bare digits))
    (grown : Rule.numberMutation (String.ofList (digits ++ [unit])) = some next) :
    ∃ number, next.toList = number ++ [unit] ∧ Denotes number
      (if valueOf 10 digits < 2 ^ 128 then valueOf 10 digits + 1
        else shortestValue Rule.floatLayout.tie (nearestFloat (valueOf 10 digits) 0 + 1.0)) := by
  have areDigits : AreDigits (bare digits) := part.areDigits (by decide)
  have value : valueOf 10 (bare digits) = valueOf 10 digits := by
    rw [valueOf, areDigits.bare, valueOf]
  obtain ⟨read, mutation⟩ := numberMutation_decimal part isUnit begins
  rw [mutation, successor?_eq read] at grown
  obtain ⟨number, isNumber, rfl⟩ := Option.map_eq_some_iff.mp grown
  refine ⟨number, String.toList_ofList, ?_⟩
  split at isNumber
  · rw [if_pos (by omega), ← Nat.cast_succ]
    obtain rfl := Option.some.inj isNumber
    exact denotes_toDigits _
  · split at isNumber
    · contradiction
    · rw [if_neg (by omega), ← value]
      exact (nextFloat?_digits areDigits (by rw [value]; omega) isNumber).1

/-! What is read in base eight. -/

theorem lt_of_digitsFrom? {base value : Nat} {cs : List Char} (areDigits : AreDigits cs)
    (read : (digitsFrom? base value cs).isSome) : ∀ c ∈ cs, digitValue c < base := by
  induction cs generalizing value with
  | nil => nofun
  | cons c rest ih =>
    obtain ⟨isDigit, further⟩ := List.forall_mem_cons.mp areDigits
    have isChar : c ∈ digitChars :=
      toLower_of_lt_ten isDigit ▸ toLower_mem_digitChars (Nat.lt_trans isDigit (by decide))
    rw [digitsFrom?, digit?_digitChars base c isChar] at read
    have isValue : digitChars.idxOf c = digitValue c := by
      rw [digitValue, toLower_of_lt_ten isDigit]
    rw [isValue] at read
    split at read
    · exact List.forall_mem_cons.mpr ⟨‹_›, ih further read⟩
    · contradiction

theorem lt_of_successor? {cs : List Char} (areDigits : AreDigits cs)
    (grown : (Rule.successor? 8 cs).isSome) : ∀ c ∈ cs, digitValue c < 8 := by
  unfold Rule.successor? at grown
  split at grown
  · rename_i n isWord
    have read : unsigned? 8 cs = some n := (Option.filter_eq_some_iff.mp isWord).1
    unfold unsigned? at read
    split at read
    · exact absurd List.mem_cons_self (areDigits.not_mem (by decide))
    · rw [digits?, Option.ite_none_left_eq_some] at read
      exact lt_of_digitsFrom? areDigits (Option.isSome_of_eq_some read.2)
  · contradiction

/-- The same digits denote the same number in bases eight and ten only if there is but one that
counts. -/
theorem valueOf_eight_eq_iff (octal : ∀ c ∈ bare digits, digitValue c < 8) :
    valueOf 8 digits = valueOf 10 digits ↔ valueOf 10 digits < 8 := by
  unfold valueOf
  generalize isReversed : ((bare digits).map digitValue).reverse = values
  have small : ∀ value ∈ values, value < 8 := by
    intro value member
    rw [← isReversed, List.mem_reverse] at member
    obtain ⟨c, isDigit, rfl⟩ := List.mem_map.mp member
    exact octal c isDigit
  cases values with
  | nil => simp
  | cons last others =>
    have less := small last List.mem_cons_self
    have monotone : Nat.ofDigits 8 others ≤ Nat.ofDigits 10 others :=
      Nat.ofDigits_monotone others (by decide)
    rw [Nat.ofDigits_cons, Nat.ofDigits_cons]
    omega

/-- Behind a zero an imaginary number is grown by growing its digits in base eight. -/
theorem numberMutation_zero {first : Char} {rest : List Char} (part : DigitPart 10 digits)
    (isUnit : unit ∈ ['j', 'J']) (begins : bare digits = '0' :: first :: rest) :
    Rule.numberMutation (String.ofList (digits ++ [unit])) =
      (Rule.successor? 8 (first :: rest)).map fun next => String.ofList (next ++ [unit]) := by
  have areDigits := part.areDigits (by decide)
  have free : ∀ c ∈ digits, Rule.isUnit c = false := by
    intro c member
    by_cases isSpace : c = '_'
    · rw [isSpace]
      rfl
    · have isDigit := areDigits c (List.mem_filter.mpr ⟨member, bne_iff_ne.mpr isSpace⟩)
      exact isUnit_eq_false (Nat.lt_trans isDigit (by decide))
  have isSplit : Rule.splitBase ((bare digits).map Char.toLower) = (8, first :: rest) := by
    rw [map_toLower_of_lt_ten areDigits, begins]
    rw [begins] at areDigits
    exact splitBase_zero fun c member => isDigit_iff.mpr (areDigits c (.tail _ member))
  rw [bare] at isSplit
  simp only [Rule.numberMutation, String.toList_ofList, splitUnit_append (mem_units isUnit) free,
    isSplit]

/-- Behind a zero an imaginary number becomes the successor of what its digits denote in base
eight. -/
theorem exists_octal_next {first : Char} {rest : List Char} (part : DigitPart 10 digits)
    (isUnit : unit ∈ ['j', 'J']) (begins : bare digits = '0' :: first :: rest)
    (grown : Rule.numberMutation (String.ofList (digits ++ [unit])) = some next) :
    (∀ c ∈ bare digits, digitValue c < 8) ∧
      ∃ number, next.toList = number ++ [unit] ∧ Denotes number (valueOf 8 digits + 1) := by
  have areDigits := part.areDigits (by decide)
  rw [begins] at areDigits
  have decimal : AreDigits (first :: rest) := fun c member => areDigits c (.tail _ member)
  rw [numberMutation_zero part isUnit begins] at grown
  obtain ⟨number, isNumber, rfl⟩ := Option.map_eq_some_iff.mp grown
  have octal := lt_of_successor? decimal (Option.isSome_of_eq_some isNumber)
  have read : unsigned? 8 (first :: rest) = some (valueOf 8 digits) := by
    have read := unsigned?_toLower (by decide) (List.cons_ne_nil _ _) octal
    rwa [map_toLower_of_lt_ten decimal, ← ofDigits_zero_cons, ← begins] at read
  refine ⟨?_, number, String.toList_ofList, ?_⟩
  · rw [begins]
    exact List.forall_mem_cons.mpr ⟨by decide, octal⟩
  · rw [successor?_eq read, ite_cond_eq_false _ _ (eq_false (by decide : ¬ 8 = 10)), ite_self,
      Option.ite_none_right_eq_some] at isNumber
    rw [← Option.some.inj isNumber.2, ← Nat.cast_succ]
    exact denotes_toDigits _

/-- Whether the number in front of the imaginary unit, behind a zero or not, is grown by one: in
base eight a single digit must count, and behind the width the shortest decimal for a sum of
floating-point values must be that number. -/
def GrowsByOne (digits : List Char) : Prop :=
  match bare digits with
  | '0' :: _ :: _ => valueOf 10 digits < 8
  | _ => valueOf 10 digits < 2 ^ 128 ∨
      shortestValue Rule.floatLayout.tie (nearestFloat (valueOf 10 digits) 0 + 1.0) =
        valueOf 10 digits + 1

theorem begins_decimal {cs : List Char} (other : ∀ first rest, cs ≠ '0' :: first :: rest) :
    Form.decimal.Begins cs := by
  match cs with
  | [] => exact .inr nofun
  | ['0'] => exact .inl rfl
  | '0' :: first :: rest => exact absurd rfl (other first rest)
  | c :: rest =>
    by_cases isZero : c = '0'
    · cases rest with
      | nil => exact .inl (by rw [isZero])
      | cons first rest => exact absurd (by rw [isZero]) (other first rest)
    · exact .inr fun same => isZero (Option.some.inj same)

theorem isImaginary_next_iff (part : DigitPart 10 digits) (isUnit : unit ∈ ['j', 'J'])
    (grown : Rule.numberMutation (String.ofList (digits ++ [unit])) = some next) :
    IsImaginary next.toList (valueOf 10 digits + 1) ↔ GrowsByOne digits := by
  unfold GrowsByOne
  split
  · rename_i first rest begins
    obtain ⟨octal, number, isNext, denotes⟩ := exists_octal_next part isUnit begins grown
    rw [isNext, isImaginary_iff denotes isUnit, add_left_inj, Nat.cast_inj,
      valueOf_eight_eq_iff octal]
  · rename_i other
    have begins := begins_decimal fun _ _ isBare => other _ _ isBare
    obtain ⟨number, isNext, denotes⟩ := exists_decimal_next part isUnit begins grown
    rw [isNext, isImaginary_iff denotes isUnit]
    split
    · rename_i small
      exact iff_of_true rfl (.inl small)
    · rename_i large
      rw [or_iff_right large]

/-- An integer grows by one exactly if it fits into the width. So does an imaginary number in base
ten, and behind a zero only if a single digit of it counts. -/
theorem numberMutation_successor_iff (text : List Char) {next : String}
    (grown : Rule.numberMutation (String.ofList text) = some next) :
    (∀ n, IsInteger text n → (IsInteger next.toList (n + 1) ↔ n < 2 ^ 128)) ∧
    (∀ digits unit, text = digits ++ [unit] → DigitPart 10 digits → unit ∈ ['j', 'J'] →
      (IsImaginary next.toList (valueOf 10 digits + 1) ↔ GrowsByOne digits)) := by
  constructor
  · intro n isInteger
    exact isInteger_next_iff isInteger grown
  · rintro digits unit rfl part isUnit
    exact isImaginary_next_iff part isUnit grown

/-- Behind the width an integer becomes a number with a point and an exponent. -/
example : Rule.numberMutation "340282366920938463463374607431768211456" =
    some "3.402823669209385e+38" := by decide +kernel

/-- An integer with an underscore, and an imaginary number behind zeros. -/
theorem separated_and_padded_grow :
    IsInteger "100000".toList 100000 ∧ IsImaginary "8j".toList 8 := by
  have separated : IsInteger "99_999".toList 99999 :=
    .decimal (by decide) (.digit (by decide) (.space (by decide) (.digit (by decide)
      (.digit (by decide) (.single (by decide))))))
  have inWidth := (numberMutation_successor_iff "99_999".toList
    (show Rule.numberMutation "99_999" = some "100000" by decide +kernel)).1 99999 separated
  have padded : DigitPart 10 "007".toList :=
    .digit (by decide) (.digit (by decide) (.single (by decide)))
  have seven : valueOf 10 "007".toList = 7 := by decide
  have behindZero := (numberMutation_successor_iff "007j".toList
    (show Rule.numberMutation "007j" = some "8j" by decide +kernel)).2 "007".toList 'j' rfl padded
      (by decide)
  rw [GrowsByOne, seven] at behindZero
  have grown := behindZero.mpr (show 7 < 8 by decide)
  norm_num at grown
  exact ⟨inWidth.mpr (by decide), grown⟩

/-- Ten, read in base eight and grown by one, is nine. -/
theorem behind_zero_grows_otherwise :
    DigitPart 10 "010".toList ∧ valueOf 10 "010".toList = 10 ∧
      Rule.numberMutation "010j" = some "9j" ∧ ¬ IsImaginary "9j".toList (10 + 1) := by
  refine ⟨.digit (by decide) (.digit (by decide) (.single (by decide))), by decide, by decide +kernel, ?_⟩
  have isImaginary : IsImaginary (Nat.toDigits 10 9 ++ ['j']) (10 + 1) ↔ ((9 : ℕ) : ℚ) = 10 + 1 :=
    isImaginary_iff (denotes_toDigits 9) (by decide)
  rw [show "9j".toList = Nat.toDigits 10 9 ++ ['j'] by decide, isImaginary]
  norm_num

end MutationTesting.Number
