import Mathlib.Data.Nat.Digits.Defs
import MutationTesting.Decimal.Numeral
import MutationTesting.Rule.Catalogue
/-! Digits of a base up to sixteen with underscores among them, and the number they denote. In small
letters and without the underscores they are read as that number. -/
namespace MutationTesting.Number

open Decimal

/-- The digits of the bases up to sixteen, each at the place of its value. -/
def digitChars : List Char :=
  ['0', '1', '2', '3', '4', '5', '6', '7', '8', '9', 'a', 'b', 'c', 'd', 'e', 'f']

/-- The value of a digit, which may be a capital letter; sixteen for what is none. -/
def digitValue (c : Char) : Nat :=
  digitChars.idxOf c.toLower

/-- A text without its underscores. -/
def bare (text : List Char) : List Char :=
  text.filter (· != '_')

/-- The number that digits denote, the underscores among them left out. -/
def valueOf (base : Nat) (text : List Char) : Nat :=
  Nat.ofDigits base ((bare text).map digitValue).reverse

variable {base : Nat} {cs text : List Char} {c : Char}

theorem digit?_digitChars (base : Nat) :
    ∀ c ∈ digitChars, digit? base c =
      if digitChars.idxOf c < base then some (digitChars.idxOf c) else none := by
  simp only [digitChars, List.forall_mem_cons]
  exact ⟨rfl, rfl, rfl, rfl, rfl, rfl, rfl, rfl, rfl, rfl, rfl, rfl, rfl, rfl, rfl, rfl, by simp⟩

theorem toLower_mem_digitChars (isDigit : digitValue c < 16) : c.toLower ∈ digitChars :=
  List.idxOf_lt_length_iff.mp isDigit

theorem digit?_toLower (small : base ≤ 16) (isDigit : digitValue c < base) :
    digit? base c.toLower = some (digitValue c) := by
  rw [digit?_digitChars base _ (toLower_mem_digitChars (Nat.lt_of_lt_of_le isDigit small))]
  exact if_pos isDigit

theorem digitsFrom?_toLower (small : base ≤ 16) (areDigits : ∀ c ∈ cs, digitValue c < base)
    (value : Nat) : digitsFrom? base value (cs.map Char.toLower) =
      some ((cs.map digitValue).foldl (fun n d => d + base * n) value) := by
  induction cs generalizing value with
  | nil => rfl
  | cons c rest ih =>
    obtain ⟨isDigit, further⟩ := List.forall_mem_cons.mp areDigits
    rw [List.map_cons, digitsFrom?, digit?_toLower small isDigit, Option.bind_some, ih further,
      List.map_cons, List.foldl_cons, Nat.add_comm, Nat.mul_comm]

theorem digits?_toLower (small : base ≤ 16) (some : cs ≠ [])
    (areDigits : ∀ c ∈ cs, digitValue c < base) :
    digits? base (cs.map Char.toLower) =
      .some (Nat.ofDigits base (cs.map digitValue).reverse) := by
  rw [digits?, if_neg (by simpa using some), digitsFrom?_toLower small areDigits,
    Nat.ofDigits_eq_foldr, List.foldr_reverse]
  rfl

theorem unsigned?_toLower (small : base ≤ 16) (some : cs ≠ [])
    (areDigits : ∀ c ∈ cs, digitValue c < base) :
    unsigned? base (cs.map Char.toLower) =
      .some (Nat.ofDigits base (cs.map digitValue).reverse) := by
  rw [← digits?_toLower small some areDigits]
  obtain ⟨c, rest, rfl⟩ := List.exists_cons_of_ne_nil some
  have isDigit := toLower_mem_digitChars
    (Nat.lt_of_lt_of_le (areDigits c List.mem_cons_self) small)
  rw [List.map_cons]
  unfold unsigned?
  split
  · rename_i isSign
    rw [(List.cons.inj isSign).1] at isDigit
    exact absurd isDigit (by decide)
  · rfl

/-! The digits of base ten have no capital letters. -/

theorem toLower_of_isDigit (isDecimal : isDigit c.toLower = true) : c.toLower = c := by
  unfold Char.toLower at isDecimal ⊢
  split
  · rename_i capital
    rw [dif_pos capital] at isDecimal
    have small := (Bool.and_eq_true_iff.mp isDecimal).2
    rw [decide_eq_true_eq, Char.le_def, UInt32.le_iff_toNat_le, UInt32.toNat_add] at small
    obtain ⟨low, high⟩ := capital
    rw [ge_iff_le, UInt32.le_iff_toNat_le] at low
    rw [UInt32.le_iff_toNat_le] at high
    have bounds : ('A'.val).toNat = 65 ∧ ('Z'.val).toNat = 90 ∧ ('9'.val).toNat = 57 ∧
        ('a'.val - 'A'.val).toNat = 32 := by decide
    omega
  · rfl

theorem isDigit_toLower (small : digitValue c < 10) : isDigit c.toLower = true := by
  have isChar : digitChars.get ⟨digitValue c, Nat.lt_trans small (by decide)⟩ = c.toLower :=
    List.getElem_idxOf _
  have areDigits : ∀ n, (less : n < 10) →
      isDigit (digitChars.get ⟨n, Nat.lt_trans less (by decide)⟩) = true := by decide
  exact isChar ▸ areDigits _ small

theorem toLower_of_lt_ten (small : digitValue c < 10) : c.toLower = c :=
  toLower_of_isDigit (isDigit_toLower small)

theorem map_toLower_of_lt_ten (areDigits : ∀ c ∈ cs, digitValue c < 10) :
    cs.map Char.toLower = cs :=
  (List.map_congr_left fun c member => toLower_of_lt_ten (areDigits c member)).trans (List.map_id _)

theorem isDigit_iff : isDigit c = true ↔ digitValue c < 10 := by
  constructor
  · intro isDecimal
    have range : '0' ≤ c ∧ c ≤ '9' := by simpa [isDigit] using isDecimal
    have small : ∀ n < 58, 48 ≤ n → digitValue (Char.ofNat n) < 10 := by decide
    rw [← Char.ofNat_toNat c]
    exact small _ (Nat.lt_succ_of_le range.2) range.1
  · intro small
    rw [← toLower_of_lt_ten small]
    exact isDigit_toLower small

theorem areDigits_of_all (all : (cs.all fun c => decide (digitValue c < base)) = true) :
    ∀ c ∈ cs, digitValue c < base :=
  fun c member => of_decide_eq_true (List.all_eq_true.mp all c member)

theorem bare_of_digits (areDigits : ∀ c ∈ cs, digitValue c < 16) : bare cs = cs := by
  refine List.filter_eq_self.mpr fun c member => bne_iff_ne.mpr fun isMark => ?_
  have isDigit := areDigits c member
  rw [isMark] at isDigit
  exact absurd isDigit (by decide)

theorem valueOf_toDigits (n : Nat) : valueOf 10 (Nat.toDigits 10 n) = n := by
  have areDigits : ∀ c ∈ Nat.toDigits 10 n, digitValue c < 10 :=
    fun c member => isDigit_iff.mp (isDigit_toDigits member)
  have read := digits?_toLower (by decide) Nat.toDigits_ne_nil areDigits
  rw [map_toLower_of_lt_ten areDigits, digits?_toDigits] at read
  rw [valueOf, bare_of_digits fun c member => Nat.lt_trans (areDigits c member) (by decide)]
  exact (Option.some.inj read).symm

end MutationTesting.Number

/-! Integers in the ways in which they can be written, and what a number becomes that is grown by
one. -/
namespace MutationTesting.Number

open Decimal

/-- The ways to write an integer: with a mark that tells its base, with a leading zero, which means
base eight, and without either. -/
inductive Form where
  | hexadecimal
  | octal
  | binary
  | leadingZero
  | decimal
  deriving Repr, DecidableEq

namespace Form

def base : Form → Nat
  | hexadecimal => 16
  | octal => 8
  | binary => 2
  | leadingZero => 8
  | decimal => 10

/-- What may stand in front of the digits. -/
def marks : Form → List (List Char)
  | hexadecimal => [['0', 'x'], ['0', 'X']]
  | octal => [['0', 'o'], ['0', 'O']]
  | binary => [['0', 'b'], ['0', 'B']]
  | leadingZero => [[]]
  | decimal => [[]]

/-- How the digits, underscores left out, may begin: other digits follow the zero that leads, and in
base ten only a zero alone begins with one. -/
def Begins : Form → List Char → Prop
  | leadingZero, digits => ∃ first rest, digits = '0' :: first :: rest
  | decimal, digits => digits = ['0'] ∨ digits.head? ≠ some '0'
  | _, _ => True

theorem base_le (form : Form) : form.base ≤ 16 := by
  cases form <;> decide

end Form

/-- What may follow the digits. -/
def units : List (List Char) :=
  [[], ['j'], ['J'], ['l'], ['L']]

/-- An integer as it is written: a mark of its base, digits with underscores anywhere among them,
and a unit. -/
structure Integer where
  form : Form
  mark : List Char
  digits : List Char
  unit : List Char
  isMark : mark ∈ form.marks
  areDigits : ∀ c ∈ bare digits, digitValue c < form.base
  someDigit : bare digits ≠ []
  begins : form.Begins (bare digits)
  isUnit : unit ∈ units

namespace Integer

/-- The text of an integer. -/
def text (integer : Integer) : String :=
  String.ofList (integer.mark ++ integer.digits ++ integer.unit)

/-- The number that an integer denotes. -/
def value (integer : Integer) : Nat :=
  valueOf integer.form.base integer.digits

end Integer

variable {cs body unit : List Char}

theorem splitUnit_append (isUnit : unit ∈ units) (free : ∀ c ∈ body, Rule.isUnit c = false) :
    Rule.splitUnit (body ++ unit) = (body, unit) := by
  simp only [units, List.mem_cons, List.not_mem_nil, or_false] at isUnit
  obtain rfl | rfl | rfl | rfl | rfl := isUnit
  · rw [List.append_nil]
    cases found : body.getLast? with
    | none => simp [Rule.splitUnit, found]
    | some last => simp [Rule.splitUnit, found, free last (List.mem_of_getLast? found)]
  all_goals simp [Rule.splitUnit, Rule.isUnit]

theorem splitBase_zero {first : Char} {rest : List Char}
    (areDigits : ∀ c ∈ first :: rest, isDigit c = true) :
    Rule.splitBase ('0' :: first :: rest) = (8, first :: rest) := by
  have noMark {c : Char} {more : List Char} (isLetter : isDigit c = false) :
      '0' :: first :: rest ≠ '0' :: c :: more := by
    intro same
    have isFirst := areDigits first List.mem_cons_self
    rw [(List.cons.inj (List.cons.inj same).2).1, isLetter] at isFirst
    contradiction
  unfold Rule.splitBase
  split
  · exact absurd ‹_› (noMark (by decide))
  · exact absurd ‹_› (noMark (by decide))
  · exact absurd ‹_› (noMark (by decide))
  · rename_i same
    obtain ⟨-, same⟩ := List.cons.inj same
    rw [← same, if_pos (List.all_eq_true.mpr areDigits)]
  · rename_i other
    exact absurd rfl (other first rest)

theorem splitBase_decimal (begins : cs = ['0'] ∨ cs.head? ≠ some '0') :
    Rule.splitBase cs = (10, cs) := by
  obtain rfl | other := begins
  · rfl
  · unfold Rule.splitBase
    split <;> simp_all

/-- No part of an integer but its unit has the letters of a unit. -/
theorem isUnit_eq_false {c : Char} (isDigit : digitValue c < 16) : Rule.isUnit c = false := by
  refine Bool.eq_false_iff.mpr fun isUnit => ?_
  simp only [Rule.isUnit, Bool.or_eq_true, beq_iff_eq] at isUnit
  obtain ((rfl | rfl) | rfl) | rfl := isUnit <;> exact absurd isDigit (by decide)

/-- A number is grown where its successor fits into the width of an integer; behind that limit base
ten goes on with floating-point numbers. -/
theorem successor?_eq {base n : Nat} (read : unsigned? base cs = some n) :
    Rule.successor? base cs =
      if n + 1 < 2 ^ 128 then some (Nat.toDigits 10 (n + 1))
      else if n + 1 = 2 ^ 128 then none
      else if base = 10 then Rule.nextFloat? cs
      else none := by
  have width : Nat.pow 2 Rule.integerWidth = 2 ^ 128 := rfl
  have isWord : word? Rule.integerWidth base cs = if n < 2 ^ 128 then some n else none := by
    rw [word?, read, Option.filter_some, width]
    simp only [decide_eq_true_eq]
  unfold Rule.successor?
  rw [isWord, width]
  by_cases small : n < 2 ^ 128
  · rw [if_pos small]
    change (if n + 1 < 2 ^ 128 then _ else _) = _
    by_cases less : n + 1 < 2 ^ 128
    · rw [if_pos less, if_pos less]
    · rw [if_neg less, if_neg less, if_pos (show n + 1 = 2 ^ 128 by omega)]
  · rw [if_neg small, if_neg (show ¬ n + 1 < 2 ^ 128 by omega),
      if_neg (show ¬ n + 1 = 2 ^ 128 by omega)]

theorem ofDigits_zero_cons (base : Nat) (cs : List Char) :
    Nat.ofDigits base (('0' :: cs).map digitValue).reverse =
      Nat.ofDigits base (cs.map digitValue).reverse := by
  have zero : digitValue '0' = 0 := by decide
  rw [List.map_cons, zero, Nat.ofDigits_reverse_zero_cons]

theorem Form.exists_digits {form : Form} {mark digits : List Char} (isMark : mark ∈ form.marks)
    (areDigits : ∀ c ∈ digits, digitValue c < form.base) (some : digits ≠ [])
    (begins : form.Begins digits) :
    ∃ cs, Rule.splitBase ((mark ++ digits).map Char.toLower) = (form.base, cs) ∧
      unsigned? form.base cs = .some (Nat.ofDigits form.base (digits.map digitValue).reverse) ∧
      (form = .decimal → cs = digits) := by
  have read := unsigned?_toLower form.base_le some areDigits
  cases form with
  | hexadecimal | octal | binary =>
    refine ⟨_, ?_, read, nofun⟩
    simp only [Form.marks, List.mem_cons, List.not_mem_nil, or_false] at isMark
    obtain rfl | rfl := isMark <;> rfl
  | leadingZero =>
    obtain rfl := List.mem_singleton.mp isMark
    obtain ⟨first, rest, rfl⟩ := begins
    have further := (List.forall_mem_cons.mp areDigits).2
    have decimal : ∀ c ∈ first :: rest, digitValue c < 10 :=
      fun c member => Nat.lt_trans (further c member) (by decide)
    have split := splitBase_zero fun c member => isDigit_iff.mpr (decimal c member)
    rw [← map_toLower_of_lt_ten decimal] at split
    refine ⟨_, split, ?_, nofun⟩
    rw [ofDigits_zero_cons]
    exact unsigned?_toLower (by decide) (List.cons_ne_nil _ _) further
  | decimal =>
    obtain rfl := List.mem_singleton.mp isMark
    rw [map_toLower_of_lt_ten areDigits] at read
    rw [List.nil_append, map_toLower_of_lt_ten areDigits]
    exact ⟨digits, splitBase_decimal begins, read, fun _ => rfl⟩

namespace Integer

variable (integer : Integer)

theorem mark_free : ∀ c ∈ integer.mark, c ≠ '_' ∧ Rule.isUnit c = false := by
  have free : ∀ mark ∈ integer.form.marks,
      mark.all (fun c => c != '_' && !Rule.isUnit c) = true := by
    cases integer.form <;> decide
  intro c member
  simpa using List.all_eq_true.mp (free _ integer.isMark) c member

theorem splitUnit_text :
    Rule.splitUnit integer.text.toList = (integer.mark ++ integer.digits, integer.unit) := by
  rw [text, String.toList_ofList]
  refine splitUnit_append integer.isUnit fun c member => ?_
  obtain inMark | inDigits := List.mem_append.mp member
  · exact (integer.mark_free c inMark).2
  · by_cases isSpace : c = '_'
    · rw [isSpace]
      rfl
    · have isDigit := integer.areDigits c (List.mem_filter.mpr ⟨inDigits, bne_iff_ne.mpr isSpace⟩)
      exact isUnit_eq_false (Nat.lt_of_lt_of_le isDigit integer.form.base_le)

/-- An integer is grown by growing its value, and keeps its unit. -/
theorem numberMutation_text :
    ∃ cs, unsigned? integer.form.base cs = some integer.value ∧
      (integer.form = .decimal → cs = bare integer.digits) ∧
      Rule.numberMutation integer.text =
        (Rule.successor? integer.form.base cs).map fun next =>
          String.ofList (next ++ integer.unit) := by
  obtain ⟨cs, isSplit, read, isDecimal⟩ :=
    Form.exists_digits integer.isMark integer.areDigits integer.someDigit integer.begins
  refine ⟨cs, read, isDecimal, ?_⟩
  have isBare : (integer.mark ++ integer.digits).filter (· != '_') =
      integer.mark ++ bare integer.digits := by
    rw [List.filter_append, List.filter_eq_self.mpr
      fun c member => bne_iff_ne.mpr (integer.mark_free c member).1, bare]
  simp only [Rule.numberMutation, splitUnit_text, isBare, isSplit]

end Integer

/-- Whatever way an integer is written, it is grown by one in base ten and keeps its unit, up to the
largest value, which has no successor. -/
theorem numberMutation_grows (integer : Integer) :
    (integer.value < 2 ^ 128 - 1 →
      Rule.numberMutation integer.text =
        some (String.ofList (Nat.toDigits 10 (integer.value + 1) ++ integer.unit))) ∧
    (integer.value = 2 ^ 128 - 1 → Rule.numberMutation integer.text = none) := by
  obtain ⟨cs, read, -, grown⟩ := integer.numberMutation_text
  rw [grown, successor?_eq read]
  constructor
  · intro less
    rw [if_pos (by omega)]
    rfl
  · intro isLast
    rw [if_neg (by omega), if_pos (by omega)]
    rfl

/-- A long integer in base eight, and the largest one that is computed. -/
theorem octal_and_largest_grow :
    Rule.numberMutation "0_777L" = some "512L" ∧
      Rule.numberMutation "0XFFFFFFFFFFFFFFFFFFFFFFFFFFFFFFFF" = none := by
  have octal := numberMutation_grows ⟨.leadingZero, [], "0_777".toList, ['L'], by decide,
    areDigits_of_all (by decide +kernel), by decide, ⟨_, _, rfl⟩, by decide⟩
  have largest := numberMutation_grows ⟨.hexadecimal, ['0', 'X'], List.replicate 32 'F', [],
    by decide, areDigits_of_all (by decide +kernel), by decide, trivial, by decide⟩
  exact ⟨octal.1 (by decide +kernel), largest.2 (by decide +kernel)⟩

end MutationTesting.Number
