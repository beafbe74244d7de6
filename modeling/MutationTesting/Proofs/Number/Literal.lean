import Mathlib.Data.Rat.Defs
import Mathlib.Algebra.Order.Field.Rat
import MutationTesting.Proofs.Number.Integer
/-! Numbers as Python has them: integers in four bases, decimal numbers with a point or an exponent,
and imaginary ones, each with what it denotes. -/
namespace MutationTesting.Number

open Decimal

/-- Digits of a base, with at most one underscore between two of them. -/
inductive DigitPart (base : Nat) : List Char → Prop where
  | single {c : Char} : digitValue c < base → DigitPart base [c]
  | digit {c : Char} {rest : List Char} :
      digitValue c < base → DigitPart base rest → DigitPart base (c :: rest)
  | space {c : Char} {rest : List Char} :
      digitValue c < base → DigitPart base rest → DigitPart base (c :: '_' :: rest)

/-- The letters that mark a base behind a zero. -/
def baseMarks : List (Char × Nat) :=
  [('x', 16), ('X', 16), ('o', 8), ('O', 8), ('b', 2), ('B', 2)]

/-- The integers, with the numbers they denote. Without a mark of its base an integer is in base ten
and begins with a zero only if there are nothing but zeros. -/
inductive IsInteger : List Char → Nat → Prop where
  | marked {mark : Char} {base : Nat} {digits : List Char} :
      (mark, base) ∈ baseMarks → DigitPart base digits →
      IsInteger ('0' :: mark :: digits) (valueOf base digits)
  | spaced {mark : Char} {base : Nat} {digits : List Char} :
      (mark, base) ∈ baseMarks → DigitPart base digits →
      IsInteger ('0' :: mark :: '_' :: digits) (valueOf base digits)
  | zeros {digits : List Char} : DigitPart 1 digits → IsInteger digits 0
  | decimal {digits : List Char} :
      digits.head? ≠ some '0' → DigitPart 10 digits → IsInteger digits (valueOf 10 digits)

/-- Decimal numbers with a point. -/
inductive IsPointed : List Char → Prop where
  | fraction {whole fraction : List Char} :
      whole = [] ∨ DigitPart 10 whole → DigitPart 10 fraction →
      IsPointed (whole ++ '.' :: fraction)
  | whole {whole : List Char} : DigitPart 10 whole → IsPointed (whole ++ ['.'])

/-- Decimal numbers, with or without a point and an exponent. -/
inductive IsDecimal : List Char → Prop where
  | digits {digits : List Char} : DigitPart 10 digits → IsDecimal digits
  | pointed {text : List Char} : IsPointed text → IsDecimal text
  | exponent {mantissa sign power : List Char} {mark : Char} :
      DigitPart 10 mantissa ∨ IsPointed mantissa → mark ∈ ['e', 'E'] →
      sign ∈ [[], ['+'], ['-']] → DigitPart 10 power →
      IsDecimal (mantissa ++ mark :: (sign ++ power))

def isExponentMark (c : Char) : Bool :=
  c == 'e' || c == 'E'

/-- What a decimal number without an exponent denotes. -/
def mantissaValue (text : List Char) : ℚ :=
  let whole := text.takeWhile (· != '.')
  let fraction := (text.dropWhile (· != '.')).drop 1
  valueOf 10 (whole ++ fraction) / 10 ^ (bare fraction).length

/-- What an exponent denotes, zero if there is none. -/
def exponentValue (text : List Char) : ℤ :=
  match text with
  | '-' :: digits => -valueOf 10 digits
  | '+' :: digits => valueOf 10 digits
  | digits => valueOf 10 digits

/-- What a decimal number denotes. -/
def decimalValue (text : List Char) : ℚ :=
  mantissaValue (text.takeWhile fun c => !isExponentMark c) *
    10 ^ exponentValue ((text.dropWhile fun c => !isExponentMark c).drop 1)

/-- An imaginary number: a decimal number in front of its unit. -/
def IsImaginary (text : List Char) (value : ℚ) : Prop :=
  ∃ number unit, text = number ++ [unit] ∧ unit ∈ ['j', 'J'] ∧ IsDecimal number ∧
    decimalValue number = value

variable {base n : Nat} {text digits : List Char} {c : Char}

theorem bare_cons (isDigit : digitValue c < 16) : bare (c :: digits) = c :: bare digits := by
  refine List.filter_cons_of_pos (bne_iff_ne.mpr fun isSpace => ?_)
  rw [isSpace] at isDigit
  exact absurd isDigit (by decide)

theorem eq_zero_of_digitValue (isZero : digitValue c < 1) : c = '0' := by
  have small : digitValue c < 10 := Nat.lt_trans isZero (by decide)
  have isChar : digitChars.get ⟨digitValue c, Nat.lt_trans small (by decide)⟩ = c.toLower :=
    List.getElem_idxOf _
  rw [toLower_of_lt_ten small] at isChar
  simp only [Nat.lt_one_iff.mp isZero] at isChar
  exact isChar.symm

namespace DigitPart

theorem of_digits (areDigits : ∀ c ∈ digits, digitValue c < base) (some : digits ≠ []) :
    DigitPart base digits := by
  induction digits with
  | nil => contradiction
  | cons c rest ih =>
    obtain ⟨isDigit, further⟩ := List.forall_mem_cons.mp areDigits
    cases rest with
    | nil => exact .single isDigit
    | cons next rest => exact .digit isDigit (ih further (List.cons_ne_nil _ _))

variable (part : DigitPart base text) (small : base ≤ 16)
include part small

theorem areDigits : ∀ c ∈ bare text, digitValue c < base := by
  induction part with
  | single isDigit =>
    rw [bare_cons (Nat.lt_of_lt_of_le isDigit small)]
    exact List.forall_mem_cons.mpr ⟨isDigit, nofun⟩
  | digit isDigit _ ih | space isDigit _ ih =>
    rw [bare_cons (Nat.lt_of_lt_of_le isDigit small)]
    exact List.forall_mem_cons.mpr ⟨isDigit, ih⟩

theorem exists_cons :
    ∃ first rest others, text = first :: rest ∧ bare text = first :: others := by
  cases part with
  | single isDigit | digit isDigit | space isDigit =>
    rw [bare_cons (Nat.lt_of_lt_of_le isDigit small)]
    exact ⟨_, _, _, rfl, rfl⟩

theorem bare_ne_nil : bare text ≠ [] := by
  obtain ⟨first, rest, others, -, isBare⟩ := part.exists_cons small
  rw [isBare]
  exact List.cons_ne_nil _ _

theorem head?_bare : (bare text).head? = text.head? := by
  obtain ⟨first, rest, others, isText, isBare⟩ := part.exists_cons small
  rw [isBare, isText]
  rfl

theorem not_mem (noSpace : c ≠ '_') (noDigit : 16 ≤ digitValue c) : c ∉ text := by
  intro member
  have isDigit := part.areDigits small c (List.mem_filter.mpr ⟨member, bne_iff_ne.mpr noSpace⟩)
  omega

end DigitPart

theorem exists_form {mark : Char} (isMark : (mark, base) ∈ baseMarks) :
    ∃ form : Form, form.base = base ∧ ['0', mark] ∈ form.marks ∧ ∀ digits, form.Begins digits := by
  simp only [baseMarks, List.mem_cons, Prod.mk.injEq, List.not_mem_nil, or_false] at isMark
  obtain ⟨rfl, rfl⟩ | ⟨rfl, rfl⟩ | ⟨rfl, rfl⟩ | ⟨rfl, rfl⟩ | ⟨rfl, rfl⟩ | ⟨rfl, rfl⟩ := isMark
  · exact ⟨.hexadecimal, rfl, by decide, fun _ => trivial⟩
  · exact ⟨.hexadecimal, rfl, by decide, fun _ => trivial⟩
  · exact ⟨.octal, rfl, by decide, fun _ => trivial⟩
  · exact ⟨.octal, rfl, by decide, fun _ => trivial⟩
  · exact ⟨.binary, rfl, by decide, fun _ => trivial⟩
  · exact ⟨.binary, rfl, by decide, fun _ => trivial⟩

theorem valueOf_zeros (part : DigitPart 1 text) (base : Nat) : valueOf base text = 0 := by
  have areZeros : (bare text).map digitValue = List.replicate (bare text).length 0 := by
    refine List.eq_replicate_iff.mpr ⟨List.length_map .., fun value member => ?_⟩
    obtain ⟨c, isDigit, rfl⟩ := List.mem_map.mp member
    exact Nat.lt_one_iff.mp (part.areDigits (by decide) c isDigit)
  rw [valueOf, areZeros, List.reverse_replicate, Nat.ofDigits_replicate_zero]

namespace IsInteger

theorem exists_marked {mark : Char} {written : List Char} (isMark : (mark, base) ∈ baseMarks)
    (part : DigitPart base digits) (same : bare written = bare digits) :
    ∃ integer : Integer, integer.text = String.ofList ('0' :: mark :: written) ∧
      integer.value = valueOf base digits ∧ integer.unit = [] := by
  obtain ⟨form, rfl, isMark, begins⟩ := exists_form isMark
  have areDigits := part.areDigits form.base_le
  have some := part.bare_ne_nil form.base_le
  have value : valueOf form.base written = valueOf form.base digits := by
    rw [valueOf, valueOf, same]
  rw [← same] at areDigits some
  exact ⟨⟨form, ['0', mark], written, [], isMark, areDigits, some, begins _, by decide⟩,
    by simp [Integer.text], value, rfl⟩

theorem exists_zeros (part : DigitPart 1 text) :
    ∃ integer : Integer, integer.text = String.ofList text ∧ integer.value = 0 ∧
      integer.unit = [] := by
  have small : 1 ≤ 16 := by decide
  have areDigits {base : Nat} (positive : 1 ≤ base) : ∀ c ∈ bare text, digitValue c < base :=
    fun c member => Nat.lt_of_lt_of_le (part.areDigits small c member) positive
  have isZero : ∀ c ∈ bare text, c = '0' :=
    fun c member => eq_zero_of_digitValue (part.areDigits small c member)
  have isBare := List.eq_replicate_of_mem isZero
  have some := part.bare_ne_nil small
  match length : (bare text).length with
  | 0 => exact absurd (List.eq_nil_of_length_eq_zero length) some
  | 1 =>
    rw [length] at isBare
    exact ⟨⟨.decimal, [], text, [], by decide, areDigits (by decide), some, .inl isBare,
      by decide⟩, by simp [Integer.text], valueOf_zeros part _, rfl⟩
  | more + 2 =>
    rw [length] at isBare
    exact ⟨⟨.leadingZero, [], text, [], by decide, areDigits (by decide), some,
      ⟨_, _, isBare⟩, by decide⟩, by simp [Integer.text], valueOf_zeros part _, rfl⟩

theorem exists_integer (isInteger : IsInteger text n) :
    ∃ integer : Integer, integer.text = String.ofList text ∧ integer.value = n ∧
      integer.unit = [] := by
  cases isInteger with
  | marked isMark part => exact exists_marked isMark part rfl
  | spaced isMark part => exact exists_marked isMark part rfl
  | zeros part => exact exists_zeros part
  | decimal begins part =>
    have small : 10 ≤ 16 := by decide
    refine ⟨⟨.decimal, [], text, [], by decide, part.areDigits small, part.bare_ne_nil small,
      .inr ?_, by decide⟩, by simp [Integer.text], rfl, rfl⟩
    rwa [part.head?_bare small]

theorem not_mem (isInteger : IsInteger text n) (other : c ∈ ['.', '+', '-']) :
    c ∉ text := by
  have noDigit : ∀ c ∈ ['.', '+', '-'], c ≠ '_' ∧ 16 ≤ digitValue c ∧ c ≠ '0' ∧
      ∀ mark ∈ baseMarks, c ≠ mark.1 := by
    simp only [List.forall_mem_cons]
    exact ⟨by decide, by decide, by decide, nofun⟩
  obtain ⟨noSpace, noDigit, noZero, noMark⟩ := noDigit c other
  cases isInteger with
  | zeros part | decimal _ part => exact part.not_mem (by decide) noSpace noDigit
  | marked isMark part | spaced isMark part =>
    obtain ⟨form, rfl, -⟩ := exists_form isMark
    simp [noZero, noMark _ isMark, noSpace, part.not_mem form.base_le noSpace noDigit]

end IsInteger

end MutationTesting.Number
