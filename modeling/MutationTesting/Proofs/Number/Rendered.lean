import Mathlib
import MutationTesting.Decimal.Layout
import MutationTesting.Proofs.Number.Literal
/-! Floating-point values as text. The text is a decimal number with a point or an exponent, and it
denotes the shortest decimal that rounds to the value. -/
namespace MutationTesting.Number

open Decimal

/-- The number that the digits of a value and their exponent stand for. -/
def scaledValue (decimal : Scaled) : ℚ :=
  decimal.coefficient * 10 ^ decimal.exponent

/-- The number that the shortest decimal for a finite value stands for, its sign left out. -/
def shortestValue (tie : Tie) (x : Float) : ℚ :=
  match binary? x with
  | none => 0
  | some binary => scaledValue (binary.shortest tie)

/-- Decimal digits and nothing else. -/
def AreDigits (text : List Char) : Prop :=
  ∀ c ∈ text, digitValue c < 10

variable {whole fraction mantissa digits : List Char}

theorem AreDigits.append (first : AreDigits whole) (second : AreDigits fraction) :
    AreDigits (whole ++ fraction) :=
  fun c member => (List.mem_append.mp member).elim (first c) (second c)

theorem AreDigits.bare (areDigits : AreDigits digits) : bare digits = digits :=
  bare_of_digits fun c member => Nat.lt_trans (areDigits c member) (by decide)

theorem areDigits_zeros (n : Nat) : AreDigits (zeros n) := by
  intro c member
  rw [List.eq_of_mem_replicate member]
  decide

theorem areDigits_toDigits (n : Nat) : AreDigits (Nat.toDigits 10 n) :=
  fun _ member => isDigit_iff.mp (isDigit_toDigits member)

theorem AreDigits.not_mem {c : Char} (areDigits : AreDigits digits) (noDigit : 10 ≤ digitValue c) :
    c ∉ digits :=
  fun member => absurd (areDigits c member) (Nat.not_lt.mpr noDigit)

/-! Values of digits next to each other. -/

theorem valueOf_append (first : AreDigits whole) (second : AreDigits fraction) :
    valueOf 10 (whole ++ fraction) =
      valueOf 10 fraction + 10 ^ fraction.length * valueOf 10 whole := by
  rw [valueOf, valueOf, valueOf, (first.append second).bare, first.bare, second.bare,
    List.map_append, List.reverse_append, Nat.ofDigits_append, List.length_reverse,
    List.length_map]

theorem valueOf_replicate (n : Nat) : valueOf 10 (zeros n) = 0 := by
  have isZero : digitValue '0' = 0 := by decide
  rw [valueOf, (areDigits_zeros n).bare, zeros, List.map_replicate, isZero, List.reverse_replicate,
    Nat.ofDigits_replicate_zero]

theorem valueOf_append_zeros (areDigits : AreDigits digits) (n : Nat) :
    valueOf 10 (digits ++ zeros n) = valueOf 10 digits * 10 ^ n := by
  rw [valueOf_append areDigits (areDigits_zeros n), valueOf_replicate, Nat.zero_add, zeros,
    List.length_replicate, Nat.mul_comm]

theorem valueOf_zeros_append (areDigits : AreDigits digits) (n : Nat) :
    valueOf 10 (zeros n ++ digits) = valueOf 10 digits := by
  rw [valueOf_append (areDigits_zeros n) areDigits, valueOf_replicate, Nat.mul_zero, Nat.add_zero]

/-! The parts of a decimal number are found where they end. -/

theorem mantissaValue_digits (areDigits : AreDigits whole) :
    mantissaValue whole = valueOf 10 whole := by
  have noPoint : ∀ c ∈ whole, (c != '.') = true :=
    fun c member => bne_iff_ne.mpr fun isPoint =>
      areDigits.not_mem (by decide) (isPoint ▸ member)
  simp [mantissaValue, List.takeWhile_eq_self_iff.mpr noPoint, List.dropWhile_eq_nil_iff.mpr noPoint,
    bare]

theorem mantissaValue_point (first : AreDigits whole) (second : AreDigits fraction) :
    mantissaValue (whole ++ '.' :: fraction) =
      valueOf 10 (whole ++ fraction) / 10 ^ fraction.length := by
  have noPoint : ∀ c ∈ whole, (c != '.') = true :=
    fun c member => bne_iff_ne.mpr fun isPoint => first.not_mem (by decide) (isPoint ▸ member)
  simp [mantissaValue, List.takeWhile_append_of_pos noPoint, List.dropWhile_append_of_pos noPoint,
    second.bare]

/-- What has no letter of an exponent. -/
def FreeOfMarks (text : List Char) : Prop :=
  ∀ c ∈ text, (!isExponentMark c) = true

theorem AreDigits.freeOfMarks (areDigits : AreDigits digits) : FreeOfMarks digits := by
  intro c member
  have isDigit := areDigits c member
  simp only [isExponentMark, Bool.not_eq_true', Bool.or_eq_false_iff, beq_eq_false_iff_ne]
  constructor
  · rintro rfl
    exact absurd isDigit (by decide)
  · rintro rfl
    exact absurd isDigit (by decide)

theorem decimalValue_mantissa (free : FreeOfMarks mantissa) :
    decimalValue mantissa = mantissaValue mantissa := by
  simp [decimalValue, List.takeWhile_eq_self_iff.mpr free, List.dropWhile_eq_nil_iff.mpr free,
    exponentValue, valueOf, bare]

theorem decimalValue_exponent {power : List Char} (free : FreeOfMarks mantissa) :
    decimalValue (mantissa ++ 'e' :: power) =
      mantissaValue mantissa * 10 ^ exponentValue power := by
  have isMark : ¬ (!isExponentMark 'e') = true := by decide
  rw [decimalValue, List.takeWhile_append_of_pos free, List.dropWhile_append_of_pos free,
    List.takeWhile_cons_of_neg (p := fun c => !isExponentMark c) isMark,
    List.dropWhile_cons_of_neg (p := fun c => !isExponentMark c) isMark, List.append_nil]
  rfl

/-! A decimal as a layout writes it. -/

/-- A text is a decimal number that denotes a value. -/
structure Denotes (text : List Char) (value : ℚ) : Prop where
  isDecimal : IsDecimal text
  value : decimalValue text = value

theorem freeOfMarks_point (first : AreDigits whole) (second : AreDigits fraction) :
    FreeOfMarks (whole ++ '.' :: fraction) := by
  intro c member
  obtain inWhole | inRest := List.mem_append.mp member
  · exact first.freeOfMarks c inWhole
  · obtain rfl | inFraction := List.mem_cons.mp inRest
    · rfl
    · exact second.freeOfMarks c inFraction

theorem denotes_point (first : AreDigits whole) (second : AreDigits fraction)
    (some : whole ≠ []) (more : fraction ≠ []) :
    Denotes (whole ++ '.' :: fraction)
      (valueOf 10 (whole ++ fraction) / 10 ^ fraction.length) where
  isDecimal := .pointed (.fraction (.inr (.of_digits first some)) (.of_digits second more))
  value := by
    rw [decimalValue_mantissa (freeOfMarks_point first second), mantissaValue_point first second]

/-- Digits with a point denote their value times the power of ten of the last one. -/
theorem denotes_plain (areDigits : AreDigits digits) (some : digits ≠ []) (exponent : ℤ) :
    Denotes (plain digits exponent) (valueOf 10 digits * 10 ^ exponent) := by
  have isZero : AreDigits ['0'] := areDigits_zeros 1
  unfold plain
  split
  · rename_i nonneg
    obtain ⟨power, rfl⟩ := Int.eq_ofNat_of_zero_le nonneg
    have whole := areDigits.append (areDigits_zeros power)
    have value : (valueOf 10 (digits ++ zeros power ++ ['0']) : ℚ) / 10 ^ 1 =
        valueOf 10 digits * 10 ^ (power : ℤ) := by
      rw [show ['0'] = zeros 1 from rfl, valueOf_append_zeros whole,
        valueOf_append_zeros areDigits]
      push_cast
      rw [zpow_natCast]
      field_simp
    rw [← value]
    exact denotes_point whole isZero (List.append_ne_nil_of_left_ne_nil some _)
      (List.cons_ne_nil _ _)
  · rename_i negative
    dsimp only
    obtain ⟨places, rfl⟩ : ∃ places : ℕ, exponent = -places := ⟨(-exponent).toNat, by omega⟩
    have isPlaces : (- -(places : ℤ)).toNat = places := by omega
    rw [isPlaces, zpow_neg, zpow_natCast, ← div_eq_mul_inv]
    split
    · rename_i less
      have length : (digits.drop (digits.length - places)).length = places := by
        rw [List.length_drop]
        omega
      have point := @denotes_point (digits.take (digits.length - places))
        (digits.drop (digits.length - places))
        (fun c member => areDigits c (List.mem_of_mem_take member))
        (fun c member => areDigits c (List.mem_of_mem_drop member))
        (List.ne_nil_of_length_pos (by rw [List.length_take]; omega))
        (List.ne_nil_of_length_pos (by omega))
      rwa [List.take_append_drop, length] at point
    · rename_i notLess
      have length : (zeros (places - digits.length) ++ digits).length = places := by
        rw [List.length_append, zeros, List.length_replicate]
        omega
      have fraction := (areDigits_zeros (places - digits.length)).append areDigits
      have point := denotes_point isZero fraction (List.cons_ne_nil _ _)
        (List.append_ne_nil_of_right_ne_nil _ some)
      rwa [length, show ['0'] = zeros 1 from rfl, valueOf_zeros_append fraction,
        valueOf_zeros_append areDigits] at point

/-- What is in front of an exponent: digits with a point behind the first one, if there are
others. -/
theorem scientific_mantissa {first : Char} {rest : List Char} (areDigits : AreDigits (first :: rest)) :
    ∃ mantissa, (DigitPart 10 mantissa ∨ IsPointed mantissa) ∧ FreeOfMarks mantissa ∧
      mantissaValue mantissa = valueOf 10 (first :: rest) / 10 ^ rest.length ∧
      ∀ exponentDigits exponent, scientific exponentDigits (first :: rest) exponent =
        mantissa ++ 'e' :: ([if exponent < 0 then '-' else '+'] ++
          (zeros (exponentDigits - (Nat.toDigits 10 exponent.natAbs).length) ++
            Nat.toDigits 10 exponent.natAbs)) := by
  have single : AreDigits [first] := fun c member =>
    areDigits c (List.mem_singleton.mp member ▸ List.mem_cons_self)
  cases rest with
  | nil =>
    refine ⟨[first], .inl (.of_digits areDigits (List.cons_ne_nil _ _)), areDigits.freeOfMarks, ?_,
      fun _ _ => ?_⟩
    · rw [mantissaValue_digits areDigits]
      simp
    · simp [scientific]
  | cons next rest =>
    have further : AreDigits (next :: rest) := fun c member => areDigits c (.tail _ member)
    refine ⟨[first] ++ '.' :: next :: rest, .inr (.fraction
      (.inr (.of_digits single (List.cons_ne_nil _ _))) (.of_digits further (List.cons_ne_nil _ _))),
      freeOfMarks_point single further, ?_, fun _ _ => ?_⟩
    · exact mantissaValue_point single further
    · simp [scientific]

theorem exponentValue_signed (exponent : ℤ) (more : Nat) :
    exponentValue ([if exponent < 0 then '-' else '+'] ++
      (zeros more ++ Nat.toDigits 10 exponent.natAbs)) = exponent := by
  have value : valueOf 10 (zeros more ++ Nat.toDigits 10 exponent.natAbs) = exponent.natAbs := by
    rw [valueOf_zeros_append (areDigits_toDigits _), valueOf_toDigits]
  split
  · change -(valueOf 10 (zeros more ++ Nat.toDigits 10 exponent.natAbs) : ℤ) = exponent
    rw [value]
    omega
  · change (valueOf 10 (zeros more ++ Nat.toDigits 10 exponent.natAbs) : ℤ) = exponent
    rw [value]
    omega

theorem denotes_scientific (areDigits : AreDigits digits) (some : digits ≠ [])
    (exponentDigits : Nat) (exponent : ℤ) :
    Denotes (scientific exponentDigits digits exponent)
      (valueOf 10 digits * 10 ^ (exponent - digits.length + 1)) := by
  obtain ⟨first, rest, rfl⟩ := List.exists_cons_of_ne_nil some
  obtain ⟨mantissa, isMantissa, free, value, text⟩ := scientific_mantissa areDigits
  rw [text]
  constructor
  · refine .exponent isMantissa (by decide) (by split <;> decide) (.of_digits ?_ ?_)
    · exact (areDigits_zeros _).append (areDigits_toDigits _)
    · exact List.append_ne_nil_of_right_ne_nil _ Nat.toDigits_ne_nil
  · rw [decimalValue_exponent free, exponentValue_signed, value, List.length_cons, Nat.cast_succ,
      div_mul_eq_mul_div, ← zpow_natCast, mul_div_assoc, ← zpow_sub₀ (by norm_num)]
    congr 2
    ring

/-- A decimal in a layout. -/
def written (layout : Layout) (decimal : Scaled) : List Char :=
  let digits := Nat.toDigits 10 decimal.coefficient
  let leading := decimal.exponent + digits.length - 1
  if layout.plainFrom ≤ leading ∧ leading ≤ layout.plainTo then plain digits decimal.exponent
  else scientific layout.exponentDigits digits leading

/-- A value in a layout, its sign left out. -/
def magnitude (layout : Layout) (x : Float) : List Char :=
  match binary? x with
  | none => ['0', '.', '0']
  | some binary => written layout (binary.shortest layout.tie)

theorem toList_render (layout : Layout) (x : Float) :
    (layout.render x).toList =
      if isNegative x then '-' :: magnitude layout x else magnitude layout x := by
  rw [Layout.render, String.toList_ofList]
  rfl

theorem denotes_written (layout : Layout) (decimal : Scaled) :
    Denotes (written layout decimal) (scaledValue decimal) := by
  have areDigits := areDigits_toDigits decimal.coefficient
  have some : Nat.toDigits 10 decimal.coefficient ≠ [] := Nat.toDigits_ne_nil
  have value := valueOf_toDigits decimal.coefficient
  unfold written scaledValue
  dsimp only
  split
  · have denotes := denotes_plain areDigits some decimal.exponent
    rwa [value] at denotes
  · have denotes := denotes_scientific areDigits some layout.exponentDigits
      (decimal.exponent + (Nat.toDigits 10 decimal.coefficient).length - 1)
    rwa [value, sub_sub, add_comm (1 : ℤ), ← sub_sub, add_sub_cancel_right, sub_add_cancel]
      at denotes

/-- The text of a value without a minus sign denotes the shortest decimal for it. -/
theorem denotes_render (layout : Layout) {x : Float} (positive : isNegative x = false) :
    Denotes (layout.render x).toList (shortestValue layout.tie x) := by
  rw [toList_render, positive, if_neg Bool.false_ne_true]
  unfold magnitude shortestValue
  cases binary? x with
  | none =>
    have isZero : AreDigits ['0'] := areDigits_zeros 1
    have value : (valueOf 10 ['0', '0'] : ℚ) / 10 ^ 1 = 0 := by
      rw [show ['0', '0'] = zeros 2 from rfl, valueOf_replicate]
      simp
    exact value ▸ denotes_point isZero isZero (List.cons_ne_nil _ _) (List.cons_ne_nil _ _)
  | some binary => exact denotes_written layout _

theorem exists_mem_render (layout : Layout) (x : Float) :
    ∃ c ∈ ['.', '+', '-'], c ∈ (layout.render x).toList := by
  have inWritten (decimal : Scaled) : ∃ c ∈ ['.', '+', '-'], c ∈ written layout decimal := by
    unfold written
    dsimp only
    split
    · refine ⟨'.', by decide, ?_⟩
      unfold plain
      dsimp only
      repeat' split
      all_goals simp
    · refine ⟨_, ?_, List.mem_append_left _ (List.mem_append_left _
        (List.mem_append_right _ (.tail _ (.head _))))⟩
      split <;> decide
  have inMagnitude : ∃ c ∈ ['.', '+', '-'], c ∈ magnitude layout x := by
    unfold magnitude
    cases binary? x with
    | none => exact ⟨'.', by decide, .tail _ (.head _)⟩
    | some binary => exact inWritten _
  rw [toList_render]
  obtain ⟨c, isMark, member⟩ := inMagnitude
  split
  · exact ⟨c, isMark, .tail _ member⟩
  · exact ⟨c, isMark, member⟩

end MutationTesting.Number
