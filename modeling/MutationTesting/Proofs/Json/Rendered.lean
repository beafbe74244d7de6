import MutationTesting.Proofs.Json.Magnitude
import MutationTesting.Proofs.Json.Printed
/-! Numbers as they are written. What is written for a natural number or a floating-point value is a
number of JSON; the natural number is read back, and for every floating-point value there is one that
is read. -/
namespace MutationTesting.Json

open Decimal (isDigit Scaled Binary Tie zeros toDigits_eq_cons isDigit_toDigits digits?_toDigits)

theorem isRun_toDigits (n : Nat) : IsRun (Nat.toDigits 10 n) :=
  ⟨Nat.toDigits_ne_nil, fun _ => isDigit_toDigits⟩

theorem isWhole_toDigits (n : Nat) : IsWhole (Nat.toDigits 10 n) := by
  refine ⟨isRun_toDigits n, ?_⟩
  obtain rfl | positive := Nat.eq_zero_or_pos n
  · exact .inl rfl
  · obtain ⟨first, rest, digits, nonzero⟩ := toDigits_eq_cons positive
    rw [digits]
    exact .inr fun same => nonzero (Option.some.inj same)

theorem printable_natural (n : Nat) : (natural n).Printable := by
  refine .number ⟨[], Nat.toDigits 10 n, [], [], .inl rfl, isWhole_toDigits n, .inl rfl, .inl rfl, ?_⟩
  simp

theorem natural?_natural {width n : Nat} (small : n < Nat.pow 2 width) :
    (natural n).natural? width = some n := by
  have fits : (some n).filter (· < Nat.pow 2 width) = some n :=
    Option.filter_eq_some_iff.mpr ⟨rfl, decide_eq_true small⟩
  rw [natural, natural?, String.toList_ofList, digits?_toDigits, fits]

section Shape

/-- A number without a sign as it is written. -/
def IsUnsigned (body : List Char) : Prop :=
  ∃ whole fraction exponent, IsWhole whole ∧ IsFraction fraction ∧ IsExponent exponent ∧
    body = whole ++ fraction ++ exponent

theorem isRun_append {digits further : List Char} (isRun : IsRun digits)
    (all : ∀ c ∈ further, isDigit c = true) : IsRun (digits ++ further) := by
  refine ⟨by simp [isRun.some], fun c member => ?_⟩
  obtain member | member := List.mem_append.mp member
  · exact isRun.all c member
  · exact all c member

theorem isDigit_zeros {n : Nat} {c : Char} (member : c ∈ zeros n) : isDigit c = true := by
  obtain rfl := List.eq_of_mem_replicate member
  rfl

/-- Digits with a point consist of a whole part, which is not longer than their exponent tells, and
of digits behind the point. -/
theorem plain_eq {n : Nat} {exponent : Int} (zero : n = 0 → exponent = 0) :
    ∃ whole fraction, IsWhole whole ∧ IsRun fraction ∧
      (whole.length : Int) ≤ max 1 (exponent + (Nat.toDigits 10 n).length) ∧
      Decimal.plain (Nat.toDigits 10 n) exponent = whole ++ '.' :: fraction := by
  have isRun := isRun_toDigits n
  unfold Decimal.plain
  split
  · rename_i natural
    have isWhole : IsWhole (Nat.toDigits 10 n ++ zeros exponent.toNat) := by
      refine ⟨isRun_append isRun fun _ => isDigit_zeros, ?_⟩
      obtain none | positive := Nat.eq_zero_or_pos n
      · rw [zero none, none]
        exact .inl rfl
      · obtain ⟨first, rest, digits, nonzero⟩ := toDigits_eq_cons positive
        rw [digits]
        exact .inr fun same => nonzero (Option.some.inj same)
    refine ⟨_, ['0'], isWhole, isRun_zero, ?_, by simp⟩
    rw [List.length_append, zeros, List.length_replicate]
    omega
  · rename_i negative
    have positive : 0 < n := Nat.pos_of_ne_zero fun none => by
      rw [zero none] at negative
      exact negative (Int.le_refl 0)
    obtain ⟨first, rest, digits, nonzero⟩ := toDigits_eq_cons positive
    dsimp only
    split
    · rename_i inside
      obtain ⟨k, length⟩ : ∃ k, (Nat.toDigits 10 n).length - (-exponent).toNat = k + 1 :=
        ⟨(Nat.toDigits 10 n).length - (-exponent).toNat - 1, by omega⟩
      have isWhole : IsWhole ((Nat.toDigits 10 n).take (k + 1)) := by
        refine ⟨⟨?_, fun c member => isRun.all c (List.mem_of_mem_take member)⟩, .inr ?_⟩
        · rw [digits]
          exact List.cons_ne_nil _ _
        · rw [digits]
          exact fun same => nonzero (Option.some.inj same)
      have behind : IsRun ((Nat.toDigits 10 n).drop (k + 1)) := by
        refine ⟨fun none => ?_, fun c member => isRun.all c (List.mem_of_mem_drop member)⟩
        have short := List.drop_eq_nil_iff.mp none
        omega
      rw [length]
      refine ⟨_, _, isWhole, behind, ?_, rfl⟩
      rw [List.length_take]
      omega
    · refine ⟨['0'], zeros ((-exponent).toNat - (Nat.toDigits 10 n).length) ++ Nat.toDigits 10 n,
        ⟨isRun_zero, .inl rfl⟩, ⟨by simp, fun c member => ?_⟩, Int.le_max_left 1 _, by simp⟩
      obtain member | member := List.mem_append.mp member
      · exact isDigit_zeros member
      · exact isRun.all c member

theorem exponentOf_eq (exponent : Int) :
    exponentOf ('e' :: (if exponent < 0 then '-' else '+') :: Nat.toDigits 10 exponent.natAbs) =
      exponent := by
  split
  · have read : Decimal.integer? ('-' :: Nat.toDigits 10 exponent.natAbs) =
        some (-(exponent.natAbs : Int)) := by
      simp only [Decimal.integer?, digits?_toDigits]
      rfl
    rw [exponentOf, read, Option.getD_some]
    omega
  · have read : Decimal.integer? ('+' :: Nat.toDigits 10 exponent.natAbs) =
        some (exponent.natAbs : Int) := by
      simp only [Decimal.integer?, Decimal.unsigned?, digits?_toDigits]
      rfl
    rw [exponentOf, read, Option.getD_some]
    omega

theorem scientific_eq (n : Nat) (exponent : Int) :
    ∃ first rest, Nat.toDigits 10 n = first :: rest ∧
      Decimal.scientific 1 (Nat.toDigits 10 n) exponent =
        (if rest = [] then [first] else first :: '.' :: rest) ++
          'e' :: (if exponent < 0 then '-' else '+') :: Nat.toDigits 10 exponent.natAbs := by
  have noZeros : zeros (1 - (Nat.toDigits 10 exponent.natAbs).length) = [] := by
    have positive : 0 < (Nat.toDigits 10 exponent.natAbs).length := Nat.length_toDigits_pos
    rw [Nat.sub_eq_zero_of_le positive]
    rfl
  unfold Decimal.scientific
  dsimp only
  rw [noZeros]
  cases digits : Nat.toDigits 10 n with
  | nil => exact absurd digits Nat.toDigits_ne_nil
  | cons first rest =>
    refine ⟨first, rest, rfl, ?_⟩
    cases rest <;> simp

/-- The text of a decimal, without a sign. -/
def bodyOf (decimal : Scaled) : List Char :=
  let digits := Nat.toDigits 10 decimal.coefficient
  let leading := decimal.exponent + digits.length - 1
  if floatLayout.plainFrom ≤ leading ∧ leading ≤ floatLayout.plainTo then
    Decimal.plain digits decimal.exponent
  else Decimal.scientific floatLayout.exponentDigits digits leading

theorem isUnsigned_bodyOf {decimal : Scaled}
    (zero : decimal.coefficient = 0 → decimal.exponent = 0) : IsUnsigned (bodyOf decimal) := by
  unfold bodyOf
  dsimp only
  split
  · obtain ⟨whole, fraction, isWhole, isRun, -, plain⟩ := plain_eq zero
    exact ⟨whole, '.' :: fraction, [], isWhole, .inr ⟨fraction, isRun, rfl⟩, .inl rfl, by simp [plain]⟩
  · have isRun := isRun_toDigits decimal.coefficient
    generalize decimal.exponent + (Nat.toDigits 10 decimal.coefficient).length - 1 = exponent
    obtain ⟨first, rest, digits, scientific⟩ := scientific_eq decimal.coefficient exponent
    have isExponent : IsExponent
        ('e' :: (if exponent < 0 then '-' else '+') :: Nat.toDigits 10 exponent.natAbs) := by
      refine .inr ⟨_, _, ?_, isRun_toDigits _, rfl⟩
      split
      · exact .inr rfl
      · exact .inl rfl
    rw [digits] at isRun
    have isWhole : IsWhole [first] := by
      refine ⟨⟨by simp, by simpa using isRun.all first List.mem_cons_self⟩, ?_⟩
      by_cases isZero : first = '0'
      · exact .inl (by rw [isZero])
      · exact .inr fun same => isZero (Option.some.inj same)
    rw [show floatLayout.exponentDigits = 1 from rfl, scientific]
    cases rest with
    | nil => exact ⟨[first], [], _, isWhole, .inl rfl, isExponent, by simp⟩
    | cons second rest =>
      have behind : IsRun (second :: rest) :=
        ⟨by simp, fun c member => isRun.all c (List.mem_cons_of_mem _ member)⟩
      exact ⟨[first], _, _, isWhole, .inr ⟨_, behind, rfl⟩, isExponent, by simp⟩

theorem magnitude?_bodyOf {decimal : Scaled}
    (zero : decimal.coefficient = 0 → decimal.exponent = 0)
    (small : decimal.coefficient * Nat.pow 10 decimal.exponent.toNat ≤
      nearlyLargest * Nat.pow 10 (-decimal.exponent).toNat) :
    (magnitude? (bodyOf decimal)).isSome := by
  unfold bodyOf
  dsimp only
  split
  · rename_i plain
    obtain ⟨whole, fraction, isWhole, isRun, length, text⟩ := plain_eq zero
    have upper : floatLayout.plainTo = 15 := rfl
    rw [text]
    exact magnitude?_plain isWhole.1.all isRun.all (by omega)
  · have isRun := isRun_toDigits decimal.coefficient
    obtain ⟨first, rest, digits, scientific⟩ := scientific_eq decimal.coefficient
      (decimal.exponent + (Nat.toDigits 10 decimal.coefficient).length - 1)
    have value : Nat.ofDigitChars 10 (first :: rest) 0 = decimal.coefficient := by
      rw [← digits, Nat.ofDigitChars_ten_toDigits]
    rw [show floatLayout.exponentDigits = 1 from rfl, scientific]
    rw [digits] at isRun ⊢
    have one := isRun.all first List.mem_cons_self
    have leading := exponentOf_eq (decimal.exponent + (first :: rest).length - 1)
    cases rest with
    | nil =>
      have exponent : decimal.exponent + ([first] : List Char).length - 1 = decimal.exponent := by
        simp
      rw [Nat.ofDigitChars_cons, Nat.ofDigitChars_nil, Nat.mul_zero, Nat.zero_add] at value
      rw [exponent] at leading ⊢
      refine magnitude?_digit one ?_
      rw [leading, value]
      obtain negative | natural := Int.lt_or_le decimal.exponent 0
      · have digit := (Decimal.digit?_ten one).2
        rw [value] at digit
        exact word_le_nearlyLargest (Nat.lt_trans digit (by decide)) (by omega)
      · exact le_of_shifted (c := 0) (Nat.le_of_eq (Nat.mul_one _)) small (by omega)
    | cons second rest =>
      have exponent : decimal.exponent + (first :: second :: rest).length - 1 -
          (second :: rest).length = decimal.exponent := by
        simp only [List.length_cons]
        omega
      refine magnitude?_scientific one (fun c member => isRun.all c (List.mem_cons_of_mem _ member)) ?_
      rw [leading, value, exponent, ← Int.neg_sub, exponent]
      exact small

end Shape

section Shortest

variable {tie : Tie} {x : Binary}

theorem has_shortest (tie : Tie) (x : Binary) :
    x.shortest tie = ⟨0, 0⟩ ∨
      (x.interval.scale (x.shortest tie).exponent).has (x.shortest tie).coefficient = true := by
  unfold Binary.shortest
  dsimp only
  cases found : (List.range Decimal.grids).findSome? fun (steps : Nat) =>
      ((x.interval.scale (Decimal.coarsest - steps)).nearest? tie).map
        (Scaled.mk · (Decimal.coarsest - steps)) with
  | none => exact .inl rfl
  | some decimal =>
    obtain ⟨steps, -, isNearest⟩ := List.exists_of_findSome?_eq_some found
    obtain ⟨n, inside, rfl⟩ := Option.map_eq_some_iff.mp isNearest
    exact .inr (Decimal.Interval.has_of_nearest? inside)

/-- What lies in an interval is positive if its lower end is, and not greater than its upper end. -/
theorem bounds_of_has {i : Decimal.Interval} {n : Nat} (has : i.has n = true) :
    i.low ≤ n * i.denominator ∧ n * i.denominator ≤ i.high := by
  unfold Decimal.Interval.has at has
  dsimp only at has
  split at has <;> simp only [Bool.and_eq_true, decide_eq_true_eq] at has
  · exact has
  · exact ⟨Nat.le_of_lt has.1, Nat.le_of_lt has.2⟩

theorem shortest_zero (positive : 0 < x.significand) (zero : (x.shortest tie).coefficient = 0) :
    (x.shortest tie).exponent = 0 := by
  obtain none | has := has_shortest tie x
  · rw [none]
  · have low := (bounds_of_has has).1
    rw [zero, Nat.zero_mul] at low
    have lowPositive : 0 < (x.interval.scale (x.shortest tie).exponent).low := by
      refine Nat.mul_pos (Nat.mul_pos ?_ (Nat.pow_pos (by decide))) (Nat.pow_pos (by decide))
      split <;> omega
    omega

/-- The shortest decimal is not greater than the upper end of the interval. -/
theorem shortest_le (tie : Tie) (x : Binary) :
    (x.shortest tie).coefficient * Nat.pow 10 (x.shortest tie).exponent.toNat ≤
      (4 * x.significand + 2) * Nat.pow 2 (x.exponent - 2).toNat *
        Nat.pow 10 (-(x.shortest tie).exponent).toNat := by
  obtain none | has := has_shortest tie x
  · rw [none]
    exact Nat.le_trans (Nat.le_of_eq (Nat.zero_mul _)) (Nat.zero_le _)
  · have high := (bounds_of_has has).2
    have denominator : Nat.pow 10 (x.shortest tie).exponent.toNat ≤
        (x.interval.scale (x.shortest tie).exponent).denominator :=
      Nat.le_mul_of_pos_left _ (Nat.pow_pos (by decide))
    exact Nat.le_trans (Nat.mul_le_mul_left _ denominator) high

end Shortest

section Floats

theorem binary?_range {x : Float} {b : Binary} (finite : Decimal.isFinite x = true)
    (parts : Decimal.binary? x = some b) :
    0 < b.significand ∧ b.significand < Nat.pow 2 53 ∧ b.exponent ≤ 971 := by
  have below : x.toBits.toNat % Nat.pow 2 52 < Nat.pow 2 52 :=
    Nat.mod_lt _ (Nat.pow_pos (by decide))
  have biased : x.toBits.toNat / Nat.pow 2 52 % Nat.pow 2 11 < Nat.pow 2 11 :=
    Nat.mod_lt _ (Nat.pow_pos (by decide))
  have notLast : x.toBits.toNat / Nat.pow 2 52 % Nat.pow 2 11 ≠ Nat.pow 2 11 - 1 := by
    simpa [Decimal.isFinite] using finite
  unfold Decimal.binary? at parts
  dsimp only at parts
  generalize x.toBits.toNat % Nat.pow 2 52 = fraction at *
  generalize x.toBits.toNat / Nat.pow 2 52 % Nat.pow 2 11 = biased at *
  rw [show Nat.pow 2 52 = 4503599627370496 from rfl, show Nat.pow 2 11 = 2048 from rfl] at *
  rw [show Nat.pow 2 53 = 9007199254740992 from rfl]
  split at parts
  · split at parts
    · contradiction
    · rename_i some
      obtain rfl := Option.some.inj parts
      exact ⟨Nat.pos_of_ne_zero some, Nat.lt_trans below (by decide),
        show (-1074 : Int) ≤ 971 by decide⟩
  · obtain rfl := Option.some.inj parts
    refine ⟨?_, ?_, ?_⟩ <;> dsimp only <;> omega

theorem shortest_largest : ∀ narrow,
    Binary.shortest .even ⟨Nat.pow 2 53 - 1, 971, narrow⟩ = ⟨17976931348623157, 292⟩ := by
  decide +kernel

theorem pow_two_mono {low high : Nat} (le : low ≤ high) : Nat.pow 2 low ≤ Nat.pow 2 high :=
  Nat.pow_le_pow_right (by decide) le

theorem high_le {significand exponent : Nat} (small : significand < Nat.pow 2 53)
    (range : exponent ≤ 969) (notLargest : ¬(significand = Nat.pow 2 53 - 1 ∧ exponent = 969)) :
    (4 * significand + 2) * Nat.pow 2 exponent ≤ nearlyLargest := by
  rw [show Nat.pow 2 53 = 9007199254740992 from rfl] at small notLargest
  obtain lower | same := Nat.lt_or_eq_of_le range
  · have power := pow_two_mono (show exponent ≤ 968 by omega)
    exact Nat.le_trans (Nat.mul_le_mul (show 4 * significand + 2 ≤ 36028797018963966 by omega) power)
      (by decide +kernel)
  · have power := pow_two_mono range
    exact Nat.le_trans (Nat.mul_le_mul (show 4 * significand + 2 ≤ 36028797018963962 by omega) power)
      (by decide +kernel)

theorem magnitude?_shortest {b : Binary} (positive : 0 < b.significand)
    (small : b.significand < Nat.pow 2 53) (exponent : b.exponent ≤ 971) :
    (magnitude? (bodyOf (b.shortest .even))).isSome := by
  by_cases largest : b.significand = Nat.pow 2 53 - 1 ∧ b.exponent = 971
  · obtain ⟨significand, exponent, narrow⟩ := b
    obtain ⟨rfl, rfl⟩ := largest
    rw [shortest_largest]
    decide +kernel
  · refine magnitude?_bodyOf (shortest_zero positive) (Nat.le_trans (shortest_le .even b) ?_)
    refine Nat.mul_le_mul_right _ (high_le small (by omega) fun isLargest => largest ⟨isLargest.1, ?_⟩)
    omega

/-- A finite value without its sign as it is written. -/
def magnitudeText (x : Float) : List Char :=
  match Decimal.binary? x with
  | none => ['0', '.', '0']
  | some b => bodyOf (b.shortest .even)

theorem render_eq (x : Float) : floatLayout.render x =
    String.ofList (if Decimal.isNegative x then '-' :: magnitudeText x else magnitudeText x) := by
  unfold Decimal.Layout.render magnitudeText
  cases Decimal.binary? x <;> rfl

variable {x : Float}

theorem isUnsigned_magnitudeText (finite : Decimal.isFinite x = true) :
    IsUnsigned (magnitudeText x) := by
  unfold magnitudeText
  split
  · exact ⟨['0'], ['.', '0'], [], ⟨isRun_zero, .inl rfl⟩,
      .inr ⟨['0'], isRun_zero, rfl⟩, .inl rfl, rfl⟩
  · rename_i b parts
    exact isUnsigned_bodyOf (shortest_zero (binary?_range finite parts).1)

theorem magnitude?_magnitudeText (finite : Decimal.isFinite x = true) :
    (magnitude? (magnitudeText x)).isSome := by
  unfold magnitudeText
  split
  · rfl
  · rename_i b parts
    obtain ⟨positive, small, exponent⟩ := binary?_range finite parts
    exact magnitude?_shortest positive small exponent

theorem printable_float (x : Float) : (float x).Printable := by
  unfold float
  split
  · rename_i finite
    obtain ⟨whole, fraction, exponent, isWhole, isFraction, isExponent, body⟩ :=
      isUnsigned_magnitudeText finite
    refine .number ?_
    rw [render_eq, String.toList_ofList, body]
    split
    · exact ⟨['-'], whole, fraction, exponent, .inr rfl, isWhole, isFraction, isExponent, rfl⟩
    · exact ⟨[], whole, fraction, exponent, .inl rfl, isWhole, isFraction, isExponent, rfl⟩
  · exact .null

/-- What is written for a finite value is read as one. -/
theorem float?_float (finite : Decimal.isFinite x = true) :
    ∃ y, (float x).float? = some y := by
  obtain ⟨y, read⟩ := Option.isSome_iff_exists.mp (magnitude?_magnitudeText finite)
  obtain ⟨whole, fraction, exponent, isWhole, -, -, body⟩ := isUnsigned_magnitudeText finite
  obtain ⟨first, rest, rfl, isDigit⟩ := isWhole.starts
  have unsigned (cs : List Char) : magnitudeText x ≠ '-' :: cs := by
    rw [body]
    intro same
    obtain ⟨rfl, -⟩ := List.cons.inj same
    contradiction
  rw [float, if_pos finite, render_eq, float?, String.toList_ofList]
  cases Decimal.isNegative x with
  | true =>
    refine ⟨-y, ?_⟩
    rw [if_pos rfl]
    show (magnitude? (magnitudeText x)).map _ = _
    rw [read]
    rfl
  | false =>
    rw [if_neg (by decide)]
    split
    · rename_i cs same
      exact absurd same (unsigned cs)
    · exact ⟨y, read⟩

end Floats

end MutationTesting.Json
