import Mathlib
import MutationTesting.Decimal.Layout
import MutationTesting.Decimal.Numeral
/-! The signs of floating-point values. A sum of two values without a minus sign has none, and
neither has the value nearest to a natural number. -/
namespace MutationTesting.Decimal

open Float.Model Float.Model.UnpackedFloat

/-- A floating-point number that has no minus sign. -/
def Unsigned : UnpackedFloat → Prop
  | .infinity sign | .zero sign | .finite sign _ _ _ => sign = .positive
  | .notANumber => True

variable {number other : UnpackedFloat} {x y : Float}

theorem isNegative_eq (x : Float) :
    isNegative x = (@unpackSign Format.binary64 x.toBits.toBitVec == 1#1) := by
  have bound := x.toBits.toNat_lt
  rw [Bool.eq_iff_iff, isNegative, beq_iff_eq, beq_iff_eq, ← UInt64.toNat_inj, ← BitVec.toNat_inj,
    unpackSign_def, UInt64.toNat_shiftRight, BitVec.extractLsb'_toNat, UInt64.toNat_toBitVec,
    Nat.shiftRight_eq_div_pow, Nat.shiftRight_eq_div_pow]
  change x.toBits.toNat / 2 ^ 63 = 1 ↔ x.toBits.toNat / 2 ^ 63 % 2 = 1
  omega

theorem unpackSign_pack (unsigned : Unsigned number) :
    unpackSign (UnpackedFloat.pack Format.binary64 number) = 0#1 := by
  unfold UnpackedFloat.pack
  cases number with
  | notANumber => exact unpackSign_packComponents _ _ _
  | infinity sign | zero sign =>
    obtain rfl : sign = .positive := unsigned
    exact unpackSign_packComponents _ _ _
  | finite sign mantissa exponent positive =>
    obtain rfl : sign = .positive := unsigned
    dsimp only
    split
    · exact unpackSign_packComponents _ _ _
    · split <;> exact unpackSign_packComponents _ _ _

theorem isNegative_pack (unsigned : Unsigned number) :
    isNegative ⟨Float.Model.pack number⟩ = false := by
  rw [isNegative_eq]
  change (unpackSign (UnpackedFloat.pack Format.binary64 number) == 1#1) = false
  rw [unpackSign_pack unsigned]
  rfl

theorem unsigned_unpack (positive : isNegative x = false) : Unsigned x.toModel.unpack := by
  have isPositive : Sign.ofBitVec (@unpackSign Format.binary64 x.toBits.toBitVec) =
      .positive := by
    have zero : ∀ sign : BitVec 1, (sign == 1#1) = false → sign = 0#1 := by decide
    exact if_pos (zero _ ((isNegative_eq x).symm.trans positive))
  unfold Float.Model.unpack UnpackedFloat.unpack
  dsimp only
  split
  · split
    · exact isPositive
    · trivial
  · split
    · split <;> exact isPositive
    · exact isPositive

theorem unsigned_round (spec : Format) (mantissa : Nat) (exponent : Int) (accuracy : Accuracy) :
    Unsigned (roundWithAccuracy spec .positive mantissa exponent accuracy) := by
  unfold roundWithAccuracy
  dsimp only
  split <;> rfl

theorem unsigned_normalize (spec : Format) {mantissa : Int} (nonneg : 0 ≤ mantissa)
    (exponent : Int) : Unsigned (UnpackedFloat.normalize spec mantissa exponent .positive) := by
  unfold UnpackedFloat.normalize
  split
  · rename_i less
    exact absurd (Int.compare_eq_lt.mp less) (Int.not_lt.mpr nonneg)
  · rfl
  · exact unsigned_round _ _ _ _

theorem unsigned_add (spec : Format) (first : Unsigned number) (second : Unsigned other) :
    Unsigned (UnpackedFloat.add spec number other) := by
  unfold UnpackedFloat.add
  split
  · trivial
  · trivial
  · split
    · exact first
    · trivial
  · exact first
  · exact second
  · split
    · exact first
    · rfl
  · exact second
  · exact first
  · obtain rfl : _ = Sign.positive := first
    obtain rfl : _ = Sign.positive := second
    exact unsigned_normalize _ (Int.add_nonneg (Int.natCast_nonneg _) (Int.natCast_nonneg _)) _

theorem isNegative_add (first : isNegative x = false) (second : isNegative y = false) :
    isNegative (x + y) = false :=
  isNegative_pack (unsigned_add _ (unsigned_unpack first) (unsigned_unpack second))

theorem unsigned_ofScientific (spec : Format) (mantissa : Nat) (exponent : Int) :
    Unsigned (UnpackedFloat.ofScientific spec mantissa exponent) := by
  unfold UnpackedFloat.ofScientific
  repeat' split
  · rfl
  · rfl
  · rfl
  · exact unsigned_round _ _ _ _
  · exact unsigned_round _ _ _ _

theorem isNegative_nearestFloat {n : Nat} (large : 2 ^ 53 ≤ n) :
    isNegative (nearestFloat n 0) = false := by
  unfold nearestFloat
  dsimp only
  split
  · decide +kernel
  · split
    · decide +kernel
    · rw [Float.ofScientific, dif_neg (by omega)]
      exact isNegative_pack (unsigned_ofScientific _ _ _)

end MutationTesting.Decimal
