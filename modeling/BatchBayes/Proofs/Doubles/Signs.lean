import Mathlib
import BatchBayes.Proofs.Doubles
/-!
Doubles that are not below zero. They are closed under products, the doubles nearest to
natural numbers are among them, and the greatest integer not above one of them is not
negative.
-/

namespace BatchBayes

open Float.Model (UnpackedFloat Format)
open Float.Model.UnpackedFloat

namespace Doubles

/-- A positive number, a zero of either sign, or no number. -/
def IsUnsigned : UnpackedFloat → Prop
  | .infinity .negative => False
  | .finite .negative _ _ _ => False
  | _ => True

instance : DecidablePred IsUnsigned
  | .infinity .negative => .isFalse id
  | .finite .negative _ _ _ => .isFalse id
  | .infinity .positive => .isTrue trivial
  | .finite .positive _ _ _ => .isTrue trivial
  | .zero _ => .isTrue trivial
  | .notANumber => .isTrue trivial

theorem isUnsigned_ofFields (exponent : BitVec 11) (mantissa : BitVec 52) :
    IsUnsigned (ofFields .positive exponent mantissa) := by
  rw [ofFields]
  split_ifs <;> trivial

/-! ## Rounding -/

theorem isUnsigned_roundWithAccuracy (format : Format) (mantissa : Nat) (exponent : Int)
    (accuracy : Accuracy) :
    IsUnsigned (roundWithAccuracy format .positive mantissa exponent accuracy) := by
  rw [roundWithAccuracy]
  dsimp only
  split <;> trivial

theorem isUnsigned_normalize (format : Format) (mantissa : Nat) (exponent : Int) :
    IsUnsigned (UnpackedFloat.normalize format mantissa exponent .positive) := by
  unfold UnpackedFloat.normalize
  cases order : compare (mantissa : Int) 0
  case lt =>
    have negative := compare_lt_iff_lt.1 order
    omega
  case eq => trivial
  case gt => exact isUnsigned_roundWithAccuracy _ _ _ _

theorem IsUnsigned.mul {format : Format} {x y : UnpackedFloat} (left : IsUnsigned x)
    (right : IsUnsigned y) : IsUnsigned (x.mul format y) := by
  rcases x with ⟨_ | _⟩ | _ | ⟨_⟩ | ⟨_ | _, _, _, _⟩ <;>
    rcases y with ⟨_ | _⟩ | _ | ⟨_⟩ | ⟨_ | _, _, _, _⟩
  case finite.positive.finite.positive => exact isUnsigned_roundWithAccuracy _ _ _ _
  all_goals
    first
      | exact left.elim
      | exact right.elim
      | trivial

theorem isUnsigned_ofScientific (format : Format) (mantissa : Nat) {exponent : Int}
    (nonneg : 0 ≤ exponent) :
    IsUnsigned (UnpackedFloat.ofScientific format mantissa exponent) := by
  rw [UnpackedFloat.ofScientific]
  split_ifs <;> first | trivial | exact IsUnsigned.mul trivial trivial

/-- Packing keeps signs. -/
theorem IsUnsigned.pack {number : UnpackedFloat} (unsigned : IsUnsigned number) :
    IsUnsigned (Float.Model.pack number).unpack := by
  change IsUnsigned (unpack .binary64 (number.pack .binary64))
  have packed : ∀ exponent mantissa,
      IsUnsigned (unpack .binary64 (packComponents .binary64 .positive exponent mantissa)) := by
    intro exponent mantissa
    rw [unpack_packComponents]
    exact isUnsigned_ofFields exponent mantissa
  rcases number with ⟨_ | _⟩ | _ | ⟨_ | _⟩ | ⟨_ | _, mantissa, exponent, positive⟩
  case infinity.negative => exact unsigned.elim
  case finite.negative => exact unsigned.elim
  case infinity.positive => exact packed _ _
  case notANumber => exact packed _ _
  case zero.positive => exact packed _ _
  case zero.negative =>
    change IsUnsigned (unpack .binary64 (packComponents .binary64 .negative 0 0))
    rw [unpack_packComponents]
    trivial
  case finite.positive =>
    rw [pack_finite]
    split_ifs <;> exact packed _ _

/-! ## Operations -/

theorem isUnsigned_mul {x y : Float} (left : IsUnsigned x.toModel.unpack)
    (right : IsUnsigned y.toModel.unpack) : IsUnsigned (x * y).toModel.unpack :=
  (left.mul right).pack

theorem isUnsigned_of_not_lt {x zero : Float} (number : zero.isNaN = false)
    (null : rank zero.toModel.unpack = (0, 0, 0)) (above : ¬ x < zero) :
    IsUnsigned x.toModel.unpack := by
  rw [lt_iff, null] at above
  change ¬(x.toModel.unpack.isNaN = false ∧ _) at above
  rcases unpacked : x.toModel.unpack with ⟨_ | _⟩ | _ | _ | ⟨_ | _, _, _, _⟩
  case infinity.negative | finite.negative =>
    rw [unpacked] at above
    exact above ⟨rfl, number, .inl (by norm_num [rank])⟩
  all_goals trivial

theorem isUnsigned_ofInt {number : Int} (nonneg : 0 ≤ number) :
    IsUnsigned (Float.ofInt number).toModel.unpack := by
  obtain ⟨count, rfl⟩ := Int.eq_ofNat_of_zero_le nonneg
  change IsUnsigned (Float.ofScientific count false 0).toModel.unpack
  rw [Float.ofScientific]
  split
  · have unit : IsUnsigned (Float.exactlyRepresentablePowersOfTen[0]).toModel.unpack := by
      decide +kernel
    exact isUnsigned_mul (isUnsigned_normalize _ _ _).pack unit
  · exact (isUnsigned_ofScientific _ _ le_rfl).pack

/-! ## Integers below a double -/

theorem floor_nonneg_of_unsigned_form {form : BinaryForm}
    (unsigned : form.negative = false) : 0 ≤ form.floor := by
  have magnitude : form.withSign form.ratio.1 = form.ratio.1 := by
    rw [BinaryForm.withSign, unsigned]
    rfl
  change 0 ≤ Int.fdiv (form.withSign form.ratio.1) form.ratio.2
  rw [magnitude]
  exact Int.fdiv_nonneg (Int.natCast_nonneg _) (Int.natCast_nonneg _)

theorem negative_fields {x : Float} {exponent : BitVec 11} {mantissa : BitVec 52}
    (fields : bits x = packComponents .binary64 .positive exponent mantissa) :
    (BinaryForm.fields x).1 = false := by
  have number : (bits x).toNat = exponent.toNat * 2 ^ 52 + mantissa.toNat := by
    rw [fields]
    change (0#1 ++ exponent ++ mantissa).toNat = _
    rw [BitVec.toNat_append, BitVec.toNat_append,
      ← Nat.shiftLeft_add_eq_or_of_lt mantissa.isLt, Nat.shiftLeft_eq]
    simp
  have small := mantissa.isLt
  have bounded := exponent.isLt
  have top : (bits x).toNat >>> 63 = 0 := by
    rw [Nat.shiftRight_eq_div_pow, number]
    omega
  change (x.toBits >>> 63 == 1) = false
  rw [beq_eq_false_iff_ne]
  intro one
  have signBit := congrArg UInt64.toNat one
  change (bits x).toNat >>> 63 = 1 at signBit
  omega

/-- The greatest integer not above a double that is not below zero. -/
theorem floor_nonneg {x : Float} (unsigned : IsUnsigned x.toModel.unpack) :
    0 ≤ Scalar.floor x := by
  change 0 ≤ if x.isFinite then (BinaryForm.ofFloat x).floor else 0
  split
  case isFalse => exact le_rfl
  case isTrue finite =>
    obtain ⟨sign, exponent, mantissa, fields, unpacked⟩ := exists_fields x
    cases sign with
    | positive =>
        apply floor_nonneg_of_unsigned_form
        rw [BinaryForm.ofFloat]
        dsimp only
        split <;> exact negative_fields fields
    | negative =>
        change x.toModel.unpack.isFinite = true at finite
        rw [unpacked] at finite unsigned
        obtain ⟨rfl, rfl⟩ : exponent = 0 ∧ mantissa = 0 := by
          rw [ofFields] at finite unsigned
          split_ifs at finite unsigned with infinite zero subnormal empty
          · cases finite
          · cases finite
          · exact ⟨subnormal, empty⟩
          · exact unsigned.elim
          · exact unsigned.elim
        have zero : x = -0.0 := eq_of_bits (fields.trans (by decide +kernel))
        rw [zero]
        decide +kernel

end Doubles

end BatchBayes
