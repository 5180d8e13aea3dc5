import Mathlib
import BatchBayes.Double
import BatchBayes.Proofs.Order
/-!
Doubles are ordered and negated exactly. A double is three fields, of which negation
changes the first alone, and comparison goes by sign, exponent and mantissa in turn.
-/

namespace BatchBayes

open Float.Model (UnpackedFloat Format)
open Float.Model.UnpackedFloat

namespace Doubles

/-! ## Fields -/

theorem ofBitVec_unpackSign (sign : Sign) (exponent : BitVec 11)
    (mantissa : BitVec 52) :
    Sign.ofBitVec (unpackSign (packComponents .binary64 sign exponent mantissa)) =
      sign := by
  simp only [unpackSign, packComponents, BitVec.extractLsb]
  rw [BitVec.extractLsb'_append_eq_of_le (by decide),
    BitVec.extractLsb'_append_eq_of_le (by decide)]
  cases sign <;> rfl

theorem packComponents_unpack (bits : BitVec Format.binary64.numBits) :
    packComponents .binary64 (Sign.ofBitVec (unpackSign bits)) (unpackExponent bits)
      (unpackMantissa bits) = bits := by
  have sign : ∀ bit : BitVec 1, (Sign.ofBitVec bit).toBitVec = bit := by decide
  rw [packComponents, sign, unpackSign, unpackExponent, unpackMantissa]
  ext index bound
  grind [BitVec.extractLsb]

/-- The number that three fields stand for. -/
def ofFields (sign : Sign) (exponent : BitVec 11) (mantissa : BitVec 52) :
    UnpackedFloat :=
  if exponent = -1#11 then
    if mantissa = 0#52 then .infinity sign else .notANumber
  else if exponent = 0#11 then
    if empty : mantissa = 0#52 then .zero sign
    else
      .finite sign mantissa.toNat (-1074)
        (Nat.pos_of_ne_zero fun zero => empty (BitVec.toNat_inj.1 zero))
  else .finite sign (2 ^ 52 + mantissa.toNat) (exponent.toNat - 1075) (by omega)

theorem unpack_packComponents (sign : Sign) (exponent : BitVec 11)
    (mantissa : BitVec 52) :
    unpack .binary64 (packComponents .binary64 sign exponent mantissa) =
      ofFields sign exponent mantissa := by
  have leading : (1#1 ++ mantissa).toNat = 2 ^ 52 + mantissa.toNat := by
    rw [BitVec.toNat_append, ← Nat.shiftLeft_add_eq_or_of_lt mantissa.isLt,
      Nat.shiftLeft_eq]
    simp
  rw [unpack, ofFields]
  simp only [unpackMantissa_packComponents, unpackExponent_packComponents,
    ofBitVec_unpackSign, leading]
  split_ifs with infinite zero subnormal empty
  · rfl
  · rfl
  · rfl
  · rw [subnormal]
    rfl
  · rfl

theorem pack_finite (sign : Sign) (mantissa : Nat) (exponent : Int)
    (positive : 0 < mantissa) :
    pack .binary64 (.finite sign mantissa exponent positive) =
      if 2 ^ 11 ≤ (exponent + 1023 + 52).toNat + 1 then
        packedInfinity .binary64 sign
      else if mantissa.log2 + 1 = 53 then
        packComponents .binary64 sign
          (BitVec.ofNat 11 (exponent + 1023 + 52).toNat) (BitVec.ofNat 52 mantissa)
      else packComponents .binary64 sign (0#11) (BitVec.ofNat 52 mantissa) :=
  rfl

/-- Packing gives the fields back, unless they stand for no number. -/
theorem pack_ofFields (sign : Sign) {exponent : BitVec 11} {mantissa : BitVec 52}
    (number : exponent = -1#11 → mantissa = 0#52) :
    pack .binary64 (ofFields sign exponent mantissa) =
      packComponents .binary64 sign exponent mantissa := by
  have small := mantissa.isLt
  have bounded := exponent.isLt
  rw [ofFields]
  split_ifs with infinite zero subnormal empty
  · rw [infinite, zero]
    rfl
  · exact absurd (number infinite) zero
  · rw [subnormal, empty]
    rfl
  · -- A mantissa without the leading one is too short for the normal form.
    have short : ¬ mantissa.toNat.log2 + 1 = 53 := by
      intro long
      have nonzero : mantissa.toNat ≠ 0 := by
        intro zero
        exact empty (BitVec.toNat_inj.1 zero)
      have below := (Nat.log2_lt nonzero).2 small
      omega
    rw [pack_finite, if_neg (by decide), if_neg short, subnormal,
      BitVec.ofNat_toNat, BitVec.setWidth_eq]
  · have notFull : exponent.toNat ≠ 2 ^ 11 - 1 := by
      intro full
      exact infinite (BitVec.toNat_inj.1 full)
    have biased :
        ((exponent.toNat : Int) - 1075 + 1023 + 52).toNat = exponent.toNat := by
      omega
    have long : (2 ^ 52 + mantissa.toNat).log2 + 1 = 53 := by
      have nonzero : 2 ^ 52 + mantissa.toNat ≠ 0 := by omega
      have lower := (Nat.le_log2 nonzero).2 (Nat.le_add_right (2 ^ 52) _)
      have upper := (Nat.log2_lt nonzero).2 (by omega : _ < 2 ^ 53)
      omega
    have low : BitVec.ofNat 52 (2 ^ 52 + mantissa.toNat) = mantissa := by
      apply BitVec.toNat_inj.1
      rw [BitVec.toNat_ofNat, Nat.add_mod_left, Nat.mod_eq_of_lt small]
    rw [pack_finite, biased, if_neg (by omega), if_pos long, low,
      BitVec.ofNat_toNat, BitVec.setWidth_eq]

theorem neg_ofFields (sign : Sign) (exponent : BitVec 11) (mantissa : BitVec 52) :
    (ofFields sign exponent mantissa).neg = ofFields (-sign) exponent mantissa := by
  rw [ofFields, ofFields]
  split_ifs <;> rfl

/-! ## Negation -/

def bits (x : Float) : BitVec Format.binary64.numBits :=
  x.toModel.toBits.toBitVec

theorem eq_of_bits {x y : Float} (same : bits x = bits y) : x = y := by
  obtain ⟨⟨⟨xBits⟩, _⟩⟩ := x
  obtain ⟨⟨⟨yBits⟩, _⟩⟩ := y
  obtain rfl : xBits = yBits := same
  rfl

theorem exists_fields (x : Float) :
    ∃ sign exponent mantissa,
      bits x = packComponents .binary64 sign exponent mantissa ∧
        x.toModel.unpack = ofFields sign exponent mantissa := by
  have fields := packComponents_unpack (bits x)
  refine ⟨_, _, _, fields.symm, ?_⟩
  rw [← unpack_packComponents, fields]
  rfl

/-- What is no number is kept in just one way, so that packing always gives a double
back. -/
theorem pack_unpack (x : Float) : pack .binary64 x.toModel.unpack = bits x := by
  obtain ⟨sign, exponent, mantissa, fields, unpacked⟩ := exists_fields x
  rw [unpacked]
  by_cases number : exponent = -1#11 → mantissa = 0#52
  · rw [pack_ofFields sign number, fields]
  · rw [Classical.not_imp] at number
    have canonical : bits x = packedNaN .binary64 := by
      apply x.toModel.valid.eq_packedNaN
      · change unpackExponent (bits x) = _
        rw [fields, unpackExponent_packComponents]
        exact number.1
      · change unpackMantissa (bits x) ≠ _
        rw [fields, unpackMantissa_packComponents]
        exact number.2
    rw [ofFields, if_pos number.1, if_neg number.2, canonical]
    rfl

theorem unpack_neg (x : Float) : (-x).toModel.unpack = x.toModel.unpack.neg := by
  obtain ⟨sign, exponent, mantissa, _, unpacked⟩ := exists_fields x
  change unpack .binary64 (pack .binary64 x.toModel.unpack.neg) = _
  rw [unpacked, neg_ofFields]
  by_cases number : exponent = -1#11 → mantissa = 0#52
  · rw [pack_ofFields (-sign) number, unpack_packComponents]
  · rw [Classical.not_imp] at number
    rw [ofFields, if_pos number.1, if_neg number.2]
    rfl

theorem neg_neg (x : Float) : - -x = x := by
  have twice : ∀ number : UnpackedFloat, number.neg.neg = number := by
    intro number
    rcases number with ⟨_ | _⟩ | _ | ⟨_ | _⟩ | ⟨_ | _, _, _, _⟩ <;> rfl
  apply eq_of_bits
  rw [← pack_unpack, ← pack_unpack, unpack_neg, unpack_neg, twice]

/-! ## Order -/

/-- The place of a number in the order: its kind, and within a kind the exponent and
then the mantissa, all of them negative below zero. -/
def rank : UnpackedFloat → Int × Int × Int
  | .notANumber => (0, 0, 0)
  | .infinity .negative => (-2, 0, 0)
  | .infinity .positive => (2, 0, 0)
  | .zero _ => (0, 0, 0)
  | .finite .negative mantissa exponent _ => (-1, -exponent, -mantissa)
  | .finite .positive mantissa exponent _ => (1, exponent, mantissa)

def Below (first second : Int × Int × Int) : Prop :=
  first.1 < second.1 ∨
    first.1 = second.1 ∧
      (first.2.1 < second.2.1 ∨
        first.2.1 = second.2.1 ∧ first.2.2 < second.2.2)

theorem below_trichotomy (first second : Int × Int × Int) :
    Below first second ∨ first = second ∨ Below second first := by
  rw [Below, Below, Prod.ext_iff, Prod.ext_iff]
  omega

theorem Below.trans {first second third : Int × Int × Int}
    (left : Below first second) (right : Below second third) : Below first third := by
  rw [Below] at *
  omega

/-- Numbers are compared by their ranks. -/
theorem compare_eq_some_iff (x y : UnpackedFloat) :
    (x.compare y = some .lt ↔
        x.isNaN = false ∧ y.isNaN = false ∧ Below (rank x) (rank y)) ∧
      (x.compare y = some .eq ↔
        x.isNaN = false ∧ y.isNaN = false ∧ rank x = rank y) := by
  have below : compare Sign.negative Sign.positive = .lt := rfl
  have same : ∀ sign : Sign, compare sign sign = .eq := by
    intro sign
    cases sign <;> rfl
  rcases x with ⟨_ | _⟩ | _ | ⟨_⟩ | ⟨_ | _, _, _, _⟩ <;>
    rcases y with ⟨_ | _⟩ | _ | ⟨_⟩ | ⟨_ | _, _, _, _⟩ <;>
    simp [UnpackedFloat.compare, UnpackedFloat.isNaN, rank, Below, below, same,
      Ordering.then_eq_lt, Ordering.then_eq_gt, Ordering.then_eq_eq,
      compare_lt_iff_lt, compare_gt_iff_gt]

theorem lt_iff (x y : Float) :
    x < y ↔
      x.isNaN = false ∧ y.isNaN = false ∧
        Below (rank x.toModel.unpack) (rank y.toModel.unpack) := by
  change
    decide ((x.toModel.unpack.compare y.toModel.unpack == some .lt) = true) = true ↔ _
  rw [decide_eq_true_iff, beq_iff_eq]
  exact (compare_eq_some_iff _ _).1

theorem le_iff (x y : Float) :
    x ≤ y ↔
      x.isNaN = false ∧ y.isNaN = false ∧
        (Below (rank x.toModel.unpack) (rank y.toModel.unpack) ∨
          rank x.toModel.unpack = rank y.toModel.unpack) := by
  change
    decide ((x.toModel.unpack.compare y.toModel.unpack).any (·.isLE) = true) = true ↔
      _
  obtain ⟨below, same⟩ := compare_eq_some_iff x.toModel.unpack y.toModel.unpack
  have split :
      (x.toModel.unpack.compare y.toModel.unpack).any (·.isLE) = true ↔
        x.toModel.unpack.compare y.toModel.unpack = some .lt ∨
          x.toModel.unpack.compare y.toModel.unpack = some .eq := by
    rcases x.toModel.unpack.compare y.toModel.unpack with _ | _ | _ | _ <;> simp
  rw [decide_eq_true_iff, split, below, same, ← and_or_left, ← and_or_left]
  rfl

theorem beq_iff (x y : Float) :
    (x == y) = true ↔
      x.isNaN = false ∧ y.isNaN = false ∧
        rank x.toModel.unpack = rank y.toModel.unpack := by
  change (x.toModel.unpack.compare y.toModel.unpack == some .eq) = true ↔ _
  rw [beq_iff_eq]
  exact (compare_eq_some_iff _ _).2

theorem rank_neg (x : UnpackedFloat) :
    rank x.neg = (-(rank x).1, -(rank x).2.1, -(rank x).2.2) := by
  rcases x with ⟨_ | _⟩ | _ | ⟨_⟩ | ⟨_ | _, _, _, _⟩ <;> simp [rank, UnpackedFloat.neg]

theorem below_neg_iff (x y : UnpackedFloat) :
    Below (rank x.neg) (rank y.neg) ↔ Below (rank y) (rank x) := by
  rw [rank_neg, rank_neg, Below, Below]
  dsimp only
  omega

theorem isNaN_neg (x : Float) : (-x).isNaN = x.isNaN := by
  change (-x).toModel.unpack.isNaN = x.toModel.unpack.isNaN
  rw [unpack_neg]
  cases x.toModel.unpack <;> rfl

theorem isNaN_of_isFinite {x : Float} (finite : Scalar.isFinite x = true) :
    x.isNaN = false := by
  change x.toModel.unpack.isFinite = true at finite
  change x.toModel.unpack.isNaN = false
  cases unpacked : x.toModel.unpack with
  | notANumber =>
      rw [unpacked] at finite
      cases finite
  | infinity => rfl
  | zero => rfl
  | finite => rfl

end Doubles

open Doubles in
instance : ExactNegation Float where
  lt_irrefl x := by
    rw [lt_iff, Below]
    omega
  lt_trans := by
    intro x y z
    rw [lt_iff, lt_iff, lt_iff]
    rintro ⟨xNumber, _, left⟩ ⟨_, zNumber, right⟩
    exact ⟨xNumber, zNumber, left.trans right⟩
  le_trans := by
    intro x y z
    rw [le_iff, le_iff, le_iff]
    rintro ⟨xNumber, _, left⟩ ⟨_, zNumber, right⟩
    refine ⟨xNumber, zNumber, ?_⟩
    rcases left with left | left
    · rcases right with right | right
      · exact .inl (left.trans right)
      · exact .inl (right ▸ left)
    · rw [left]
      exact right
  beq_of_not_lt := by
    intro x y xFinite yFinite notBelow notAbove
    have xNumber := isNaN_of_isFinite xFinite
    have yNumber := isNaN_of_isFinite yFinite
    rw [lt_iff] at notBelow notAbove
    rw [beq_iff]
    refine ⟨xNumber, yNumber, ?_⟩
    rcases below_trichotomy (rank x.toModel.unpack) (rank y.toModel.unpack) with
      below | same | above
    · exact absurd ⟨xNumber, yNumber, below⟩ notBelow
    · exact same
    · exact absurd ⟨yNumber, xNumber, above⟩ notAbove
  neg_neg := Doubles.neg_neg
  neg_lt_neg_iff x y := by
    rw [lt_iff, lt_iff, isNaN_neg, isNaN_neg, unpack_neg, unpack_neg, below_neg_iff]
    exact and_left_comm
  isFinite_neg x := by
    change (-x).toModel.unpack.isFinite = x.toModel.unpack.isFinite
    rw [unpack_neg]
    cases x.toModel.unpack <;> rfl
  not_largest_lt_neg := by decide +kernel

end BatchBayes
