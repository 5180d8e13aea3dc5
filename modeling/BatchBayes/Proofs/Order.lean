import Mathlib
import BatchBayes.Proofs.Exact
/-!
What some properties need of the numbers beyond their operations: that comparison
orders them, and that negation is exact and turns the order around. Exact numbers and
doubles both have it.
-/

namespace BatchBayes

/-- Comparison is an order, and finite numbers of which none is below the other are
equal. A value that is no number may be unequal to itself. -/
class OrderedScalar (K : Type) [Scalar K] : Prop where
  lt_irrefl (x : K) : ¬ x < x
  lt_trans {x y z : K} : x < y → y < z → x < z
  le_trans {x y z : K} : x ≤ y → y ≤ z → x ≤ z
  beq_of_not_lt {x y : K} :
    Scalar.isFinite x = true → Scalar.isFinite y = true →
      ¬ x < y → ¬ y < x → (x == y) = true

/-- Negation is exact and reverses the order. -/
class ExactNegation (K : Type) [Scalar K] : Prop extends OrderedScalar K where
  neg_neg (x : K) : - -x = x
  neg_lt_neg_iff (x y : K) : -x < -y ↔ y < x
  isFinite_neg (x : K) : Scalar.isFinite (-x) = Scalar.isFinite x
  /-- The ends of the finite numbers are in order. -/
  not_largest_lt_neg : ¬ (Scalar.largest : K) < -Scalar.largest

instance : ExactNegation ℝ where
  lt_irrefl := lt_irrefl
  lt_trans := lt_trans
  le_trans := le_trans
  beq_of_not_lt := by
    intro x y _ _ notBelow notAbove
    exact beq_iff_eq.2 (le_antisymm (not_lt.1 notAbove) (not_lt.1 notBelow))
  neg_neg := neg_neg
  neg_lt_neg_iff x y := neg_lt_neg_iff
  isFinite_neg x := rfl
  not_largest_lt_neg := by
    change ¬ (2 ^ 1024 - 2 ^ 971 : ℝ) < -(2 ^ 1024 - 2 ^ 971)
    have below : (2 : ℝ) ^ 971 ≤ 2 ^ 1024 :=
      pow_le_pow_right₀ one_le_two (by decide)
    exact not_lt.2 (neg_le_self (sub_nonneg.2 below))

end BatchBayes
