import BatchBayes.Proofs.Doubles
/-!
Values that are numbers are linearly ordered. A value that is no number is neither below
nor above any other.
-/

namespace BatchBayes

/-- Of two numbers either one is below the other or the other is at most the one. The
finite values are numbers, and so is the lowest value. -/
class LinearScalar (K : Type) [Scalar K] [OrderedScalar K] : Prop where
  le_iff_not_lt {x y : K} :
    Scalar.isNaN x = false → Scalar.isNaN y = false → (x ≤ y ↔ ¬ y < x)
  isNaN_of_isFinite {x : K} : Scalar.isFinite x = true → Scalar.isNaN x = false
  isNaN_lowest : Scalar.isNaN (-Scalar.infinity : K) = false

namespace LinearScalar

variable {K : Type} [Scalar K] [OrderedScalar K] [LinearScalar K] {x y z : K}

theorem le_refl (number : Scalar.isNaN x = false) : x ≤ x :=
  (le_iff_not_lt number number).2 (OrderedScalar.lt_irrefl x)

theorem le_of_lt (xNumber : Scalar.isNaN x = false) (yNumber : Scalar.isNaN y = false)
    (below : x < y) : x ≤ y := by
  rw [le_iff_not_lt xNumber yNumber]
  intro above
  exact OrderedScalar.lt_irrefl x (OrderedScalar.lt_trans below above)

theorem lt_of_not_lt_of_lt (xNumber : Scalar.isNaN x = false)
    (yNumber : Scalar.isNaN y = false) (zNumber : Scalar.isNaN z = false)
    (notAbove : ¬ y < x) (below : y < z) : x < z := by
  by_contra notBelow
  have above : z ≤ y :=
    OrderedScalar.le_trans ((le_iff_not_lt zNumber xNumber).2 notBelow)
      ((le_iff_not_lt xNumber yNumber).2 notAbove)
  exact (le_iff_not_lt zNumber yNumber).1 above below

theorem lt_of_lt_of_not_lt (xNumber : Scalar.isNaN x = false)
    (yNumber : Scalar.isNaN y = false) (zNumber : Scalar.isNaN z = false)
    (below : x < y) (notAbove : ¬ z < y) : x < z := by
  by_contra notBelow
  have above : y ≤ x :=
    OrderedScalar.le_trans ((le_iff_not_lt yNumber zNumber).2 notAbove)
      ((le_iff_not_lt zNumber xNumber).2 notBelow)
  exact (le_iff_not_lt yNumber xNumber).1 above below

end LinearScalar

instance : LinearScalar ℝ where
  le_iff_not_lt _ _ := not_lt.symm
  isNaN_of_isFinite _ := rfl
  isNaN_lowest := rfl

open Doubles in
instance : LinearScalar Float where
  le_iff_not_lt := by
    intro x y xNumber yNumber
    have xIsNumber : x.isNaN = false := xNumber
    have yIsNumber : y.isNaN = false := yNumber
    rw [le_iff, lt_iff]
    simp only [xIsNumber, yIsNumber, true_and]
    constructor
    · rintro (below | same) above
      · have twice := below.trans above
        rw [Below] at twice
        omega
      · rw [same, Below] at above
        omega
    · intro notAbove
      rcases below_trichotomy (rank x.toModel.unpack) (rank y.toModel.unpack) with
        below | same | above
      · exact .inl below
      · exact .inr same
      · exact absurd above notAbove
  isNaN_of_isFinite := Doubles.isNaN_of_isFinite
  isNaN_lowest := by decide +kernel

end BatchBayes
