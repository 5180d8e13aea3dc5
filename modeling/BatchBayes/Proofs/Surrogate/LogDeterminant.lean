import Mathlib
import BatchBayes.Proofs.Surrogate.Schur
/-!
The determinant of a covariance matrix from its Cholesky factor. Taking the first item out
of a covariance takes its variance out of the determinant, and this is one step of the
factorization, so that the logarithm of the determinant is twice that of the product of the
pivots.
-/

namespace BatchBayes

variable {α : Type}

/-- A covariance of two items with a product taken out of it. -/
def without (entry : α → α → ℝ) (factor : α → ℝ) (left right : α) : ℝ :=
  entry left right - factor left * factor right

theorem without_comm {entry : α → α → ℝ}
    (symmetric : ∀ left right, entry left right = entry right left) (factor : α → ℝ)
    (left right : α) :
    without entry factor left right = without entry factor right left := by
  rw [without, without, symmetric, mul_comm]

namespace LowerHalf

theorem eliminate_ofItems (diagonal : α → ℝ) (entry : α → α → ℝ) (factor : α → ℝ)
    (items : List α) :
    eliminate (items.map factor) (ofItems diagonal entry items) =
      ofItems (fun item => diagonal item - factor item * factor item)
        (without entry factor) items := by
  induction items with
  | nil => rfl
  | cons item items inductionHypothesis =>
      rw [List.map_cons, ofItems, eliminate, inductionHypothesis, List.zipWith_map,
        List.zipWith_self]
      rfl

end LowerHalf

/-! ## Determinants -/

/-- Rows are reduced by multiples of the first one until nothing is left below the first
variance. -/
theorem det_kernelMatrix_cons {entry : α → α → ℝ}
    (symmetric : ∀ left right, entry left right = entry right left) {item : α}
    (positive : 0 < entry item item) (items : List α) :
    (kernelMatrix entry (item :: items)).det =
      entry item item *
        (kernelMatrix
          (without entry fun other => entry other item / √(entry item item))
          items).det := by
  have root : √(entry item item) * √(entry item item) = entry item item :=
    Real.mul_self_sqrt positive.le
  let multiple : Fin (items.length + 1) → ℝ :=
    Fin.cons 0 fun i => entry items[i] item / entry item item
  let reduced : Matrix (Fin (items.length + 1)) (Fin (items.length + 1)) ℝ :=
    Matrix.of fun i j =>
      kernelMatrix entry (item :: items) i j -
        multiple i * kernelMatrix entry (item :: items) 0 j
  have same : (kernelMatrix entry (item :: items)).det = reduced.det := by
    refine Matrix.det_eq_of_forall_row_eq_smul_add_const multiple 0 rfl fun i j => ?_
    simp [reduced, multiple]
  have column : ∀ i : Fin items.length, reduced i.succ 0 = 0 := by
    intro i
    simp [reduced, multiple, kernelMatrix, positive.ne']
  have rest :
      reduced.submatrix Fin.succ Fin.succ =
        kernelMatrix
          (without entry fun other => entry other item / √(entry item item)) items := by
    ext i j
    simp only [reduced, multiple, kernelMatrix, without, Matrix.submatrix_apply,
      Matrix.of_apply, Fin.cons_succ]
    rw [div_mul_div_comm, root, symmetric items[j] item]
    simp [div_mul_eq_mul_div]
  rw [same, Matrix.det_succ_column_zero, Fin.sum_univ_succ]
  simp only [column, mul_zero, zero_mul, Finset.sum_const_zero, add_zero,
    Fin.succAbove_zero, rest]
  simp [reduced, multiple, kernelMatrix]

/-- The determinant of a covariance matrix is the squared product of the pivots of its
factor. -/
theorem det_kernelMatrix_of_cholesky? {entry : α → α → ℝ}
    (symmetric : ∀ left right, entry left right = entry right left) {items : List α}
    {factor : LowerHalf ℝ}
    (success :
      (LowerHalf.ofItems (fun item => entry item item) entry items).cholesky? =
        some factor) :
    (kernelMatrix entry items).det = Real.exp (2 * factor.logPivots) := by
  induction items generalizing entry factor with
  | nil =>
      obtain rfl : [] = factor := by
        simpa [LowerHalf.ofItems, LowerHalf.cholesky?] using success
      simp [LowerHalf.logPivots, Scalar.sum_real]
  | cons item items inductionHypothesis =>
      rw [LowerHalf.ofItems] at success
      obtain ⟨positive, rest, restFactor, rfl⟩ :=
        LowerHalf.cholesky?_cons_eq_some success
      rw [List.map_map, LowerHalf.eliminate_ofItems] at restFactor
      have below :=
        inductionHypothesis
          (without_comm symmetric fun other => entry other item / √(entry item item))
          restFactor
      have pivots :
          2 *
              LowerHalf.logPivots
                (⟨√(entry item item),
                  (items.map (entry · item)).map (· / √(entry item item))⟩ :: rest) =
            Real.log (entry item item) + 2 * LowerHalf.logPivots rest := by
        simp only [LowerHalf.logPivots, Scalar.sum_real, List.map_cons, List.sum_cons,
          Scalar.log_real, Real.log_sqrt positive.le]
        ring
      rw [det_kernelMatrix_cons symmetric positive, below, Scalar.sqrt_real, pivots,
        Real.exp_add, Real.exp_log positive]

/-- A positive definite covariance matrix has a factor. -/
theorem exists_cholesky?_of_posDef {entry : α → α → ℝ}
    (symmetric : ∀ left right, entry left right = entry right left) {items : List α}
    (positive : (kernelMatrix entry items).PosDef) :
    ∃ factor,
      (LowerHalf.ofItems (fun item => entry item item) entry items).cholesky? =
        some factor := by
  rw [← Option.isSome_iff_exists,
    LowerHalf.cholesky?_isSome_iff (LowerHalf.isTriangular_ofItems _ _ _)]
  intro weights lengths nonzero
  rw [LowerHalf.length_ofItems] at lengths
  obtain ⟨pairs, rfl, rfl⟩ :
      ∃ pairs : List (α × ℝ), pairs.map (·.1) = items ∧ pairs.map (·.2) = weights :=
    ⟨items.zip weights, List.map_fst_zip lengths.ge, List.map_snd_zip lengths.le⟩
  have length : pairs.length = (pairs.map (·.1)).length := (List.length_map _).symm
  have placed := positive.submatrix (finCongr length).injective
  obtain ⟨weight, member, different⟩ := nonzero
  obtain ⟨place, inPairs, rfl⟩ := List.getElem_of_mem member
  rw [List.length_map] at inPairs
  let vector : Fin pairs.length → ℝ := fun i => pairs[i].2
  have vectorNonzero : vector ≠ 0 := by
    intro zero
    apply different
    simpa [vector] using congrFun zero ⟨place, inPairs⟩
  have form := placed.dotProduct_mulVec_pos vectorNonzero
  rw [LowerHalf.quadratic_ofItems symmetric 0 pairs fun _ _ => (add_zero _).symm, zero_mul,
    add_zero, ← Fin.sum_univ_fun_getElem pairs]
  simp only [← Fin.sum_univ_fun_getElem pairs]
  refine form.trans_eq ?_
  simp only [dotProduct, Matrix.mulVec, Finset.mul_sum]
  refine Finset.sum_congr rfl fun i _ => Finset.sum_congr rfl fun j _ => ?_
  simp [vector, kernelMatrix]
  ring

end BatchBayes
