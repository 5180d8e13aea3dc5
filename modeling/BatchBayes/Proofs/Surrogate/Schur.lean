import Mathlib
import BatchBayes.Proofs.Surrogate.Conditioning
import BatchBayes.Proofs.Surrogate.Joint
/-!
What noisy observations leave of a covariance. Solving with the Cholesky factor gives the
Schur complement of the observed rows, and this is positive semidefinite where the
covariance of rows and points together is.
-/

namespace BatchBayes

/-- The square matrix of a function of two items. -/
def kernelMatrix {α : Type} (entry : α → α → ℝ) (items : List α) :
    Matrix (Fin items.length) (Fin items.length) ℝ :=
  Matrix.of fun i j => entry items[i] items[j]

/-! ## Matrices -/

theorem Scalar.dot_map_eq_sum {α : Type} (items : List α) (f : α → ℝ) (values : List ℝ) :
    dot (items.map f) values =
      ∑ i : Fin items.length, f items[i] * values.getD i 0 := by
  induction items generalizing values with
  | nil => simp
  | cons item items inductionHypothesis =>
      cases values with
      | nil => simp
      | cons value values =>
          rw [List.map_cons, dot_cons, inductionHypothesis]
          simp [Fin.sum_univ_succ]

namespace LowerHalf

variable {α : Type} {entry : α → α → ℝ} {noise : ℝ} {items points : List α}

/-- The product of a vector with a covariance matrix that has noise on its diagonal. -/
theorem product_ofItems (symmetric : ∀ left right, entry left right = entry right left)
    (noise : ℝ) {values : List ℝ} (lengths : values.length = items.length) :
    product (ofItems (fun item => entry item item + noise) entry items) values =
      List.zipWith
        (fun item value => Scalar.dot (items.map (entry item)) values + noise * value)
        items values := by
  induction items generalizing values with
  | nil => simp [ofItems, product]
  | cons item items inductionHypothesis =>
      cases values with
      | nil => simp at lengths
      | cons value values =>
          have tailLength : values.length = items.length := Nat.succ.inj lengths
          rw [ofItems, product, inductionHypothesis tailLength, List.zipWith_cons_cons]
          congr 1
          · rw [List.map_cons, Scalar.dot_cons]
            simp only [symmetric _ item]
            ring
          · refine List.ext_getElem (by simp [tailLength]) fun index _ _ => ?_
            simp only [List.getElem_zipWith, List.getElem_map, List.map_cons,
              Scalar.dot_cons]
            ring

theorem getD_product_ofItems
    (symmetric : ∀ left right, entry left right = entry right left) (noise : ℝ)
    {values : List ℝ} (lengths : values.length = items.length) (i : Fin items.length) :
    (product (ofItems (fun item => entry item item + noise) entry items) values).getD i 0 =
      ∑ j : Fin items.length, entry items[i] items[j] * values.getD j 0 +
        noise * values.getD i 0 := by
  have inValues : i.val < values.length := i.isLt.trans_eq lengths.symm
  rw [product_ofItems symmetric noise lengths, ← Scalar.dot_map_eq_sum,
    List.getD_eq_getElem _ _ (by simp [lengths]), List.getElem_zipWith,
    List.getD_eq_getElem _ _ inValues]
  rfl

/-- What is left of a covariance when the items are observed. -/
noncomputable def residual (entry : α → α → ℝ) (items : List α) (factor : LowerHalf ℝ)
    (left right : α) : ℝ :=
  entry left right -
    Scalar.dot (items.map (entry left)) (solve factor (items.map (entry right)))

/-- The covariances of observed items with some points. -/
def crossMatrix (entry : α → α → ℝ) (items points : List α) :
    Matrix (Fin items.length) (Fin points.length) ℝ :=
  Matrix.of fun i j => entry items[i] points[j]

/-- What solving with a factor gives for each of some points. -/
noncomputable def solutions (entry : α → α → ℝ) (items : List α) (factor : LowerHalf ℝ)
    (points : List α) : Matrix (Fin items.length) (Fin points.length) ℝ :=
  Matrix.of fun i j => (solve factor (items.map (entry points[j]))).getD i 0

theorem kernelMatrix_residual
    (symmetric : ∀ left right, entry left right = entry right left)
    (factor : LowerHalf ℝ) :
    kernelMatrix (residual entry items factor) points =
      kernelMatrix entry points -
        (crossMatrix entry items points).conjTranspose *
          solutions entry items factor points := by
  ext i j
  have explained :
      Scalar.dot (items.map (entry points[i]))
          (solve factor (items.map (entry points[j]))) =
        ((crossMatrix entry items points).conjTranspose *
          solutions entry items factor points) i j := by
    rw [Scalar.dot_map_eq_sum, Matrix.mul_apply]
    refine Finset.sum_congr rfl fun row _ => ?_
    rw [symmetric points[i]]
    rfl
  rw [Matrix.sub_apply, ← explained]
  rfl

theorem noisy_mul_solutions
    (symmetric : ∀ left right, entry left right = entry right left)
    {factor : LowerHalf ℝ}
    (success :
      cholesky? (ofItems (fun item => entry item item + noise) entry items) =
        some factor) :
    (kernelMatrix entry items + noise • 1) * solutions entry items factor points =
      crossMatrix entry items points := by
  ext i j
  have shape := isTriangular_ofItems (fun item => entry item item + noise) entry items
  have crossLength :
      (items.map (entry points[j])).length =
        (ofItems (fun item => entry item item + noise) entry items).length := by
    rw [List.length_map, length_ofItems]
  have length := length_solve shape success crossLength
  rw [length_ofItems] at length
  have row := getD_product_ofItems symmetric noise length i
  rw [product_solve shape success crossLength,
    List.getD_eq_getElem _ _ (by rw [List.length_map]; exact i.isLt),
    List.getElem_map, symmetric] at row
  rw [Matrix.add_mul, Matrix.add_apply, Matrix.mul_apply, Matrix.smul_mul, Matrix.one_mul,
    Matrix.smul_apply]
  exact row.symm

theorem posSemidef_blocks (symmetric : ∀ left right, entry left right = entry right left)
    (gram : (kernelMatrix entry (items ++ points)).PosSemidef) :
    (Matrix.fromBlocks (kernelMatrix entry items) (crossMatrix entry items points)
      (crossMatrix entry items points).conjTranspose (kernelMatrix entry points)).PosSemidef := by
  have placed :=
    gram.submatrix
      (Sum.elim (fun i : Fin items.length => ⟨i, by rw [List.length_append]; omega⟩)
        fun j : Fin points.length =>
          ⟨items.length + j, by rw [List.length_append]; omega⟩)
  convert placed using 1
  ext (i | i) (j | j) <;> simp [kernelMatrix, crossMatrix, symmetric]

theorem posSemidef_residual (symmetric : ∀ left right, entry left right = entry right left)
    (positive : 0 < noise) {factor : LowerHalf ℝ}
    (success :
      cholesky? (ofItems (fun item => entry item item + noise) entry items) = some factor)
    (gram : (kernelMatrix entry (items ++ points)).PosSemidef) :
    (kernelMatrix (residual entry items factor) points).PosSemidef := by
  have observed : (kernelMatrix entry items).PosSemidef := by
    have placed := gram.submatrix fun i : Fin items.length =>
      ⟨i, by rw [List.length_append]; omega⟩
    convert placed using 1
    ext i j
    simp [kernelMatrix]
  have noisy : (kernelMatrix entry items + noise • 1).PosDef :=
    Matrix.PosDef.posSemidef_add observed (Matrix.PosDef.one.smul positive)
  have noiseBlocks :
      (Matrix.fromBlocks (noise • (1 : Matrix (Fin items.length) (Fin items.length) ℝ))
        (0 : Matrix _ (Fin points.length) ℝ) 0 0).PosSemidef := by
    have nonneg :
        0 ≤ (Sum.elim (fun _ => noise) 0 : Fin items.length ⊕ Fin points.length → ℝ) := by
      rintro (i | j)
      · exact positive.le
      · exact le_rfl
    convert Matrix.PosSemidef.diagonal nonneg using 1
    ext (i | i) (j | j) <;> simp [Matrix.diagonal_apply, Matrix.one_apply]
  have whole := (posSemidef_blocks symmetric gram).add noiseBlocks
  rw [Matrix.fromBlocks_add, add_zero, add_zero, add_zero] at whole
  have invertible := noisy.isUnit.invertible
  have inverse :
      (kernelMatrix entry items + noise • 1)⁻¹ * crossMatrix entry items points =
        solutions entry items factor points := by
    rw [← noisy_mul_solutions symmetric success,
      Matrix.inv_mul_cancel_left_of_invertible]
  have complement := (Matrix.PosDef.fromBlocks₁₁ _ _ noisy).1 whole
  rwa [Matrix.mul_assoc, inverse, ← kernelMatrix_residual symmetric] at complement

end LowerHalf

/-! ## Processes -/

namespace KernelParameters

/-- Points of one dimension have a positive semidefinite covariance matrix. -/
theorem posSemidef_covariance {parameters : KernelParameters ℝ}
    (amplitude : 0 ≤ parameters.amplitude) {points : List (List ℝ)} {dimension : Nat}
    (lengths : ∀ point ∈ points, point.length = dimension) :
    (kernelMatrix parameters.covariance points).PosSemidef :=
  PositiveKernel.iff_posSemidef.1
    (positiveKernel_covariance amplitude fun i : Fin points.length =>
      lengths points[i] (List.getElem_mem i.isLt))

end KernelParameters

namespace GaussianProcess

variable {data : Observations ℝ} {parameters : KernelParameters ℝ}
  {process other : GaussianProcess ℝ} {points : List (List ℝ)}

theorem gram_of_valid (valid : ∀ row ∈ data.rows, row.valid = true)
    (parameters : KernelParameters ℝ) :
    gram data parameters 0 =
      LowerHalf.ofItems
        (fun point => parameters.covariance point point + parameters.noise)
        parameters.covariance (data.rows.map (·.features)) := by
  rw [gram]
  generalize data.rows = rows at valid
  induction rows with
  | nil => rfl
  | cons row rows inductionHypothesis =>
      have rest : ∀ other ∈ rows, other.valid = true := fun other member =>
        valid other (List.mem_cons_of_mem row member)
      have below :
          rows.map (rowCovariance parameters · row) =
            (rows.map (·.features)).map (parameters.covariance · row.features) := by
        rw [List.map_map]
        refine List.map_congr_left fun other member => ?_
        simp [rowCovariance, rest other member, valid row List.mem_cons_self]
      rw [LowerHalf.ofItems, List.map_cons, LowerHalf.ofItems, inductionHypothesis rest,
        below]
      simp [selfCovariance, valid row List.mem_cons_self]

theorem crossCovariance_of_valid (valid : ∀ row ∈ data.rows, row.valid = true)
    (posterior : Option (Posterior ℝ)) (point : List ℝ) :
    crossCovariance ⟨parameters, data, posterior⟩ point =
      (data.rows.map (·.features)).map (parameters.covariance point) := by
  rw [crossCovariance, List.map_map]
  exact List.map_congr_left fun row member => if_pos (valid row member)

/-- The covariance of points, given the observed rows, is positive semidefinite where that
of rows and points together is. -/
theorem posSemidef_covariance (complete : data.Complete) (proper : parameters.Proper)
    (solved : solveRows data parameters = .ok process)
    (gram :
      (kernelMatrix parameters.covariance
        (data.rows.map (·.features) ++ points)).PosSemidef) :
    (kernelMatrix process.covariance points).PosSemidef := by
  obtain ⟨factor, success, found⟩ := exists_solveRows complete proper
  obtain rfl := Except.ok.inj (found.symm.trans solved)
  rw [gram_of_valid complete.valid] at success
  have residual :=
    LowerHalf.posSemidef_residual parameters.covariance_comm proper.noise_pos success gram
  convert residual using 1
  ext i j
  -- The matrix is symmetric before its two halves are averaged.
  have symmetric := residual.isHermitian.apply i j
  simp only [kernelMatrix, Matrix.of_apply, star_trivial, LowerHalf.residual]
    at symmetric ⊢
  simp only [covariance, crossCovariance_of_valid complete.valid, symmetric]
  ring

theorem covariance_comm (process : GaussianProcess ℝ) (left right : List ℝ) :
    process.covariance left right = process.covariance right left := by
  rw [covariance, covariance]
  split
  · exact process.parameters.covariance_comm left right
  · exact congrArg (· * 0.5) (add_comm _ _)

/-- A covariance that is not negative is not cut off. -/
theorem covariance_self_eq {point : List ℝ} (nonneg : 0 ≤ process.covariance point point) :
    process.covariance point point = (process.predict point).2 := by
  obtain ⟨parameters, data, posterior⟩ := process
  cases posterior with
  | none => exact parameters.covariance_self point
  | some posterior =>
      rw [predict_solved]
      dsimp only [covariance] at nonneg ⊢
      rw [parameters.covariance_self] at nonneg ⊢
      rw [Scalar.max_real, max_eq_left (by linarith)]
      ring

theorem SamePredictions.covariance (same : process.SamePredictions other)
    (left right : List ℝ) : process.covariance left right = other.covariance left right := by
  have pair := congrArg Prod.snd (same.predictJoint [left, right])
  rw [predictJoint_eq, predictJoint_eq] at pair
  simp only [matrixOf, List.map_cons, List.map_nil, List.cons.injEq] at pair
  exact pair.1.2.1

end GaussianProcess

end BatchBayes
