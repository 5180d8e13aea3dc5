import Mathlib
import BatchBayes.Proofs.Surrogate.Matern
/-!
What more rows do to a process. They never raise a variance, and if they are
labelled with the means of the process itself they change no mean.
-/

namespace BatchBayes

namespace LowerHalf

variable {α : Type}

/-! ## More items -/

theorem product_zeros {columns : LowerHalf ℝ} (shape : columns.IsTriangular) :
    product columns (List.replicate columns.length 0) =
      List.replicate columns.length 0 := by
  induction shape with
  | nil => rfl
  | @cons pivot below columns belowLength _ inductionHypothesis =>
      rw [List.length_cons, List.replicate_succ, product, inductionHypothesis,
        Scalar.dot_zeros, mul_zero, add_zero]
      congr 1
      refine List.ext_getElem (by simp [belowLength]) fun index _ _ => ?_
      simp

/-- The product with a vector that is zero at the items added last. -/
theorem product_append_zeros (diagonal : α → ℝ) (entry : α → α → ℝ)
    (items more : List α) {values : List ℝ}
    (lengths : values.length = items.length) :
    product (ofItems diagonal entry (items ++ more))
        (values ++ List.replicate more.length 0) =
      product (ofItems diagonal entry items) values ++
        more.map fun item => Scalar.dot (items.map (entry item)) values := by
  induction items generalizing values with
  | nil =>
      obtain rfl := List.eq_nil_of_length_eq_zero lengths
      have zeros := product_zeros (isTriangular_ofItems diagonal entry more)
      rw [length_ofItems] at zeros
      simp [zeros, ofItems, product, List.map_const']
  | cons item items inductionHypothesis =>
      cases values with
      | nil => simp at lengths
      | cons value values =>
          have restLength : values.length = items.length := Nat.succ.inj lengths
          have productLength :
              (product (ofItems diagonal entry items) values).length =
                (items.map (entry · item)).length := by
            rw [length_product (isTriangular_ofItems _ _ _) (by simp [restLength])]
            simp
          have lower :
              List.zipWith (fun rest entry => rest + entry * value)
                  (more.map fun other =>
                    Scalar.dot (items.map (entry other)) values)
                  (more.map (entry · item)) =
                more.map fun other =>
                  Scalar.dot ((item :: items).map (entry other))
                    (value :: values) := by
            rw [List.zipWith_map, List.zipWith_self]
            refine List.map_congr_left fun other _ => ?_
            rw [List.map_cons, Scalar.dot_cons]
            ring
          rw [List.cons_append, List.cons_append, ofItems, product,
            inductionHypothesis restLength, List.map_append,
            Scalar.dot_append _ _ (by simp [restLength]), Scalar.dot_zeros,
            List.zipWith_append productLength, lower, ofItems, product, add_zero]
          rfl

theorem dot_solve {factor : LowerHalf ℝ} (shape : factor.IsTriangular)
    {values : List ℝ} (lengths : values.length = factor.length) :
    Scalar.dot values (solve factor values) =
      Scalar.dot (solveLower factor values) (solveLower factor values) :=
  dot_solveUpper shape lengths (length_solveLower shape lengths)

/-- The first entries of a vector explain no more than all of them. -/
theorem dot_take_le (count : Nat) (values : List ℝ) :
    Scalar.dot (values.take count) (values.take count) ≤
      Scalar.dot values values := by
  have split := Scalar.dot_append (values.drop count) (values.drop count)
    (rfl : (values.take count).length = (values.take count).length)
  rw [List.take_append_drop] at split
  have rest := Scalar.dot_self_nonneg (values.drop count)
  linarith

/-- More items explain no less. -/
theorem dot_solve_append_le {diagonal : α → ℝ} {entry : α → α → ℝ}
    {items more : List α} {factor larger : LowerHalf ℝ}
    (success : cholesky? (ofItems diagonal entry items) = some factor)
    (largerSuccess :
      cholesky? (ofItems diagonal entry (items ++ more)) = some larger)
    {cross added : List ℝ} (crossLength : cross.length = items.length)
    (addedLength : added.length = more.length) :
    Scalar.dot cross (solve factor cross) ≤
      Scalar.dot (cross ++ added) (solve larger (cross ++ added)) := by
  have shape := isTriangular_ofItems diagonal entry items
  have largerShape := isTriangular_ofItems diagonal entry (items ++ more)
  have factorLength := length_of_cholesky? shape success
  have largerLength := length_of_cholesky? largerShape largerSuccess
  have block : leading items.length larger = factor := by
    have found := cholesky?_leading largerSuccess items.length
    rw [leading_ofItems, success] at found
    exact (Option.some.inj found).symm
  have forward :
      solveLower factor cross =
        (solveLower larger (cross ++ added)).take items.length := by
    rw [← solveLower_leading, block, ← crossLength, List.take_left]
  rw [dot_solve (shape.cholesky? success) (by simp [factorLength, crossLength]),
    dot_solve (largerShape.cholesky? largerSuccess)
      (by simp [largerLength, crossLength, addedLength]),
    forward]
  exact dot_take_le _ _

end LowerHalf

namespace GaussianProcess

/-! ## More rows -/

section More

variable {data larger : Observations ℝ} {parameters : KernelParameters ℝ}
  {more : List (Observation ℝ)}

theorem complete_of_rows_append (rows : larger.rows = data.rows ++ more)
    (dimension : larger.dimension = data.dimension)
    (complete : larger.Complete) : data.Complete := by
  refine ⟨fun row member => ?_, fun row member => ?_⟩
  · apply complete.valid
    rw [rows]
    exact List.mem_append_left _ member
  · rw [← dimension]
    apply complete.row_length
    rw [rows]
    exact List.mem_append_left _ member

theorem crossCovariance_append (rows : larger.rows = data.rows ++ more)
    (posterior other : Option (Posterior ℝ)) (point : List ℝ) :
    crossCovariance ⟨parameters, larger, other⟩ point =
      crossCovariance ⟨parameters, data, posterior⟩ point ++
        more.map fun row =>
          if row.valid then parameters.covariance point row.features else 0 := by
  simp only [crossCovariance, rows, List.map_append]

theorem length_crossCovariance (process : GaussianProcess ℝ) (point : List ℝ) :
    (process.crossCovariance point).length = process.data.rows.length := by
  simp [crossCovariance]

theorem rowCovariance_eq_crossCovariance (data : Observations ℝ)
    {row : Observation ℝ} (valid : row.valid = true)
    (posterior : Option (Posterior ℝ)) :
    data.rows.map (rowCovariance parameters row) =
      crossCovariance ⟨parameters, data, posterior⟩ row.features := by
  refine List.map_congr_left fun other _ => ?_
  simp [rowCovariance, valid]

variable {process next : GaussianProcess ℝ}

/-- More rows never raise a variance. -/
theorem variance_le_of_rows_append (rows : larger.rows = data.rows ++ more)
    (dimension : larger.dimension = data.dimension)
    (complete : larger.Complete) (proper : parameters.Proper)
    (solved : solveRows data parameters = .ok process)
    (solvedLarger : solveRows larger parameters = .ok next) (point : List ℝ) :
    (next.predict point).2 ≤ (process.predict point).2 := by
  obtain ⟨factor, success, found⟩ :=
    exists_solveRows (complete_of_rows_append rows dimension complete) proper
  obtain ⟨largerFactor, largerSuccess, largerFound⟩ :=
    exists_solveRows complete proper
  obtain rfl := Except.ok.inj (found.symm.trans solved)
  obtain rfl := Except.ok.inj (largerFound.symm.trans solvedLarger)
  rw [gram, rows] at largerSuccess
  rw [gram] at success
  have explained := fun posterior : Option (Posterior ℝ) =>
    LowerHalf.dot_solve_append_le success largerSuccess
      (length_crossCovariance ⟨parameters, data, posterior⟩ point)
      (List.length_map
        fun row : Observation ℝ =>
          if row.valid then parameters.covariance point row.features else 0)
  rw [predict_solved, predict_solved]
  dsimp only
  rw [crossCovariance_append rows (some ⟨factor, factor.solve (labels data)⟩),
    Scalar.max_real, Scalar.max_real]
  exact max_le_max_right 0 (sub_le_sub_left (explained _) _)

/-- Rows labelled with the means of a process change none of its means. -/
theorem mean_eq_of_rows_append (rows : larger.rows = data.rows ++ more)
    (dimension : larger.dimension = data.dimension)
    (complete : larger.Complete) (proper : parameters.Proper)
    (solved : solveRows data parameters = .ok process)
    (solvedLarger : solveRows larger parameters = .ok next)
    (own : ∀ row ∈ more, row.label = (process.predict row.features).1)
    (point : List ℝ) :
    (next.predict point).1 = (process.predict point).1 := by
  have dataComplete := complete_of_rows_append rows dimension complete
  obtain ⟨factor, success, found⟩ := exists_solveRows dataComplete proper
  obtain ⟨largerFactor, largerSuccess, largerFound⟩ :=
    exists_solveRows complete proper
  obtain rfl := Except.ok.inj (found.symm.trans solved)
  obtain rfl := Except.ok.inj (largerFound.symm.trans solvedLarger)
  have shape : (gram data parameters 0).IsTriangular :=
    LowerHalf.isTriangular_ofItems _ _ _
  have largerShape : (gram larger parameters 0).IsTriangular :=
    LowerHalf.isTriangular_ofItems _ _ _
  have gramLength : (gram data parameters 0).length = data.rows.length := by
    rw [gram, LowerHalf.length_ofItems]
  have labelsLength : (labels data).length = (gram data parameters 0).length := by
    rw [labels, List.length_map, gramLength]
  -- the old weights, and none for the new rows, solve the larger system
  have weightsLength :
      (factor.solve (labels data)).length = data.rows.length := by
    rw [LowerHalf.length_solve shape success labelsLength, gramLength]
  have newLabels :
      (more.map fun row =>
          Scalar.dot (data.rows.map (rowCovariance parameters row))
            (factor.solve (labels data))) =
        more.map fun row => if row.valid then row.label else 0 := by
    refine List.map_congr_left fun row member => ?_
    have valid : row.valid = true :=
      complete.valid row (rows ▸ List.mem_append_right _ member)
    rw [if_pos valid, own row member, predict_solved,
      rowCovariance_eq_crossCovariance data valid]
  have product :
      LowerHalf.product (gram larger parameters 0)
          (factor.solve (labels data) ++ List.replicate more.length 0) =
        labels larger := by
    rw [gram, rows, LowerHalf.product_append_zeros _ _ _ _ weightsLength, newLabels]
    have old := LowerHalf.product_solve shape success labelsLength
    rw [gram] at old
    rw [old, labels, labels, rows, List.map_append]
  have weights :
      largerFactor.solve (labels larger) =
        factor.solve (labels data) ++ List.replicate more.length 0 := by
    rw [← product]
    apply LowerHalf.solve_product largerShape largerSuccess
    rw [gram, LowerHalf.length_ofItems, rows]
    simp [weightsLength]
  rw [predict_solved, predict_solved]
  dsimp only
  rw [weights, crossCovariance_append rows (some ⟨factor, factor.solve (labels data)⟩),
    Scalar.dot_append _ _ (by rw [length_crossCovariance, weightsLength]),
    Scalar.dot_zeros, add_zero]

end More

/-! ## Processes with filler -/

section Filler

variable {data : Observations ℝ} {parameters : KernelParameters ℝ}
  {process : GaussianProcess ℝ}

/-- A process is the one conditioned on its observed rows alone. -/
theorem exists_solveRows_of_fit (regular : data.RegularFiller)
    (amplitude : 0 ≤ parameters.amplitude)
    (fitted : fit data parameters = .ok process) :
    ∃ solved,
      solveRows data.unpadded parameters = .ok solved ∧
        process.SamePredictions solved := by
  have agree :=
    fit_agree_solveRows_unpadded regular amplitude (mismatch?_of_fit fitted)
  rw [fitted] at agree
  exact agree.exists_of_ok_left

/-- With noise every data set of the right dimensions can be conditioned on. -/
theorem exists_fit (regular : data.RegularFiller) (proper : parameters.Proper)
    (dimensions : mismatch? data parameters = none) :
    ∃ process, fit data parameters = .ok process := by
  have agree :=
    fit_agree_solveRows_unpadded regular proper.amplitude_pos.le dimensions
  obtain ⟨factor, _, found⟩ :=
    exists_solveRows (complete_unpadded regular dimensions) proper
  rw [found] at agree
  obtain ⟨process, fitted, _⟩ := agree.exists_of_ok_right
  exact ⟨process, fitted⟩

theorem mismatch?_pad (data : Observations ℝ) (padding : Padding) :
    mismatch? (data.pad padding) parameters = none ↔
      mismatch? data.unpadded parameters = none := by
  rw [← mismatch?_unpadded parameters (Observations.regularFiller_pad data padding),
    Observations.unpadded_pad]

theorem mismatch?_extend (data : Observations ℝ) (points : List (List ℝ))
    (labels : List ℝ) :
    mismatch? (data.extend points labels) parameters = none ↔
      mismatch? data.unpadded parameters = none ∧
        ∀ point ∈ points, point.length = data.dimension := by
  rw [mismatch?_eq_none_iff, mismatch?_eq_none_iff]
  simp only [Observations.extend, List.mem_append, or_imp, forall_and,
    Observations.dimension_unpadded]
  exact and_assoc.symm

end Filler

end GaussianProcess

end BatchBayes
