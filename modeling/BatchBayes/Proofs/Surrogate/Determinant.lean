import Mathlib
import BatchBayes.Proofs.Outcome
import BatchBayes.Proofs.Surrogate.Factor
/-!
The determinant of a matrix against its diagonal. Elimination only takes squares
away from the diagonal, so that the squared pivots of a factor never exceed the
entries they come from. Their product, which is the determinant, is thus at most
that of the diagonal, and by the inequality of the means at most a power of the mean
of the diagonal.
-/

namespace BatchBayes

namespace LowerHalf

/-- The entries on the diagonal. -/
def diagonal {K : Type} (columns : LowerHalf K) : List K :=
  columns.map (·.pivot)

theorem diagonal_ofItems {K α : Type} (entry : α → K) (other : α → α → K)
    (items : List α) : diagonal (ofItems entry other items) = items.map entry := by
  induction items with
  | nil => rfl
  | cons item items inductionHypothesis =>
      rw [ofItems, List.map_cons, ← inductionHypothesis]
      rfl

/-! ## Pivots -/

/-- Elimination takes squares away from the diagonal. -/
theorem diagonal_eliminate_le {column : List ℝ} {columns : LowerHalf ℝ}
    (lengths : column.length = columns.length) :
    List.Forall₂ (· ≤ ·) (diagonal (eliminate column columns)) (diagonal columns) := by
  induction columns generalizing column with
  | nil => cases column <;> exact .nil
  | cons head columns inductionHypothesis =>
      cases column with
      | nil => simp at lengths
      | cons top rest =>
          refine .cons ?_ (inductionHypothesis (by simpa using lengths))
          exact sub_le_self _ (mul_self_nonneg top)

/-- The squared pivots of a factor are at most the diagonal of the matrix. -/
theorem sq_diagonal_le_of_cholesky? {columns factor : LowerHalf ℝ}
    (shape : IsTriangular columns) (success : cholesky? columns = some factor) :
    List.Forall₂ (fun root entry => 0 < root ∧ root ^ 2 ≤ entry) (diagonal factor)
      (diagonal columns) := by
  induction factor generalizing columns with
  | nil =>
      cases shape with
      | nil => exact .nil
      | cons _ _ =>
          obtain ⟨_, _, _, equality⟩ := cholesky?_cons_eq_some success
          simp at equality
  | cons head factor inductionHypothesis =>
      cases shape with
      | nil => simp [LowerHalf.cholesky?] at success
      | @cons pivot below columns belowLength rest =>
          obtain ⟨positive, _, restFactor, equality⟩ := cholesky?_cons_eq_some success
          have scaledLength :
              (below.map (· / Scalar.sqrt pivot)).length = columns.length := by
            simpa using belowLength
          obtain ⟨rfl, rfl⟩ := List.cons.inj equality
          refine .cons ⟨Real.sqrt_pos.2 positive, ?_⟩ ?_
          · exact (Real.sq_sqrt positive.le).le
          · -- The rest is factored with the first column already taken out of it.
            refine forall₂_trans ?_ (inductionHypothesis (rest.eliminate scaledLength)
              restFactor) (diagonal_eliminate_le scaledLength)
            exact fun root entry larger bounds below => ⟨bounds.1, bounds.2.trans below⟩

/-! ## Means -/

/-- The logarithms of numbers whose squares are bounded, against the tangent of the
logarithm at `mean`. -/
theorem two_mul_sum_log_le {roots entries : List ℝ} {mean : ℝ} (positive : 0 < mean)
    (bounded :
      List.Forall₂ (fun root entry => 0 < root ∧ root ^ 2 ≤ entry) roots entries) :
    2 * (roots.map Real.log).sum ≤
      entries.sum / mean - entries.length + entries.length * Real.log mean := by
  induction bounded with
  | nil => simp
  | @cons root entry roots entries bounds _ inductionHypothesis =>
      obtain ⟨rootPositive, below⟩ := bounds
      have tangent : 2 * Real.log root ≤ entry / mean - 1 + Real.log mean := by
        have square : Real.log (root ^ 2) = 2 * Real.log root := by
          rw [Real.log_pow, Nat.cast_ofNat]
        have squared : 0 < root ^ 2 := pow_pos rootPositive 2
        have ratio := Real.log_le_sub_one_of_pos (div_pos squared positive)
        rw [Real.log_div squared.ne' positive.ne', square] at ratio
        have larger := div_le_div_of_nonneg_right below positive.le
        linarith
      rw [List.map_cons, List.sum_cons, List.sum_cons, List.length_cons, add_div]
      push_cast
      linarith

/-- The determinant of a matrix with a factor is at most a power of the mean of its
diagonal. Here both are taken to one entry, and the determinant by its logarithm. -/
theorem exp_logPivots_le {columns factor : LowerHalf ℝ} (shape : IsTriangular columns)
    (success : cholesky? columns = some factor) (nonempty : columns ≠ []) {value : ℝ}
    (below : value ≤ 2 * factor.logPivots) :
    Real.exp (value / columns.length) ≤
      (diagonal columns).sum / columns.length := by
  have bounded := sq_diagonal_le_of_cholesky? shape success
  have count : (0 : ℝ) < columns.length := by
    exact_mod_cast List.length_pos_iff.2 nonempty
  have length : (diagonal columns).length = columns.length := List.length_map _
  have total : 0 < (diagonal columns).sum := by
    apply List.sum_pos
    · intro entry member
      obtain ⟨root, _, positive, square⟩ := exists_of_mem_of_forall₂ bounded member
      exact (pow_pos positive 2).trans_le square
    · rw [← List.length_pos_iff, length]
      exact List.length_pos_iff.2 nonempty
  set mean := (diagonal columns).sum / columns.length with meanEq
  have positive : 0 < mean := div_pos total count
  have logs : 2 * factor.logPivots ≤ columns.length * Real.log mean := by
    have tangent := two_mul_sum_log_le positive bounded
    have share : (diagonal columns).sum / mean = columns.length := by
      rw [meanEq, div_div_cancel₀ total.ne']
    rw [length, share, sub_self, zero_add] at tangent
    rw [logPivots, Scalar.sum_real]
    simpa [diagonal, Function.comp_def] using tangent
  calc
    Real.exp (value / columns.length) ≤ Real.exp (Real.log mean) := by
      rw [Real.exp_le_exp, div_le_iff₀ count]
      linarith
    _ = mean := Real.exp_log positive

end LowerHalf

end BatchBayes
