import Mathlib
import BatchBayes.Proofs.Surrogate.Factor
/-!
Filler rows in a linear system. A row of filler has a unit diagonal, zeros
elsewhere and the value zero; spreading a system over a mask puts such rows at
the places that the mask leaves out. Factoring and solving commute with
spreading, so filler changes no product of solutions and no determinant.
-/

namespace BatchBayes

/-- Put the values at the marked places, and zeros at the others. -/
def spread {K : Type} [Zero K] : List Bool → List K → List K
  | false :: mask, values => 0 :: spread mask values
  | true :: mask, value :: values => value :: spread mask values
  | _, _ => []

/-! ## Vectors -/

section Vectors

variable {mask : List Bool} {values : List ℝ}

theorem length_spread_le (mask : List Bool) (values : List ℝ) :
    (spread mask values).length ≤ mask.length := by
  induction mask generalizing values with
  | nil => simp [spread]
  | cons marked mask inductionHypothesis =>
      cases marked with
      | false => simpa [spread] using inductionHypothesis values
      | true =>
          cases values with
          | nil => simp [spread]
          | cons value values => simpa [spread] using inductionHypothesis values

theorem length_spread (enough : mask.count true ≤ values.length) :
    (spread mask values).length = mask.length := by
  induction mask generalizing values with
  | nil => simp [spread]
  | cons marked mask inductionHypothesis =>
      cases marked with
      | false =>
          simpa [spread] using inductionHypothesis (by simpa using enough)
      | true =>
          cases values with
          | nil => simp at enough
          | cons value values =>
              simpa [spread] using inductionHypothesis (by simpa using enough)

theorem map_spread {f : ℝ → ℝ} (zero : f 0 = 0) (mask : List Bool)
    (values : List ℝ) :
    (spread mask values).map f = spread mask (values.map f) := by
  induction mask generalizing values with
  | nil => simp [spread]
  | cons marked mask inductionHypothesis =>
      cases marked with
      | false => simp [spread, zero, inductionHypothesis]
      | true => cases values <;> simp [spread, inductionHypothesis]

theorem zipWith_spread {f : ℝ → ℝ → ℝ} (zero : f 0 0 = 0) (mask : List Bool)
    (xs ys : List ℝ) :
    List.zipWith f (spread mask xs) (spread mask ys) =
      spread mask (List.zipWith f xs ys) := by
  induction mask generalizing xs ys with
  | nil => simp [spread]
  | cons marked mask inductionHypothesis =>
      cases marked with
      | false => simp [spread, zero, inductionHypothesis]
      | true =>
          cases xs <;> cases ys <;> simp [spread, inductionHypothesis]

theorem sum_spread (fits : values.length ≤ mask.count true) :
    (spread mask values).sum = values.sum := by
  induction mask generalizing values with
  | nil =>
      obtain rfl := List.eq_nil_of_length_eq_zero (Nat.le_zero.1 fits)
      rfl
  | cons marked mask inductionHypothesis =>
      cases marked with
      | false =>
          simpa [spread] using inductionHypothesis (by simpa using fits)
      | true =>
          cases values with
          | nil => rfl
          | cons value values =>
              have restFits : values.length ≤ mask.count true := by
                simpa using fits
              have rest := inductionHypothesis restFits
              simp [spread, rest]

theorem dot_spread {xs ys : List ℝ} (fits : xs.length ≤ mask.count true) :
    Scalar.dot (spread mask xs) (spread mask ys) = Scalar.dot xs ys := by
  have shorter : (List.zipWith (· * ·) xs ys).length ≤ mask.count true := by
    rw [List.length_zipWith]
    exact (Nat.min_le_left _ _).trans fits
  rw [Scalar.dot, Scalar.dot, Scalar.sum_real, Scalar.sum_real,
    zipWith_spread (mul_zero 0), sum_spread shorter]

/-- A function that is zero on filler, at all rows. -/
theorem map_eq_spread {α : Type} (valid : α → Bool) {f : α → ℝ} {items : List α}
    (zero : ∀ item ∈ items, valid item = false → f item = 0) :
    items.map f = spread (items.map valid) ((items.filter valid).map f) := by
  induction items with
  | nil => rfl
  | cons item items inductionHypothesis =>
      have rest := inductionHypothesis fun other member =>
        zero other (List.mem_cons_of_mem item member)
      cases marked : valid item with
      | false =>
          have head := zero item List.mem_cons_self marked
          simp [spread, marked, head, rest]
      | true => simp [spread, marked, rest]

end Vectors

/-! ## Systems -/

namespace LowerHalf

/-- Put the columns at the marked places of a matrix that has unit columns at
the others. -/
noncomputable def spread : List Bool → LowerHalf ℝ → LowerHalf ℝ
  | false :: mask, columns =>
      ⟨1, List.replicate mask.length 0⟩ :: spread mask columns
  | true :: mask, ⟨pivot, below⟩ :: columns =>
      ⟨pivot, BatchBayes.spread mask below⟩ :: spread mask columns
  | _, _ => []

theorem eliminate_zeros (mask : List Bool) (columns : LowerHalf ℝ) :
    eliminate (List.replicate mask.length 0) (spread mask columns) =
      spread mask columns := by
  induction mask generalizing columns with
  | nil => simp [spread, eliminate]
  | cons marked mask inductionHypothesis =>
      have unchanged : ∀ below : List ℝ, below.length ≤ mask.length →
          List.zipWith (fun entry factor => entry - factor * 0) below
            (List.replicate mask.length 0) = below := by
        intro below shorter
        refine List.ext_getElem (by simpa using shorter) fun index _ _ => ?_
        simp
      cases marked with
      | false =>
          simp [spread, List.replicate_succ, eliminate, inductionHypothesis]
      | true =>
          cases columns with
          | nil => simp [spread, eliminate]
          | cons column columns =>
              have kept :=
                unchanged _ (length_spread_le mask column.below)
              simp only [mul_zero, sub_zero] at kept
              simp [spread, List.replicate_succ, eliminate, inductionHypothesis,
                kept]

theorem eliminate_spread {mask : List Bool} {column : List ℝ}
    (enough : mask.count true ≤ column.length) (columns : LowerHalf ℝ) :
    eliminate (BatchBayes.spread mask column) (spread mask columns) =
      spread mask (eliminate column columns) := by
  induction mask generalizing column columns with
  | nil => simp [spread, BatchBayes.spread, eliminate]
  | cons marked mask inductionHypothesis =>
      cases marked with
      | false =>
          have fits : mask.count true ≤ column.length := by simpa using enough
          have zeros :
              List.zipWith (fun entry factor => entry - factor * (0 : ℝ))
                (List.replicate mask.length 0) (BatchBayes.spread mask column) =
              List.replicate mask.length 0 := by
            refine List.ext_getElem ?_ fun index _ _ => ?_
            · simp [length_spread fits]
            · simp
          simp only [mul_zero, sub_zero] at zeros
          simp [spread, BatchBayes.spread, eliminate, zeros,
            inductionHypothesis fits]
      | true =>
          cases column with
          | nil => simp at enough
          | cons top rest =>
              cases columns with
              | nil => simp [spread, eliminate]
              | cons head columns =>
                  have fits : mask.count true ≤ rest.length := by
                    simpa using enough
                  simp [spread, BatchBayes.spread, eliminate,
                    inductionHypothesis fits, zipWith_spread]

/-- Filler adds unit columns to the factor and changes nothing else of it. -/
theorem cholesky?_spread {mask : List Bool} {columns : LowerHalf ℝ}
    (shape : IsTriangular columns)
    (lengths : columns.length = mask.count true) :
    cholesky? (spread mask columns) = (cholesky? columns).map (spread mask) := by
  induction mask generalizing columns with
  | nil =>
      obtain rfl := List.eq_nil_of_length_eq_zero lengths
      simp [spread, cholesky?]
  | cons marked mask inductionHypothesis =>
      cases marked with
      | false =>
          have rest := inductionHypothesis shape (by simpa using lengths)
          rw [spread, cholesky?, if_pos one_pos]
          simp only [Scalar.sqrt_real, Real.sqrt_one, div_one, List.map_id']
          rw [eliminate_zeros, rest, Option.map_map]
          rfl
      | true =>
          cases shape with
          | nil => simp at lengths
          | @cons pivot below columns belowLength shape =>
              have columnsLength : columns.length = mask.count true := by
                simpa using lengths
              have scaledLength :
                  (below.map (· / Scalar.sqrt pivot)).length = columns.length := by
                simpa using belowLength
              have restLength :=
                (length_eliminate scaledLength).trans columnsLength
              have rest :=
                inductionHypothesis (shape.eliminate scaledLength) restLength
              have scaled :=
                map_spread (f := (· / Scalar.sqrt pivot)) (zero_div _) mask below
              rw [spread, cholesky?, cholesky?]
              dsimp only
              rw [scaled,
                eliminate_spread (scaledLength.trans columnsLength).ge, rest]
              split
              · rw [Option.map_map, Option.map_map]
                rfl
              · rfl

theorem solveLower_spread (mask : List Bool) (factor : LowerHalf ℝ)
    (values : List ℝ) :
    solveLower (spread mask factor) (BatchBayes.spread mask values) =
      BatchBayes.spread mask (solveLower factor values) := by
  induction mask generalizing factor values with
  | nil => simp [spread, BatchBayes.spread, solveLower]
  | cons marked mask inductionHypothesis =>
      cases marked with
      | false =>
          have unchanged :
              List.zipWith (fun rest factor => rest - factor * ((0 : ℝ) / 1))
                (BatchBayes.spread mask values)
                (List.replicate mask.length 0) =
              BatchBayes.spread mask values := by
            refine List.ext_getElem ?_ fun index _ _ => ?_
            · simpa using length_spread_le mask values
            · simp
          rw [spread, BatchBayes.spread, solveLower, unchanged,
            inductionHypothesis, zero_div, BatchBayes.spread]
      | true =>
          cases factor with
          | nil => simp [spread, BatchBayes.spread, solveLower]
          | cons column factor =>
              cases values with
              | nil => simp [spread, BatchBayes.spread, solveLower]
              | cons value values =>
                  simp [spread, BatchBayes.spread, solveLower, zipWith_spread,
                    inductionHypothesis]

theorem length_solveUpper_le (factor : LowerHalf ℝ) (values : List ℝ) :
    (solveUpper factor values).length ≤ factor.length := by
  induction factor generalizing values with
  | nil => simp [solveUpper]
  | cons column factor inductionHypothesis =>
      cases values with
      | nil => simp [solveUpper]
      | cons value values => simpa [solveUpper] using inductionHypothesis values

theorem solveUpper_spread {mask : List Bool} {factor : LowerHalf ℝ}
    (fits : factor.length ≤ mask.count true) (values : List ℝ) :
    solveUpper (spread mask factor) (BatchBayes.spread mask values) =
      BatchBayes.spread mask (solveUpper factor values) := by
  induction mask generalizing factor values with
  | nil =>
      obtain rfl := List.eq_nil_of_length_eq_zero (Nat.le_zero.1 fits)
      simp [spread, BatchBayes.spread, solveUpper]
  | cons marked mask inductionHypothesis =>
      cases marked with
      | false =>
          have rest := inductionHypothesis (by simpa using fits) values
          rw [spread, BatchBayes.spread, solveUpper, rest, Scalar.dot_comm,
            Scalar.dot_zeros, sub_zero, zero_div, BatchBayes.spread]
      | true =>
          cases factor with
          | nil => simp [spread, BatchBayes.spread, solveUpper]
          | cons column factor =>
              cases values with
              | nil => simp [spread, BatchBayes.spread, solveUpper]
              | cons value values =>
                  have restFits : factor.length ≤ mask.count true := by
                    simpa using fits
                  have shorter :=
                    (length_solveUpper_le factor values).trans restFits
                  simp only [spread, BatchBayes.spread, solveUpper,
                    inductionHypothesis restFits]
                  rw [Scalar.dot_comm, dot_spread shorter, Scalar.dot_comm]

theorem solve_spread {mask : List Bool} {factor : LowerHalf ℝ}
    (fits : factor.length ≤ mask.count true) (values : List ℝ) :
    solve (spread mask factor) (BatchBayes.spread mask values) =
      BatchBayes.spread mask (solve factor values) := by
  rw [solve, solveLower_spread, solveUpper_spread fits, solve]

theorem logPivots_spread {mask : List Bool} {factor : LowerHalf ℝ}
    (fits : factor.length ≤ mask.count true) :
    logPivots (spread mask factor) = logPivots factor := by
  simp only [logPivots, Scalar.sum_real]
  induction mask generalizing factor with
  | nil =>
      obtain rfl := List.eq_nil_of_length_eq_zero (Nat.le_zero.1 fits)
      rfl
  | cons marked mask inductionHypothesis =>
      cases marked with
      | false =>
          simpa [spread] using inductionHypothesis (by simpa using fits)
      | true =>
          cases factor with
          | nil => rfl
          | cons column factor =>
              have restFits : factor.length ≤ mask.count true := by
                simpa using fits
              have rest := inductionHypothesis restFits
              simp only [spread, List.map_cons, List.sum_cons, rest]

/-- The matrix of all rows is that of the valid ones, spread over the mask. -/
theorem ofItems_eq_spread {α : Type} (valid : α → Bool) {diagonal : α → ℝ}
    {entry : α → α → ℝ}
    (unit : ∀ item, valid item = false → diagonal item = 1)
    (leftZero : ∀ left right, valid left = false → entry left right = 0)
    (rightZero : ∀ left right, valid right = false → entry left right = 0)
    (items : List α) :
    ofItems diagonal entry items =
      spread (items.map valid) (ofItems diagonal entry (items.filter valid)) := by
  induction items with
  | nil => rfl
  | cons item items inductionHypothesis =>
      cases marked : valid item with
      | false =>
          have zeros : items.map (entry · item) = List.replicate items.length 0 :=
            List.eq_replicate_iff.2 ⟨by simp, fun value member => by
              obtain ⟨left, _, rfl⟩ := List.mem_map.1 member
              exact rightZero left item marked⟩
          simp [ofItems, spread, marked, unit item marked, zeros,
            inductionHypothesis]
      | true =>
          have below :
              items.map (entry · item) =
                BatchBayes.spread (items.map valid)
                  ((items.filter valid).map (entry · item)) :=
            map_eq_spread valid fun left _ => leftZero left item
          simp [ofItems, spread, marked, below, inductionHypothesis]

end LowerHalf

end BatchBayes
