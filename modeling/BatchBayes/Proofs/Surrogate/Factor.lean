import Mathlib
import BatchBayes.Proofs.Exact
import BatchBayes.Surrogate.Cholesky
/-!
Exact Cholesky factors. A matrix has one exactly if its quadratic form is
positive, the factor times its transpose is the matrix, and solving with the
factor inverts the matrix. The factor of a leading block is the leading block of
the factor.
-/

namespace BatchBayes

namespace LowerHalf

/-! ## Shape -/

/-- Each column is one entry shorter than the one before. -/
inductive IsTriangular {K : Type} : LowerHalf K → Prop
  | nil : IsTriangular []
  | cons {pivot : K} {below : List K} {columns : LowerHalf K} :
      below.length = columns.length →
      IsTriangular columns →
      IsTriangular (⟨pivot, below⟩ :: columns)

@[simp]
theorem length_ofItems {K α : Type} (diagonal : α → K)
    (entry : α → α → K) (items : List α) :
    (ofItems diagonal entry items).length = items.length := by
  induction items with
  | nil => rfl
  | cons item items inductionHypothesis =>
      simp [ofItems, inductionHypothesis]

theorem isTriangular_ofItems {K α : Type} (diagonal : α → K)
    (entry : α → α → K) (items : List α) :
    IsTriangular (ofItems diagonal entry items) := by
  induction items with
  | nil => exact .nil
  | cons item items inductionHypothesis =>
      exact .cons (by simp) inductionHypothesis

section Shape

variable {K : Type} [Scalar K]

theorem length_eliminate {column : List K} {columns : LowerHalf K}
    (lengths : column.length = columns.length) :
    (eliminate column columns).length = columns.length := by
  induction columns generalizing column with
  | nil => cases column <;> rfl
  | cons head columns inductionHypothesis =>
      cases column with
      | nil => simp at lengths
      | cons top rest =>
          simp [eliminate, inductionHypothesis (by simpa using lengths)]

theorem IsTriangular.eliminate {column : List K} {columns : LowerHalf K}
    (shape : IsTriangular columns)
    (lengths : column.length = columns.length) :
    IsTriangular (eliminate column columns) := by
  induction shape generalizing column with
  | nil => cases column <;> exact .nil
  | @cons pivot below columns belowLength _ inductionHypothesis =>
      cases column with
      | nil => simp at lengths
      | cons top rest =>
          have restLength : rest.length = columns.length := by
            simpa using lengths
          refine .cons ?_ (inductionHypothesis restLength)
          rw [List.length_zipWith, length_eliminate restLength, belowLength,
            restLength, Nat.min_self]

/-- What a factor is made of: the root of the first pivot, the scaled first
column, and the factor of the rest without that column. -/
theorem cholesky?_cons_eq_some {pivot : K} {below : List K}
    {columns factor : LowerHalf K}
    (success : cholesky? (⟨pivot, below⟩ :: columns) = some factor) :
    0 < pivot ∧
      ∃ rest,
        cholesky? (eliminate (below.map (· / Scalar.sqrt pivot)) columns) =
            some rest ∧
          factor =
            ⟨Scalar.sqrt pivot, below.map (· / Scalar.sqrt pivot)⟩ :: rest := by
  rw [cholesky?] at success
  split at success
  case isTrue positive =>
    obtain ⟨rest, restFactor, equality⟩ := Option.map_eq_some_iff.1 success
    exact ⟨positive, rest, restFactor, equality.symm⟩
  case isFalse => simp at success

theorem length_of_cholesky? {columns factor : LowerHalf K}
    (shape : IsTriangular columns) (success : cholesky? columns = some factor) :
    factor.length = columns.length := by
  induction factor generalizing columns with
  | nil =>
      cases shape with
      | nil => rfl
      | cons _ _ =>
          obtain ⟨_, _, _, equality⟩ := cholesky?_cons_eq_some success
          simp at equality
  | cons head factor inductionHypothesis =>
      cases shape with
      | nil => simp [cholesky?] at success
      | @cons pivot below columns belowLength rest =>
          obtain ⟨_, _, restFactor, equality⟩ := cholesky?_cons_eq_some success
          have scaledLength :
              (below.map (· / Scalar.sqrt pivot)).length = columns.length := by
            simpa using belowLength
          obtain ⟨_, rfl⟩ := List.cons.inj equality
          have restLength :=
            inductionHypothesis (rest.eliminate scaledLength) restFactor
          simp [restLength, length_eliminate scaledLength]

theorem IsTriangular.cholesky? {columns factor : LowerHalf K}
    (shape : IsTriangular columns) (success : cholesky? columns = some factor) :
    IsTriangular factor := by
  induction factor generalizing columns with
  | nil => exact .nil
  | cons head factor inductionHypothesis =>
      cases shape with
      | nil => simp [LowerHalf.cholesky?] at success
      | @cons pivot below columns belowLength rest =>
          obtain ⟨_, _, restFactor, equality⟩ := cholesky?_cons_eq_some success
          have scaledLength :
              (below.map (· / Scalar.sqrt pivot)).length = columns.length := by
            simpa using belowLength
          obtain ⟨rfl, rfl⟩ := List.cons.inj equality
          have restShape := rest.eliminate scaledLength
          refine .cons ?_ (inductionHypothesis restShape restFactor)
          rw [length_of_cholesky? restShape restFactor,
            length_eliminate scaledLength, scaledLength]

end Shape

/-! ## Products -/

section Products

variable {K : Type} [Scalar K]

/-- The product of a symmetric matrix with a vector. -/
def product : LowerHalf K → List K → List K
  | ⟨pivot, below⟩ :: columns, value :: values =>
      (pivot * value + Scalar.dot below values) ::
        List.zipWith (fun rest entry => rest + entry * value)
          (product columns values) below
  | _, _ => []

/-- The product of a lower triangular matrix with a vector. -/
def lowerProduct : LowerHalf K → List K → List K
  | ⟨pivot, below⟩ :: columns, value :: values =>
      pivot * value ::
        List.zipWith (fun rest entry => rest + entry * value)
          (lowerProduct columns values) below
  | _, _ => []

/-- The product of the transpose of a lower triangular matrix with a vector. -/
def upperProduct : LowerHalf K → List K → List K
  | ⟨pivot, below⟩ :: columns, value :: values =>
      (pivot * value + Scalar.dot below values) :: upperProduct columns values
  | _, _ => []

end Products

theorem length_product {columns : LowerHalf ℝ} (shape : columns.IsTriangular)
    {values : List ℝ} (lengths : values.length = columns.length) :
    (product columns values).length = columns.length := by
  induction shape generalizing values with
  | nil => cases values <;> simp [product]
  | @cons pivot below columns belowLength _ inductionHypothesis =>
      cases values with
      | nil => simp at lengths
      | cons value values =>
          have valuesLength : values.length = columns.length :=
            Nat.succ.inj lengths
          have rest := inductionHypothesis valuesLength
          simp [product, rest, belowLength]

theorem product_eliminate {column : List ℝ} {columns : LowerHalf ℝ}
    (shape : IsTriangular columns) (lengths : column.length = columns.length)
    {values : List ℝ} (valuesLength : values.length = columns.length) :
    product (eliminate column columns) values =
      List.zipWith (fun rest entry => rest - entry * Scalar.dot column values)
        (product columns values) column := by
  induction shape generalizing column values with
  | nil =>
      obtain rfl := List.eq_nil_of_length_eq_zero lengths
      rfl
  | @cons pivot below columns belowLength shape inductionHypothesis =>
      cases column with
      | nil => simp at lengths
      | cons top rest =>
          cases values with
          | nil => simp at valuesLength
          | cons value values =>
              have restLength : rest.length = columns.length := by
                simpa using lengths
              have tailLength : values.length = columns.length := by
                simpa using valuesLength
              have columnDot :=
                Scalar.dot_sub_mul top values (belowLength.trans restLength.symm)
              rw [eliminate, product, product, List.zipWith_cons_cons, columnDot,
                inductionHypothesis restLength tailLength, Scalar.dot_cons]
              congr 1
              · ring
              · refine List.ext_getElem ?_ fun index _ _ => ?_
                · simp [length_product shape tailLength, belowLength, restLength]
                · simp only [List.getElem_zipWith]
                  ring

/-! ## Positive matrices -/

/-- The quadratic form of a symmetric matrix. -/
noncomputable def quadratic (columns : LowerHalf ℝ) (weights : List ℝ) : ℝ :=
  Scalar.dot weights (product columns weights)

/-- The quadratic form is positive at every vector but zero. -/
def PositiveDefinite (columns : LowerHalf ℝ) : Prop :=
  ∀ weights : List ℝ,
    weights.length = columns.length →
    (∃ weight ∈ weights, weight ≠ 0) →
    0 < quadratic columns weights

theorem quadratic_cons {pivot : ℝ} {below : List ℝ} {columns : LowerHalf ℝ}
    (shape : IsTriangular columns) (belowLength : below.length = columns.length)
    {weights : List ℝ} (weightsLength : weights.length = columns.length)
    (weight : ℝ) :
    quadratic (⟨pivot, below⟩ :: columns) (weight :: weights) =
      pivot * weight ^ 2 + 2 * weight * Scalar.dot below weights +
        quadratic columns weights := by
  have productLength :
      (product columns weights).length = below.length :=
    (length_product shape weightsLength).trans belowLength.symm
  have rest :
      Scalar.dot
          (List.zipWith (fun rest entry => rest + entry * weight)
            (product columns weights) below) weights =
        Scalar.dot (product columns weights) weights +
          Scalar.dot below weights * weight := by
    have taken := Scalar.dot_sub_mul (-weight) weights productLength
    simpa [sub_eq_add_neg] using taken
  rw [quadratic, quadratic, product, Scalar.dot_cons, Scalar.dot_comm weights,
    Scalar.dot_comm weights, rest]
  ring

theorem quadratic_zeros (columns : LowerHalf ℝ) (count : Nat) :
    quadratic columns (List.replicate count 0) = 0 := by
  rw [quadratic, Scalar.dot_comm, Scalar.dot_zeros]

theorem quadratic_eliminate {column : List ℝ} {columns : LowerHalf ℝ}
    (shape : IsTriangular columns)
    (lengths : column.length = columns.length)
    {weights : List ℝ} (weightsLength : weights.length = columns.length) :
    quadratic (eliminate column columns) weights =
      quadratic columns weights - Scalar.dot column weights ^ 2 := by
  have productLength :
      (product columns weights).length = column.length :=
    (length_product shape weightsLength).trans lengths.symm
  rw [quadratic, quadratic, product_eliminate shape lengths weightsLength,
    Scalar.dot_comm, Scalar.dot_sub_mul _ _ productLength, Scalar.dot_comm weights]
  ring

/-- The first pivot of a positive matrix is positive. -/
theorem PositiveDefinite.pivot_pos {pivot : ℝ} {below : List ℝ}
    {columns : LowerHalf ℝ}
    (positive : PositiveDefinite (⟨pivot, below⟩ :: columns)) :
    0 < pivot := by
  have value :=
    positive (1 :: List.replicate columns.length 0) (by simp)
      ⟨1, List.mem_cons_self, one_ne_zero⟩
  rw [quadratic, product, Scalar.dot_cons, Scalar.dot_zeros, Scalar.dot_comm,
    Scalar.dot_zeros] at value
  linarith

/-- Completing the square: with the best first weight the form of a matrix is
that of the matrix without its first column. -/
theorem quadratic_cons_best {pivot : ℝ} (positive : 0 < pivot)
    {below : List ℝ} {columns : LowerHalf ℝ}
    (shape : IsTriangular columns) (belowLength : below.length = columns.length)
    {weights : List ℝ} (weightsLength : weights.length = columns.length)
    (weight : ℝ) :
    quadratic (⟨pivot, below⟩ :: columns) (weight :: weights) =
      pivot * (weight + Scalar.dot below weights / pivot) ^ 2 +
        quadratic (eliminate (below.map (· / Scalar.sqrt pivot)) columns)
          weights := by
  have scaled :
      Scalar.dot (below.map (· / Scalar.sqrt pivot)) weights ^ 2 =
        Scalar.dot below weights ^ 2 / pivot := by
    rw [Scalar.dot_map_div, div_pow, Scalar.sqrt_real, Real.sq_sqrt positive.le]
  rw [quadratic_eliminate shape (by simpa using belowLength) weightsLength,
    scaled, quadratic_cons shape belowLength weightsLength]
  field_simp
  ring

/-- A matrix is positive if its first pivot is and what is left without the
first column is. -/
theorem PositiveDefinite.cons_of_eliminate {pivot : ℝ} (positive : 0 < pivot)
    {below : List ℝ} {columns : LowerHalf ℝ}
    (shape : IsTriangular columns) (belowLength : below.length = columns.length)
    (rest :
      PositiveDefinite
        (eliminate (below.map (· / Scalar.sqrt pivot)) columns)) :
    PositiveDefinite (⟨pivot, below⟩ :: columns) := by
  have scaledLength :
      (below.map (· / Scalar.sqrt pivot)).length = columns.length := by
    simpa using belowLength
  have restLength := length_eliminate scaledLength
  rintro (_ | ⟨weight, weights⟩) weightsLength nonzero
  · simp at weightsLength
  · have tailLength : weights.length = columns.length := by
      simpa using weightsLength
    rw [quadratic_cons_best positive shape belowLength tailLength]
    by_cases tailZero : ∃ weight ∈ weights, weight ≠ 0
    · have tailPositive := rest weights (tailLength.trans restLength.symm) tailZero
      positivity
    · have zeros : weights = List.replicate weights.length 0 := by
        refine List.eq_replicate_of_mem fun entry member => ?_
        by_contra different
        exact tailZero ⟨entry, member, different⟩
      have headNonzero : weight ≠ 0 := by
        obtain ⟨entry, member, different⟩ := nonzero
        rcases List.mem_cons.1 member with same | inTail
        · exact same ▸ different
        · exact absurd ⟨entry, inTail, different⟩ tailZero
      rw [zeros, quadratic_zeros, Scalar.dot_zeros]
      simp only [zero_div, add_zero]
      positivity

/-- A matrix has a Cholesky factor exactly if its quadratic form is positive. -/
theorem cholesky?_isSome_iff {columns : LowerHalf ℝ}
    (shape : IsTriangular columns) :
    (cholesky? columns).isSome ↔ PositiveDefinite columns := by
  induction size : columns.length generalizing columns with
  | zero =>
      obtain rfl := List.eq_nil_of_length_eq_zero size
      refine iff_of_true (by simp [cholesky?]) ?_
      rintro weights weightsLength ⟨weight, member, _⟩
      obtain rfl := List.eq_nil_of_length_eq_zero weightsLength
      simp at member
  | succ size inductionHypothesis =>
      cases shape with
      | nil => simp at size
      | @cons pivot below columns belowLength shape =>
          have scaledLength :
              (below.map (· / Scalar.sqrt pivot)).length = columns.length := by
            simpa using belowLength
          have restLength :=
            (length_eliminate scaledLength).trans (Nat.succ.inj size)
          have rest :=
            inductionHypothesis (shape.eliminate scaledLength) restLength
          rw [cholesky?]
          constructor
          · intro success
            split at success
            case isFalse => simp at success
            case isTrue positive =>
              rw [Option.isSome_map, rest] at success
              exact .cons_of_eliminate positive shape belowLength success
          · intro positive
            have pivotPositive := positive.pivot_pos
            rw [if_pos pivotPositive, Option.isSome_map, rest]
            intro weights weightsLength nonzero
            rw [length_eliminate scaledLength] at weightsLength
            have value :=
              positive (-(Scalar.dot below weights / pivot) :: weights)
                (by simp [weightsLength]) (by
                  obtain ⟨weight, member, different⟩ := nonzero
                  exact ⟨weight, List.mem_cons_of_mem _ member, different⟩)
            rw [quadratic_cons_best pivotPositive shape belowLength
              weightsLength] at value
            simpa using value

/-! ## Solving -/

/-- No entry of the diagonal is zero, so that the systems of the factor have
one solution each. -/
def IsInvertible (factor : LowerHalf ℝ) : Prop :=
  ∀ column ∈ factor, column.pivot ≠ 0

theorem isInvertible_of_cholesky? {columns factor : LowerHalf ℝ}
    (success : cholesky? columns = some factor) : factor.IsInvertible := by
  induction factor generalizing columns with
  | nil => simp [IsInvertible]
  | cons head factor inductionHypothesis =>
      cases columns with
      | nil => simp [cholesky?] at success
      | cons column columns =>
          obtain ⟨positive, _, restFactor, equality⟩ :=
            cholesky?_cons_eq_some success
          obtain ⟨rfl, rfl⟩ := List.cons.inj equality
          intro column member
          rcases List.mem_cons.1 member with rfl | inRest
          · exact (Real.sqrt_pos.2 positive).ne'
          · exact inductionHypothesis restFactor column inRest

theorem length_lowerProduct {factor : LowerHalf ℝ} (shape : factor.IsTriangular)
    {values : List ℝ} (lengths : values.length = factor.length) :
    (lowerProduct factor values).length = factor.length := by
  induction shape generalizing values with
  | nil => cases values <;> simp [lowerProduct]
  | @cons pivot below columns belowLength _ inductionHypothesis =>
      cases values with
      | nil => simp at lengths
      | cons value values =>
          have valuesLength : values.length = columns.length :=
            Nat.succ.inj lengths
          have rest := inductionHypothesis valuesLength
          simp [lowerProduct, rest, belowLength]

theorem length_upperProduct {factor : LowerHalf ℝ} {values : List ℝ}
    (lengths : values.length = factor.length) :
    (upperProduct factor values).length = factor.length := by
  induction factor generalizing values with
  | nil => cases values <;> simp [upperProduct]
  | cons column columns inductionHypothesis =>
      cases values with
      | nil => simp at lengths
      | cons value values =>
          have valuesLength : values.length = columns.length :=
            Nat.succ.inj lengths
          simp [upperProduct, inductionHypothesis valuesLength]

@[simp]
theorem length_solveUpper {factor : LowerHalf ℝ} {values : List ℝ}
    (lengths : values.length = factor.length) :
    (solveUpper factor values).length = factor.length := by
  induction factor generalizing values with
  | nil => cases values <;> simp [solveUpper]
  | cons column columns inductionHypothesis =>
      cases values with
      | nil => simp at lengths
      | cons value values =>
          have valuesLength : values.length = columns.length :=
            Nat.succ.inj lengths
          simp [solveUpper, inductionHypothesis valuesLength]

/-- Taking a multiple of a column out again. -/
theorem zipWith_sub_add {values column : List ℝ}
    (lengths : values.length = column.length) (factor : ℝ) :
    List.zipWith (fun rest entry => rest - entry * factor)
      (List.zipWith (fun rest entry => rest + entry * factor) values column)
      column = values := by
  refine List.ext_getElem (by simp [lengths]) fun index _ _ => ?_
  simp only [List.getElem_zipWith]
  ring

theorem zipWith_add_sub {values column : List ℝ}
    (lengths : values.length = column.length) (factor : ℝ) :
    List.zipWith (fun rest entry => rest + entry * factor)
      (List.zipWith (fun rest entry => rest - entry * factor) values column)
      column = values := by
  refine List.ext_getElem (by simp [lengths]) fun index _ _ => ?_
  simp only [List.getElem_zipWith]
  ring

theorem solveLower_lowerProduct {factor : LowerHalf ℝ}
    (shape : factor.IsTriangular) (invertible : factor.IsInvertible)
    {values : List ℝ} (lengths : values.length = factor.length) :
    solveLower factor (lowerProduct factor values) = values := by
  induction shape generalizing values with
  | nil => simpa [solveLower] using lengths
  | @cons pivot below columns belowLength shape inductionHypothesis =>
      cases values with
      | nil => simp at lengths
      | cons value values =>
          have valuesLength : values.length = columns.length := by
            simpa using lengths
          have pivotNonzero : pivot ≠ 0 :=
            invertible ⟨pivot, below⟩ List.mem_cons_self
          have restInvertible : IsInvertible columns := fun column member =>
            invertible column (List.mem_cons_of_mem _ member)
          have productLength :=
            (length_lowerProduct shape valuesLength).trans belowLength.symm
          rw [lowerProduct, solveLower, mul_div_cancel_left₀ value pivotNonzero,
            zipWith_sub_add productLength,
            inductionHypothesis restInvertible valuesLength]

theorem solveUpper_upperProduct {factor : LowerHalf ℝ}
    (invertible : factor.IsInvertible) {values : List ℝ}
    (lengths : values.length = factor.length) :
    solveUpper factor (upperProduct factor values) = values := by
  induction factor generalizing values with
  | nil => simpa [solveUpper] using lengths
  | cons column columns inductionHypothesis =>
      cases values with
      | nil => simp at lengths
      | cons value values =>
          have pivotNonzero : column.pivot ≠ 0 :=
            invertible column List.mem_cons_self
          have restInvertible : IsInvertible columns := fun column member =>
            invertible column (List.mem_cons_of_mem _ member)
          rw [upperProduct, solveUpper,
            inductionHypothesis restInvertible (by simpa using lengths),
            add_sub_cancel_right, mul_div_cancel_left₀ value pivotNonzero]

theorem lowerProduct_solveLower {factor : LowerHalf ℝ}
    (shape : factor.IsTriangular) (invertible : factor.IsInvertible)
    {values : List ℝ} (lengths : values.length = factor.length) :
    lowerProduct factor (solveLower factor values) = values := by
  induction shape generalizing values with
  | nil => simpa [lowerProduct] using lengths
  | @cons pivot below columns belowLength shape inductionHypothesis =>
      cases values with
      | nil => simp at lengths
      | cons value values =>
          have valuesLength : values.length = below.length :=
            (Nat.succ.inj lengths).trans belowLength.symm
          have pivotNonzero : pivot ≠ 0 :=
            invertible ⟨pivot, below⟩ List.mem_cons_self
          have restInvertible : IsInvertible columns := fun column member =>
            invertible column (List.mem_cons_of_mem _ member)
          rw [solveLower, lowerProduct, mul_div_cancel₀ value pivotNonzero,
            inductionHypothesis restInvertible (by simp [valuesLength, belowLength]),
            zipWith_add_sub valuesLength]

theorem upperProduct_solveUpper {factor : LowerHalf ℝ}
    (invertible : factor.IsInvertible) {values : List ℝ}
    (lengths : values.length = factor.length) :
    upperProduct factor (solveUpper factor values) = values := by
  induction factor generalizing values with
  | nil => simpa [upperProduct] using lengths
  | cons column columns inductionHypothesis =>
      cases values with
      | nil => simp at lengths
      | cons value values =>
          have pivotNonzero : column.pivot ≠ 0 :=
            invertible column List.mem_cons_self
          have restInvertible : IsInvertible columns := fun column member =>
            invertible column (List.mem_cons_of_mem _ member)
          rw [solveUpper, upperProduct, mul_div_cancel₀ _ pivotNonzero,
            sub_add_cancel,
            inductionHypothesis restInvertible (Nat.succ.inj lengths)]

/-- The factor times its transpose is the matrix. -/
theorem product_eq_of_cholesky? {columns factor : LowerHalf ℝ}
    (shape : IsTriangular columns) (success : cholesky? columns = some factor)
    {values : List ℝ} (lengths : values.length = columns.length) :
    product columns values = lowerProduct factor (upperProduct factor values) := by
  induction factor generalizing columns values with
  | nil =>
      cases shape with
      | nil => simp [product, lowerProduct]
      | cons _ _ =>
          obtain ⟨_, _, _, equality⟩ := cholesky?_cons_eq_some success
          simp at equality
  | cons head factor inductionHypothesis =>
      cases shape with
      | nil => simp [cholesky?] at success
      | @cons pivot below columns belowLength shape =>
          obtain ⟨positive, _, restFactor, equality⟩ :=
            cholesky?_cons_eq_some success
          obtain ⟨rfl, rfl⟩ := List.cons.inj equality
          cases values with
          | nil => simp at lengths
          | cons value values =>
              have tailLength : values.length = columns.length := by
                simpa using lengths
              have scaledLength :
                  (below.map (· / Scalar.sqrt pivot)).length = columns.length := by
                simpa using belowLength
              have rest :=
                inductionHypothesis (shape.eliminate scaledLength) restFactor
                  (tailLength.trans (length_eliminate scaledLength).symm)
              have root : √pivot ≠ 0 := (Real.sqrt_pos.2 positive).ne'
              have square : √pivot * √pivot = pivot :=
                Real.mul_self_sqrt positive.le
              rw [product, upperProduct, lowerProduct, ← rest,
                product_eliminate shape scaledLength tailLength,
                Scalar.dot_map_div, Scalar.sqrt_real]
              congr 1
              · field_simp
                rw [sq, square]
                ring
              · refine List.ext_getElem ?_ fun index _ _ => ?_
                · simp
                · simp only [List.getElem_zipWith, List.getElem_map]
                  field_simp
                  ring

/-- Solving with the factor undoes the product with the matrix. -/
theorem solve_product {columns factor : LowerHalf ℝ}
    (shape : IsTriangular columns) (success : cholesky? columns = some factor)
    {values : List ℝ} (lengths : values.length = columns.length) :
    solve factor (product columns values) = values := by
  have factorLength := length_of_cholesky? shape success
  have invertible := isInvertible_of_cholesky? success
  have valuesLength := lengths.trans factorLength.symm
  rw [product_eq_of_cholesky? shape success lengths, solve,
    solveLower_lowerProduct (shape.cholesky? success) invertible
      (length_upperProduct valuesLength),
    solveUpper_upperProduct invertible valuesLength]

theorem length_solveLower {factor : LowerHalf ℝ} (shape : factor.IsTriangular)
    {values : List ℝ} (lengths : values.length = factor.length) :
    (solveLower factor values).length = factor.length := by
  induction shape generalizing values with
  | nil => cases values <;> simp [solveLower]
  | @cons pivot below columns belowLength _ inductionHypothesis =>
      cases values with
      | nil => simp at lengths
      | cons value values =>
          have valuesLength : values.length = columns.length := by
            simpa using lengths
          rw [solveLower, List.length_cons, inductionHypothesis, List.length_cons]
          simp [valuesLength, belowLength]

theorem length_solve {columns factor : LowerHalf ℝ}
    (shape : IsTriangular columns) (success : cholesky? columns = some factor)
    {values : List ℝ} (lengths : values.length = columns.length) :
    (solve factor values).length = columns.length := by
  have factorLength := length_of_cholesky? shape success
  have forwardLength :=
    length_solveLower (shape.cholesky? success) (lengths.trans factorLength.symm)
  exact (length_solveUpper forwardLength).trans factorLength

/-- The product of the matrix with what solving gives is the vector solved for. -/
theorem product_solve {columns factor : LowerHalf ℝ}
    (shape : IsTriangular columns) (success : cholesky? columns = some factor)
    {values : List ℝ} (lengths : values.length = columns.length) :
    product columns (solve factor values) = values := by
  have factorLength := length_of_cholesky? shape success
  have factorShape := shape.cholesky? success
  have invertible := isInvertible_of_cholesky? success
  have valuesLength := lengths.trans factorLength.symm
  have forwardLength := length_solveLower factorShape valuesLength
  rw [product_eq_of_cholesky? shape success (length_solve shape success lengths),
    solve,
    upperProduct_solveUpper invertible forwardLength,
    lowerProduct_solveLower factorShape invertible valuesLength]

/-- The product of a vector with the solution for another one is the product of
their forward solutions. -/
theorem dot_solveUpper {factor : LowerHalf ℝ} (shape : factor.IsTriangular)
    {values targets : List ℝ} (valuesLength : values.length = factor.length)
    (targetsLength : targets.length = factor.length) :
    Scalar.dot values (solveUpper factor targets) =
      Scalar.dot (solveLower factor values) targets := by
  induction shape generalizing values targets with
  | nil =>
      obtain rfl := List.eq_nil_of_length_eq_zero valuesLength
      simp [solveLower]
  | @cons pivot below columns belowLength shape inductionHypothesis =>
      cases values with
      | nil => simp at valuesLength
      | cons value values =>
          cases targets with
          | nil => simp at targetsLength
          | cons target targets =>
              have restLength : values.length = below.length :=
                (Nat.succ.inj valuesLength).trans belowLength.symm
              have reducedLength :
                  (List.zipWith (fun rest entry => rest - entry * (value / pivot))
                    values below).length = columns.length := by
                simp [restLength, belowLength]
              have rest :=
                inductionHypothesis reducedLength (Nat.succ.inj targetsLength)
              rw [solveLower, solveUpper, Scalar.dot_cons, Scalar.dot_cons, ← rest,
                Scalar.dot_sub_mul _ _ restLength]
              ring

/-! ## Leading blocks -/

/-- The block of the first `count` rows and columns. -/
def leading {K : Type} : Nat → LowerHalf K → LowerHalf K
  | count + 1, ⟨pivot, below⟩ :: columns =>
      ⟨pivot, below.take count⟩ :: leading count columns
  | _, _ => []

theorem leading_ofItems {K α : Type} (diagonal : α → K) (entry : α → α → K)
    (items more : List α) :
    leading items.length (ofItems diagonal entry (items ++ more)) =
      ofItems diagonal entry items := by
  induction items with
  | nil => cases more <;> rfl
  | cons item items inductionHypothesis =>
      simp [ofItems, leading, inductionHypothesis]

section Leading

variable {K : Type} [Scalar K]

theorem leading_eliminate (count : Nat) (column : List K)
    (columns : LowerHalf K) :
    leading count (eliminate column columns) =
      eliminate (column.take count) (leading count columns) := by
  induction columns generalizing count column with
  | nil => cases count <;> cases column <;> simp [eliminate, leading]
  | cons head columns inductionHypothesis =>
      cases count with
      | zero => cases column <;> simp [eliminate, leading]
      | succ count =>
          cases column with
          | nil => simp [eliminate, leading]
          | cons top rest =>
              simp [eliminate, leading, inductionHypothesis, List.take_zipWith]

theorem cholesky?_leading {columns factor : LowerHalf K}
    (success : cholesky? columns = some factor) (count : Nat) :
    cholesky? (leading count columns) = some (leading count factor) := by
  induction factor generalizing columns count with
  | nil =>
      cases columns with
      | nil => simp [leading, cholesky?]
      | cons column columns =>
          obtain ⟨_, _, _, equality⟩ := cholesky?_cons_eq_some success
          simp at equality
  | cons head factor inductionHypothesis =>
      cases columns with
      | nil => simp [cholesky?] at success
      | cons column columns =>
          obtain ⟨positive, _, restFactor, equality⟩ :=
            cholesky?_cons_eq_some success
          obtain ⟨rfl, rfl⟩ := List.cons.inj equality
          cases count with
          | zero => simp [leading, cholesky?]
          | succ count =>
              have rest := inductionHypothesis restFactor count
              rw [leading_eliminate] at rest
              simp [leading, cholesky?, positive, rest]

theorem solveLower_leading (count : Nat) (factor : LowerHalf K)
    (values : List K) :
    solveLower (leading count factor) (values.take count) =
      (solveLower factor values).take count := by
  induction factor generalizing count values with
  | nil => cases count <;> simp [leading, solveLower]
  | cons column columns inductionHypothesis =>
      cases count with
      | zero => simp [leading, solveLower]
      | succ count =>
          cases values with
          | nil => simp [solveLower]
          | cons value values =>
              simp [leading, solveLower, ← inductionHypothesis, List.take_zipWith]

end Leading

end LowerHalf

end BatchBayes
