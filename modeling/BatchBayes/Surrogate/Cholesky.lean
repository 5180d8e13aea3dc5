import BatchBayes.Scalar
/-!
Symmetric matrices by the columns of their lower halves, their Cholesky
factors, and the linear systems that a factor solves.
-/

namespace BatchBayes

/-- A column of the lower half of a square matrix: the entry on the diagonal
and those below it. -/
structure Column (K : Type) where
  pivot : K
  below : List K

/-- The lower half of a square matrix, column by column. Each column is one
entry shorter than the one before. -/
abbrev LowerHalf (K : Type) := List (Column K)

namespace LowerHalf

variable {K : Type} [Scalar K]

/-! ## Building -/

/-- The lower half of a matrix given by a function of two items. -/
def ofItems {α : Type} (diagonal : α → K) (entry : α → α → K) :
    List α → LowerHalf K
  | [] => []
  | item :: items =>
      ⟨diagonal item, items.map (entry · item)⟩ :: ofItems diagonal entry items

/-- The lower half of the matrix with the given rows, from the column `index`
on. -/
def ofRowsFrom (index : Nat) : List (List K) → LowerHalf K
  | [] => []
  | row :: rows =>
      ⟨row.getD index 0, rows.map (·.getD index 0)⟩ :: ofRowsFrom (index + 1) rows

/-- The lower half of the matrix with the given rows. -/
def ofRows (rows : List (List K)) : LowerHalf K :=
  ofRowsFrom 0 rows

/-! ## Factoring -/

/-- Take the product of `column` with its transpose out of a matrix. -/
def eliminate : List K → LowerHalf K → LowerHalf K
  | top :: rest, ⟨pivot, below⟩ :: columns =>
      ⟨pivot - top * top,
          List.zipWith (fun entry factor => entry - factor * top) below rest⟩ ::
        eliminate rest columns
  | _, _ => []

theorem length_eliminate_le (column : List K) (columns : LowerHalf K) :
    (eliminate column columns).length ≤ columns.length := by
  induction columns generalizing column with
  | nil => cases column <;> simp [eliminate]
  | cons head columns inductionHypothesis =>
      cases column with
      | nil => simp [eliminate]
      | cons top rest => simpa [eliminate] using inductionHypothesis rest

/-- The lower triangular factor whose product with its transpose is the
matrix. There is one only if every pivot on the way is positive. -/
def cholesky? : LowerHalf K → Option (LowerHalf K)
  | [] => some []
  | ⟨pivot, below⟩ :: columns =>
      if 0 < pivot then
        let root := Scalar.sqrt pivot
        let scaled := below.map (· / root)
        (cholesky? (eliminate scaled columns)).map (⟨root, scaled⟩ :: ·)
      else none
termination_by columns => columns.length
decreasing_by
  exact Nat.lt_succ_of_le (length_eliminate_le _ _)

/-! ## Solving -/

/-- The solution `x` of `L x = b`, from the first entry on. -/
def solveLower : LowerHalf K → List K → List K
  | ⟨pivot, below⟩ :: columns, value :: values =>
      let first := value / pivot
      first ::
        solveLower columns
          (List.zipWith (fun rest factor => rest - factor * first) values below)
  | _, _ => []

/-- The solution `x` of `Lᵀ x = b`, from the last entry on. -/
def solveUpper : LowerHalf K → List K → List K
  | ⟨pivot, below⟩ :: columns, value :: values =>
      let rest := solveUpper columns values
      (value - Scalar.dot below rest) / pivot :: rest
  | _, _ => []

/-- The solution `x` of `L Lᵀ x = b`. -/
def solve (factor : LowerHalf K) (values : List K) : List K :=
  solveUpper factor (solveLower factor values)

/-- The logarithm of the product of the diagonal entries. -/
def logPivots (factor : LowerHalf K) : K :=
  Scalar.sum (factor.map fun column => Scalar.log column.pivot)

end LowerHalf

end BatchBayes
