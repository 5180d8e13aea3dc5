/-!
The numbers the models compute with. Every numerical definition is written
over a `Scalar`, so that it runs on doubles and can be read over other number
types without change.
-/

namespace BatchBayes

/-- The operations that the numerical definitions use. Comparison and `==`
follow the number type, so a value that is no number may differ from itself. -/
class Scalar (K : Type) extends Zero K, One K, Add K, Sub K, Mul K, Div K,
    Neg K, LT K, LE K, BEq K, OfScientific K where
  decidableLT (x y : K) : Decidable (x < y)
  decidableLE (x y : K) : Decidable (x ≤ y)
  /-- The number nearest to an integer. -/
  ofInt : Int → K
  sqrt : K → K
  exp : K → K
  /-- The natural logarithm. -/
  log : K → K
  /-- The greatest integer not above a finite number; 0 for any other value. -/
  floor : K → Int
  /-- The integer nearest to a finite number, a half going away from zero;
  0 for any other value. -/
  round : K → Int
  isNaN : K → Bool
  isFinite : K → Bool
  /-- Above every finite number. -/
  infinity : K
  /-- The largest finite number. -/
  largest : K

/-- Numbers with a decimal text that can be read back. -/
class DecimalText (K : Type) where
  text : K → String
  ofText? : String → Option K

namespace Scalar

variable {K : Type} [Scalar K]

instance (x y : K) : Decidable (x < y) := decidableLT x y

instance (x y : K) : Decidable (x ≤ y) := decidableLE x y

/-- The number nearest to a natural number. -/
def ofNat (n : Nat) : K :=
  ofInt (Int.ofNat n)

/-- The larger of two numbers; the other one where one is no number. -/
def max (x y : K) : K :=
  if isNaN x then y else if x < y then y else x

/-- The smaller of two numbers; the other one where one is no number. -/
def min (x y : K) : K :=
  if isNaN x then y else if y < x then y else x

/-- The number of `[low, high]` nearest to `x`. -/
def clamp (x low high : K) : K :=
  if x < low then low else if high < x then high else x

/-- Whether `low ≤ x ≤ high`. -/
def within (x low high : K) : Bool :=
  decide (low ≤ x) && decide (x ≤ high)

/-- The sum of a list, added up from the left. -/
def sum (xs : List K) : K :=
  xs.foldl (· + ·) 0

/-- The sum of the products of entries at the same place. -/
def dot (xs ys : List K) : K :=
  sum (List.zipWith (· * ·) xs ys)

/-- The part of a non-negative number after the point. -/
def fractional (x : K) : K :=
  x - ofInt (floor x)

end Scalar

/-- One step of `indexOfLargest`: the best index and value so far, and the
index of the next value. -/
def largestStep {K : Type} [Scalar K]
    (state : Nat × K × Nat) (value : K) : Nat × K × Nat :=
  let (best, bestValue, index) := state
  if bestValue < value then (index, value, index + 1)
  else (best, bestValue, index + 1)

/-- The index of the first value that no later value exceeds; 0 for an empty
list. -/
def indexOfLargest {K : Type} [Scalar K] : List K → Nat
  | [] => 0
  | first :: rest => (rest.foldl largestStep (0, first, 1)).1

end BatchBayes
