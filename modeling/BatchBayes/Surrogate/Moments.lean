import BatchBayes.Scalar
/-!
Mean and variance of a mixture of equally weighted distributions: the mean of
the means, and the variance of the means with the mean of the variances.
-/

namespace BatchBayes

namespace Moments

variable {K : Type} [Scalar K]

/-- The mean of a list. -/
def mean (values : List K) : K :=
  Scalar.sum values / Scalar.ofNat values.length

/-- Mean and variance of a mixture of numbers. -/
def mixture (moments : List (K × K)) : K × K :=
  if moments.isEmpty then (0, 0)
  else
    let center := mean (moments.map (·.1))
    let spread :=
      mean (moments.map fun moment => (moment.1 - center) * (moment.1 - center))
    (center, spread + mean (moments.map (·.2)))

/-! ## Vectors -/

/-- The sum of two matrices. -/
def addMatrix (left right : List (List K)) : List (List K) :=
  List.zipWith (List.zipWith (· + ·)) left right

/-- The matrix of the products of two entries of a vector. -/
def outer (vector : List K) : List (List K) :=
  vector.map fun left => vector.map (left * ·)

def zeroMatrix (size : Nat) : List (List K) :=
  List.replicate size (List.replicate size 0)

/-- Mean and covariance matrix of a mixture of vectors. -/
def mixtureJoint (moments : List (List K × List (List K))) :
    List K × List (List K) :=
  match moments with
  | [] => ([], [])
  | (first, _) :: _ =>
      let count := Scalar.ofNat moments.length
      let total :=
        moments.foldl (fun total moment => List.zipWith (· + ·) total moment.1)
          (List.replicate first.length 0)
      let center := total.map (· / count)
      let spread :=
        moments.foldl
          (fun spread (mean, covariance) =>
            let offset := List.zipWith (· - ·) mean center
            addMatrix (addMatrix spread covariance) (outer offset))
          (zeroMatrix first.length)
      (center, spread.map fun row => row.map (· / count))

end Moments

end BatchBayes
