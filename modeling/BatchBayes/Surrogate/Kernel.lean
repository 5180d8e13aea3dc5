import BatchBayes.Scalar
/-!
The Matérn kernel of smoothness 5/2, with one lengthscale for each feature.
-/

namespace BatchBayes

/-- What shapes a kernel: the variance of the signal, how far its values
reach along each feature, and the variance of the noise. -/
structure KernelParameters (K : Type) where
  amplitude : K
  lengthscales : List K
  noise : K

namespace KernelParameters

variable {K : Type} [Scalar K]

/-- The parameters to start from. -/
def standard (dimension : Nat) : KernelParameters K :=
  ⟨1, List.replicate dimension 0.5, 1e-4⟩

/-- The squared distance of two points in units of the lengthscales. -/
def squaredDistance (parameters : KernelParameters K) (left right : List K) : K :=
  let scaled :=
    List.zipWith (· / ·) (List.zipWith (· - ·) left right) parameters.lengthscales
  Scalar.dot scaled scaled

/-- The covariance of the signal at two points:
`σ² (1 + √5 r + 5/3 r²) exp (-√5 r)` at distance `r`. -/
def covariance (parameters : KernelParameters K) (left right : List K) : K :=
  let squared := parameters.squaredDistance left right
  let scaled := Scalar.sqrt (5.0 * squared)
  parameters.amplitude * (1 + scaled + 5.0 / 3.0 * squared) * Scalar.exp (-scaled)

end KernelParameters

end BatchBayes
