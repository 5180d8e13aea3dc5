import BatchBayes.Failure
import BatchBayes.Surrogate.Cholesky
import BatchBayes.Surrogate.Kernel
import BatchBayes.Surrogate.Observations
/-!
Gaussian processes of mean zero, conditioned on observations. Filler rows have
a unit diagonal, no covariance with any point and the label zero, so that they
change no prediction.
-/

namespace BatchBayes

/-- The factor of the covariance matrix of the observations, and the weights
that it gives their labels. -/
structure Posterior (K : Type) where
  factor : LowerHalf K
  weights : List K

/-- A process conditioned on observations; without rows there is no posterior
and the predictions are those of the prior. -/
structure GaussianProcess (K : Type) where
  parameters : KernelParameters K
  data : Observations K
  posterior : Option (Posterior K)

namespace GaussianProcess

variable {K : Type} [Scalar K]

/-- What is added to the diagonal, in units of the amplitude, until the
covariance matrix has a factor. -/
def jitters : List K :=
  [0, 1e-8, 1e-6, 1e-4]

/-- The labels that count, zero for filler. -/
def labels (data : Observations K) : List K :=
  data.rows.map fun row => if row.valid then row.label else 0

/-- The covariance of an observed label with itself; one for filler. -/
def selfCovariance (parameters : KernelParameters K) (jitter : K)
    (row : Observation K) : K :=
  if row.valid then
    parameters.covariance row.features row.features + parameters.noise + jitter
  else 1

/-- The covariance of two different labels; zero for filler. -/
def rowCovariance (parameters : KernelParameters K) (left right : Observation K) :
    K :=
  if left.valid && right.valid then
    parameters.covariance left.features right.features
  else 0

/-- The covariance matrix of the labels. -/
def gram (data : Observations K) (parameters : KernelParameters K) (jitter : K) :
    LowerHalf K :=
  LowerHalf.ofItems (selfCovariance parameters jitter) (rowCovariance parameters)
    data.rows

/-- The first mismatch between the dimension of the data and the lengths of
the parameters and the feature vectors. -/
def mismatch? (data : Observations K) (parameters : KernelParameters K) :
    Option FitError :=
  if parameters.lengthscales.length ≠ data.dimension then
    some (.dimensionMismatch data.dimension parameters.lengthscales.length)
  else
    (data.features.find? (fun point => point.length != data.dimension)).map
      fun point => .dimensionMismatch data.dimension point.length

/-- The factor of the covariance matrix with the least jitter that gives one. -/
def factor? (data : Observations K) (parameters : KernelParameters K) :
    Option (LowerHalf K) :=
  jitters.findSome? fun jitter =>
    (gram data parameters (jitter * parameters.amplitude)).cholesky?

/-- Condition the process on observations. -/
def fit (data : Observations K) (parameters : KernelParameters K) :
    Except FitError (GaussianProcess K) :=
  match mismatch? data parameters with
  | some error => .error error
  | none =>
      if data.isEmpty then .ok ⟨parameters, data, none⟩
      else
        match factor? data parameters with
        | none => .error (.notPositiveDefinite data.size)
        | some factor =>
            .ok ⟨parameters, data, some ⟨factor, factor.solve (labels data)⟩⟩

/-! ## Predictions -/

/-- The covariances of a point with the observed labels. -/
def crossCovariance (process : GaussianProcess K) (point : List K) : List K :=
  process.data.rows.map fun row =>
    if row.valid then process.parameters.covariance point row.features else 0

/-- Mean and variance at a point. -/
def predict (process : GaussianProcess K) (point : List K) : K × K :=
  match process.posterior with
  | none => (0, process.parameters.amplitude)
  | some posterior =>
      let cross := process.crossCovariance point
      let explained := Scalar.dot cross (posterior.factor.solve cross)
      (Scalar.dot cross posterior.weights,
        Scalar.max (process.parameters.amplitude - explained) 0)

/-- The square matrix of a function of two items, by rows. -/
def matrixOf {α : Type} (entry : α → α → K) (items : List α) : List (List K) :=
  items.map fun left => items.map (entry left)

/-- Means and covariance matrix at some points. The two halves of the matrix
are averaged, so that it is symmetric. -/
def predictJoint (process : GaussianProcess K) (points : List (List K)) :
    List K × List (List K) :=
  let prior := process.parameters.covariance
  match process.posterior with
  | none => (points.map fun _ => 0, matrixOf prior points)
  | some posterior =>
      let items := points.map fun point =>
        let cross := process.crossCovariance point
        (point, cross, posterior.factor.solve cross)
      let half := fun (left right : List K × List K × List K) =>
        prior left.1 right.1 - Scalar.dot left.2.1 right.2.2
      (items.map fun item => Scalar.dot item.2.1 posterior.weights,
        matrixOf (fun left right => (half left right + half right left) * 0.5) items)

/-- The logarithm of the density of the observed labels. -/
def logLikelihood (process : GaussianProcess K) : K :=
  match process.posterior with
  | none => 0
  | some posterior =>
      -0.5 * Scalar.dot (labels process.data) posterior.weights -
        posterior.factor.logPivots -
        0.5 * Scalar.ofNat process.data.numValid * 1.8378770664093455

end GaussianProcess

end BatchBayes
