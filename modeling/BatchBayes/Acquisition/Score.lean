import BatchBayes.Surrogate.Ensemble
/-!
How much a point or a set of points is worth evaluating next.

The upper confidence bound adds to the mean given the completed points a
multiple of the deviation given all points. Pure exploration takes the
deviation alone, less a penalty for points whose optimistic estimate stays
below a threshold: the mean at the completed point that is most promising by
the same estimate. A set is worth the logarithm of the determinant of its
covariance matrix, less the penalties of its points.
-/

namespace BatchBayes

/-- The weights of acquisition values and the chances of whole batches of one
kind. -/
structure Coefficients (K : Type) where
  upperBound : K
  exploreRegion : K
  penalty : K
  upperBoundChance : K
  explorationChance : K
  /-- Whether points to explore are chosen together. -/
  jointExploration : Bool

/-- What a point or set is valued for. -/
inductive Policy where
  | upperBound
  | exploration
  | jointExploration
deriving DecidableEq, Repr

namespace Policy

def name : Policy → String
  | upperBound => "Ucb"
  | exploration => "Pe"
  | jointExploration => "SetPe"

end Policy

/-- The predictions at a point that acquisition values are made of. -/
structure Estimate (K : Type) where
  mean : K
  deviation : K
  deviationFromAll : K

/-- An ensemble with the threshold of its region to explore; without completed
points there is none. -/
structure Acquisition (K : Type) where
  ensemble : Ensemble K
  coefficients : Coefficients K
  threshold : Option K

variable {K : Type} [Scalar K]

def Coefficients.standard : Coefficients K :=
  { upperBound := 1.8
    exploreRegion := 0.5
    penalty := 10.0
    upperBoundChance := 0.25
    explorationChance := 0.1
    jointExploration := false }

namespace Acquisition

/-- The more promising of two completed points, the first one of equals, each
given by optimistic estimate and mean. -/
def morePromising (best : Option (K × K)) (candidate : K × K) : Option (K × K) :=
  match best with
  | some best => if candidate.1 ≤ best.1 then some best else some candidate
  | none => some candidate

/-- The mean at the most promising completed point. -/
def threshold? (ensemble : Ensemble K) (coefficients : Coefficients K) :
    Option K :=
  let promise := fun (point : List K) =>
    let prediction := ensemble.predict .completed point
    (prediction.mean + coefficients.exploreRegion * prediction.deviation,
      prediction.mean)
  ((ensemble.completed.features.map promise).foldl morePromising none).map (·.2)

def ofEnsemble (ensemble : Ensemble K) (coefficients : Coefficients K) :
    Acquisition K :=
  ⟨ensemble, coefficients, threshold? ensemble coefficients⟩

/-- The predictions at a point. -/
def estimate (acquisition : Acquisition K) (point : List K) : Estimate K :=
  let completed := acquisition.ensemble.predict .completed point
  let all := acquisition.ensemble.predict .all point
  ⟨completed.mean, completed.deviation, all.deviation⟩

/-! ## Values of points -/

def upperBound (acquisition : Acquisition K) (estimate : Estimate K) : K :=
  estimate.mean + acquisition.coefficients.upperBound * estimate.deviationFromAll

/-- How far the optimistic estimate stays below the threshold. -/
def violation (acquisition : Acquisition K) (estimate : Estimate K) : K :=
  match acquisition.threshold with
  | some threshold =>
      threshold -
        (estimate.mean + acquisition.coefficients.exploreRegion * estimate.deviation)
  | none => -Scalar.infinity

def penalty (acquisition : Acquisition K) (estimate : Estimate K) : K :=
  acquisition.coefficients.penalty * Scalar.max (acquisition.violation estimate) 0

def exploration (acquisition : Acquisition K) (estimate : Estimate K) : K :=
  estimate.deviationFromAll - acquisition.penalty estimate

/-! ## Values of sets -/

/-- The value of a set; lowest for the empty set and for a set whose
covariance matrix has no factor. -/
def jointExploration (acquisition : Acquisition K) (points : List (List K)) : K :=
  if points.isEmpty then -Scalar.infinity
  else
    let (_, covariance) := acquisition.ensemble.predictJoint .all points
    match (LowerHalf.ofRows covariance).cholesky? with
    | none => -Scalar.infinity
    | some factor =>
        2.0 * factor.logPivots -
          Scalar.sum
            (points.map fun point => acquisition.penalty (acquisition.estimate point))

/-- The value of a set under a policy; the policies for points look at the
first one. -/
def score (acquisition : Acquisition K) (policy : Policy) (points : List (List K)) :
    K :=
  match policy, points with
  | .upperBound, point :: _ => acquisition.upperBound (acquisition.estimate point)
  | .exploration, point :: _ => acquisition.exploration (acquisition.estimate point)
  | .jointExploration, _ => acquisition.jointExploration points
  | _, [] => -Scalar.infinity

end Acquisition

end BatchBayes
