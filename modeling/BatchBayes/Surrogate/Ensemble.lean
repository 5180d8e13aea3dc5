import BatchBayes.Surrogate.Moments
import BatchBayes.Surrogate.Tuning
/-!
Ensembles of Gaussian processes. Each member sees the completed points, and
apart from that the completed and the pending points, where the pending ones
are labelled with what the member predicts for them.
-/

namespace BatchBayes

/-- Which points a prediction is conditioned on. -/
inductive View where
  | completed
  | all
deriving DecidableEq, Repr

/-- One model of an ensemble in its two views. -/
structure Member (K : Type) where
  completed : GaussianProcess K
  all : GaussianProcess K

/-- Models of the same completed and pending points. -/
structure Ensemble (K : Type) where
  members : List (Member K)
  completed : Observations K
  pending : List (List K)
  padding : Padding

/-- The prediction at a point. -/
structure Prediction (K : Type) where
  mean : K
  deviation : K

variable {K : Type} [Scalar K]

namespace Member

def process (member : Member K) : View → GaussianProcess K
  | .completed => member.completed
  | .all => member.all

/-- Condition a process on more points, labelled with its own means. -/
def condition (completed : Observations K) (padding : Padding)
    (process : GaussianProcess K) (pending : List (List K)) :
    Except FitError (GaussianProcess K) :=
  let labels := pending.map fun point => (process.predict point).1
  GaussianProcess.fit ((completed.extend pending labels).pad padding)
    process.parameters

/-- Choose parameters and condition the two views. -/
def fit (completed : Observations K) (padding : Padding) (tuner : Tuner K)
    (pending : List (List K)) (key : Key) : Except FitError (Member K) :=
  let padded := completed.pad padding
  match tuner padded key with
  | .error error => .error error
  | .ok parameters =>
      match GaussianProcess.fit padded parameters with
      | .error error => .error error
      | .ok process =>
          match condition completed padding process pending with
          | .error error => .error error
          | .ok all => .ok ⟨process, all⟩

/-- The member with its pending points replaced. -/
def recondition (completed : Observations K) (padding : Padding)
    (pending : List (List K)) (member : Member K) : Except FitError (Member K) :=
  match condition completed padding member.completed pending with
  | .error error => .error error
  | .ok all => .ok { member with all }

end Member

namespace Ensemble

/-- Fit `size` members, each with a key of its own, and keep those that
succeed. At least one is tried and at least one must succeed. -/
def fit (completed : Observations K) (pending : List (List K)) (size : Nat)
    (tuner : Tuner K) (padding : Padding) (key : Key) :
    Except FitError (Ensemble K) :=
  let completed := completed.unpadded
  let keys := key.children (max size 1)
  let members :=
    keys.filterMap fun key =>
      (Member.fit completed padding tuner pending key).toOption
  if members.isEmpty then .error (.emptyEnsemble keys.length)
  else .ok ⟨members, completed, pending, padding⟩

def size (ensemble : Ensemble K) : Nat :=
  ensemble.members.length

/-- Replace the pending points. All members must take them. -/
def conditionOn (ensemble : Ensemble K) (pending : List (List K)) :
    Except FitError (Ensemble K) :=
  match
    ensemble.members.mapM
      (Member.recondition ensemble.completed ensemble.padding pending) with
  | .error error => .error error
  | .ok members => .ok { ensemble with members, pending }

/-- Add a pending point. -/
def addPending (ensemble : Ensemble K) (point : List K) :
    Except FitError (Ensemble K) :=
  ensemble.conditionOn (ensemble.pending ++ [point])

/-- Replace the pending points in place. All members must take them before any of them
changes. -/
def replacePending (pending : List (List K)) :
    EStateM FitError (Ensemble K) Unit := do
  let ensemble ← get
  let processes ←
    MonadExcept.ofExcept <|
      ensemble.members.mapM fun member =>
        Member.condition ensemble.completed ensemble.padding member.completed pending
  modify fun ensemble =>
    { ensemble with
      members :=
        List.zipWith (fun member all => { member with all }) ensemble.members processes }
  modify fun ensemble => { ensemble with pending }

/-- Add a pending point in place. -/
def appendPending (point : List K) : EStateM FitError (Ensemble K) Unit := do
  let ensemble ← get
  replacePending (ensemble.pending ++ [point])

/-- The prediction of all members together. -/
def predict (ensemble : Ensemble K) (view : View) (point : List K) :
    Prediction K :=
  let (mean, variance) :=
    Moments.mixture
      (ensemble.members.map fun member => (member.process view).predict point)
  ⟨mean, Scalar.sqrt (Scalar.max variance 0)⟩

/-- Means and covariance matrix of all members together. -/
def predictJoint (ensemble : Ensemble K) (view : View) (points : List (List K)) :
    List K × List (List K) :=
  Moments.mixtureJoint
    (ensemble.members.map fun member => (member.process view).predictJoint points)

end Ensemble

end BatchBayes
