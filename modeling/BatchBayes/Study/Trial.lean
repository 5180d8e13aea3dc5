import BatchBayes.Space.Basic
import BatchBayes.Study.Annotations
import BatchBayes.Time.Instant
/-!
Trials: assignments that are evaluated, and what came out.
-/

namespace BatchBayes

/-- Measured values by metric name. -/
abbrev Measurement (K : Type) := Table String K

inductive Status where
  | active
  | completed
deriving DecidableEq, Repr

/-- One assignment and, once it is evaluated, its outcome. -/
structure Trial (K : Type) where
  id : UInt64
  assignment : Assignment K
  status : Status
  measurement : Option (Measurement K)
  /-- Why an evaluation that ended gives no usable objective. -/
  infeasibility : Option String
  annotations : Annotations
  createdAt : Instant
  completedAt : Option Instant

/-- An assignment proposed for evaluation. -/
structure Suggestion (K : Type) where
  assignment : Assignment K
  annotations : Annotations

namespace Trial

variable {K : Type}

/-- A trial that is still to be evaluated. -/
def start (id : UInt64) (assignment : Assignment K) (now : Instant) : Trial K :=
  { id
    assignment
    status := .active
    measurement := none
    infeasibility := none
    annotations := .empty
    createdAt := now
    completedAt := none }

def annotate (trial : Trial K) (annotations : Annotations) : Trial K :=
  { trial with annotations }

/-- The evaluation ended with a measurement. -/
def complete (trial : Trial K) (measurement : Measurement K) (now : Instant) :
    Trial K :=
  { trial with
    status := .completed
    measurement := some measurement
    completedAt := some now }

/-- The evaluation ended without a usable objective. -/
def completeInfeasible (trial : Trial K) (reason : String) (now : Instant) :
    Trial K :=
  { trial with
    status := .completed
    infeasibility := some reason
    completedAt := some now }

def isCompleted (trial : Trial K) : Bool :=
  trial.status == .completed

def isInfeasible (trial : Trial K) : Bool :=
  trial.infeasibility.isSome

/-- The measured value of a metric, unless the trial is infeasible. -/
def objective? (trial : Trial K) (metric : String) : Option K :=
  if trial.isInfeasible then none
  else trial.measurement.bind (·.find? metric)

/-- The objective where it is a finite number. -/
def usableObjective? [Scalar K] (trial : Trial K) (metric : String) : Option K :=
  (trial.objective? metric).filter Scalar.isFinite

end Trial

namespace Suggestion

variable {K : Type}

def ofAssignment (assignment : Assignment K) : Suggestion K :=
  ⟨assignment, .empty⟩

/-- The trial that evaluates a suggestion. -/
def toTrial (suggestion : Suggestion K) (id : UInt64) (now : Instant) : Trial K :=
  (Trial.start id suggestion.assignment now).annotate suggestion.annotations

end Suggestion

end BatchBayes
