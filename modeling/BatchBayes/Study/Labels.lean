import BatchBayes.Study.Metric
import BatchBayes.Study.Trial
/-!
Objective values as labels: larger is better, the mean is zero and the
variance one. Trials without a usable objective count as worse than all
others.
-/

namespace BatchBayes

namespace Labels

variable {K : Type} [Scalar K]

/-- The usable objective of a trial, kept within the bounds of the metric and
turned so that larger is better. -/
def oriented (metric : Metric K) (trial : Trial K) : Option K :=
  let (low, high) := metric.bounds
  (trial.usableObjective? metric.name).map fun value =>
    let value := Scalar.clamp value low high
    match metric.goal with
    | .maximize => value
    | .minimize => -value

/-- The value for trials without one, given the values of the others: below
the worst by half their spread, or by one where they do not differ. -/
def imputed (first : K) (rest : List K) : K :=
  let worst := rest.foldl Scalar.min first
  let best := rest.foldl Scalar.max first
  let spread := best - worst
  if 0 < spread then worst - 0.5 * spread else worst - 1

/-- Shift and scale to mean zero and variance one. Values that hardly differ
are only shifted. -/
def standardize (values : List K) : List K :=
  let count := Scalar.ofNat values.length
  let mean := Scalar.sum values / count
  let variance :=
    Scalar.sum (values.map fun value => (value - mean) * (value - mean)) / count
  let deviation := if 1e-20 < variance then Scalar.sqrt variance else 1
  values.map fun value => (value - mean) / deviation

/-- The labels of trials; all zero where no trial has a usable objective. -/
def ofTrials (metric : Metric K) (trials : List (Trial K)) : List K :=
  let values := trials.map (oriented metric)
  match values.filterMap id with
  | [] => values.map fun _ => 0
  | first :: rest => standardize (values.map (·.getD (imputed first rest)))

end Labels

end BatchBayes
