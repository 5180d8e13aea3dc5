import BatchBayes.Space.Basic
/-!
What a study optimizes: the metric, its goal and the space searched.
-/

namespace BatchBayes

inductive Goal where
  | maximize
  | minimize
deriving DecidableEq, Repr

instance : Inhabited Goal := ⟨.maximize⟩

/-- A measured quantity with the values it is known to stay between. -/
structure Metric (K : Type) where
  name : String
  goal : Goal
  low : Option K
  high : Option K

/-- A space and the metrics measured at its points. -/
structure Problem (K : Type) where
  space : Space K
  metrics : List (Metric K)

namespace Metric

variable {K : Type} [Scalar K]

/-- A known finite bound, or else a standard one. -/
def finiteOr (bound : Option K) (standard : K) : K :=
  (bound.filter Scalar.isFinite).getD standard

def lowOr (metric : Metric K) (standard : K) : K :=
  finiteOr metric.low standard

def highOr (metric : Metric K) (standard : K) : K :=
  finiteOr metric.high standard

/-- The known bounds, with the ends of all finite numbers where a bound is
missing; bounds in the wrong order are dropped. -/
def bounds (metric : Metric K) : K × K :=
  let low := metric.lowOr (-Scalar.largest)
  let high := metric.highOr Scalar.largest
  if high < low then (-Scalar.largest, Scalar.largest) else (low, high)

end Metric

namespace Problem

/-- The one metric of a problem. -/
def objective {K : Type} (problem : Problem K) : Except Failure (Metric K) :=
  match problem.metrics with
  | [metric] => .ok metric
  | [] => .error (.configuration "problem statement has no objective metric")
  | metrics =>
      .error (.configuration
        s!"expected exactly one objective metric, got {metrics.length}")

end Problem

end BatchBayes
