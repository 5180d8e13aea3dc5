import BatchBayes.Space.Document
import BatchBayes.Study.Decision
import BatchBayes.Study.Metric
import BatchBayes.Study.Trial
/-!
Problems, trials and what belongs to them as JSON documents.
-/

namespace BatchBayes

/-- Nothing is written `null`. -/
def Json.ofOption {α : Type} (write : α → Json) : Option α → Json
  | none => .null
  | some value => write value

/-! ## Problems -/

namespace Goal

def ofJson? (document : Json) : Option Goal :=
  match document.bareVariant? with
  | some "Maximize" => some maximize
  | some "Minimize" => some minimize
  | _ => none

def toJson : Goal → Json
  | maximize => .text "Maximize"
  | minimize => .text "Minimize"

end Goal

namespace Metric

def ofJson? (document : Json) : Option (Metric Float) :=
  match document.record? ["name", "goal", "min_value", "max_value"] false with
  | some [name, goal, low, high] => do
      some
        { name := ← Json.required? Json.text? name
          goal := ← Json.required? Goal.ofJson? goal
          low := ← Json.optional? Json.float? low
          high := ← Json.optional? Json.float? high }
  | _ => none

def toJson (metric : Metric Float) : Json :=
  .object
    [("name", .text metric.name), ("goal", metric.goal.toJson),
      ("min_value", Json.ofOption .real metric.low),
      ("max_value", Json.ofOption .real metric.high)]

end Metric

namespace Problem

def ofJson? (document : Json) : Option (Problem Float) :=
  match document.record? ["search_space", "metric_information"] false with
  | some [space, metrics] => do
      some ⟨← Json.required? Space.ofJson? space,
        ← Json.required? (Json.list? Metric.ofJson?) metrics⟩
  | _ => none

def toJson (problem : Problem Float) : Json :=
  .object
    [("search_space", problem.space.toJson),
      ("metric_information", .list (problem.metrics.map Metric.toJson))]

end Problem

/-! ## Annotations -/

/-- The notes of a namespace as an object. -/
def Notes.toJson (notes : Notes) : Json :=
  .object (notes.entries.map fun (key, value) => (key, .text value))

namespace Annotations

def ofJson? (document : Json) : Option Annotations :=
  match document.record? ["namespaces"] false with
  | some [namespaces] =>
      (Json.required? (Json.table? (Json.table? Json.text?)) namespaces).map
        Annotations.mk
  | _ => none

/-- The namespaces as an object of objects. -/
def namespacesJson (annotations : Annotations) : Json :=
  .object (annotations.namespaces.entries.map fun (space, notes) =>
    (space, Notes.toJson notes))

def toJson (annotations : Annotations) : Json :=
  .object [("namespaces", annotations.namespacesJson)]

end Annotations

/-! ## Trials -/

namespace Measurement

def ofJson? (document : Json) : Option (Measurement Float) :=
  match document.record? ["metrics"] false with
  | some [metrics] => Json.required? (Json.table? Json.float?) metrics
  | _ => none

def toJson (measurement : Measurement Float) : Json :=
  .object [("metrics",
    .object (measurement.entries.map fun (name, value) => (name, .real value)))]

end Measurement

namespace Status

def name : Status → String
  | active => "Active"
  | completed => "Completed"

def ofJson? (document : Json) : Option Status :=
  match document.bareVariant? with
  | some "Active" => some active
  | some "Completed" => some completed
  | _ => none

end Status

/-- An instant is written as a text. -/
def Instant.ofJson? (document : Json) : Option Instant :=
  document.text?.bind Instant.ofText?

namespace Trial

def fieldNames : List String :=
  ["id", "parameters", "status", "final_measurement", "infeasibility_reason",
    "metadata", "created_at", "completed_at"]

def ofJson? (document : Json) : Option (Trial Float) :=
  match document.record? fieldNames false with
  | some [id, assignment, status, measurement, infeasibility, annotations, createdAt,
      completedAt] => do
      some
        { id := ← Json.required? Json.word? id
          assignment := ← Json.required? Assignment.ofJson? assignment
          status := ← Json.required? Status.ofJson? status
          measurement := ← Json.optional? Measurement.ofJson? measurement
          infeasibility := ← Json.optional? Json.text? infeasibility
          annotations := ← Json.required? Annotations.ofJson? annotations
          createdAt := ← Json.required? Instant.ofJson? createdAt
          completedAt := ← Json.optional? Instant.ofJson? completedAt }
  | _ => none

def toJson (trial : Trial Float) : Json :=
  .object
    [("id", .integer trial.id.toNat), ("parameters", trial.assignment.toJson),
      ("status", .text trial.status.name),
      ("final_measurement", Json.ofOption Measurement.toJson trial.measurement),
      ("infeasibility_reason", Json.ofOption .text trial.infeasibility),
      ("metadata", trial.annotations.toJson),
      ("created_at", .text trial.createdAt.text),
      ("completed_at", Json.ofOption (fun instant => .text instant.text)
        trial.completedAt)]

/-- A list of trials under the name `trials`. -/
def listOfJson? (document : Json) : Option (List (Trial Float)) :=
  match document.record? ["trials"] false with
  | some [trials] => Json.required? (Json.list? ofJson?) trials
  | _ => none

end Trial

namespace Suggestion

def ofJson? (document : Json) : Option (Suggestion Float) :=
  match document.record? ["parameters", "metadata"] false with
  | some [assignment, annotations] => do
      some ⟨← Json.required? Assignment.ofJson? assignment,
        ← Json.required? Annotations.ofJson? annotations⟩
  | _ => none

end Suggestion

/-! ## Decisions -/

namespace Decision

def ofJson? (document : Json) : Option (Decision Float) :=
  match
    document.record? ["mean", "stddev", "stddev_from_all", "acquisition", "use_ucb"]
      false with
  | some [mean, deviation, deviationFromAll, acquisition, upperBound] => do
      some
        { mean := ← Json.required? Json.float? mean
          deviation := ← Json.required? Json.float? deviation
          deviationFromAll := ← Json.required? Json.float? deviationFromAll
          acquisition := ← Json.required? Json.float? acquisition
          upperBound := ← Json.required? Json.bool? upperBound }
  | _ => none

def toJson (decision : Decision Float) : Json :=
  .object
    [("mean", .real decision.mean), ("stddev", .real decision.deviation),
      ("stddev_from_all", .real decision.deviationFromAll),
      ("acquisition", .real decision.acquisition),
      ("use_ucb", .bool decision.upperBound)]

end Decision

end BatchBayes
