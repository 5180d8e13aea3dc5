import BatchBayes.Scalar
import BatchBayes.Study.Annotations
/-!
Why a point was chosen: the predictions at it and its acquisition value.
-/

namespace BatchBayes

/-- The record of one choice, in the scale of the labels. -/
structure Decision (K : Type) where
  /-- The mean given the completed trials. -/
  mean : K
  /-- The standard deviation given the completed trials. -/
  deviation : K
  /-- The standard deviation given the completed and the active trials. -/
  deviationFromAll : K
  acquisition : K
  /-- Whether the acquisition value is the upper confidence bound. -/
  upperBound : Bool

namespace Decision

variable {K : Type} [DecimalText K]

def flagText (flag : Bool) : String :=
  if flag then "true" else "false"

def flag? : String → Option Bool
  | "true" => some true
  | "false" => some false
  | _ => none

/-- Write the record into a namespace, over an earlier one. -/
def write (decision : Decision K) (annotations : Annotations) (space : String) :
    Annotations :=
  ((((annotations.insert space "mean" (DecimalText.text decision.mean)
    ).insert space "stddev" (DecimalText.text decision.deviation)
    ).insert space "stddev_from_all" (DecimalText.text decision.deviationFromAll)
    ).insert space "acquisition" (DecimalText.text decision.acquisition)
    ).insert space "use_ucb" (flagText decision.upperBound)

/-- Read the record of a namespace back. -/
def read? (annotations : Annotations) (space : String) : Option (Decision K) := do
  let number := fun (key : String) =>
    (annotations.find? space key).bind DecimalText.ofText?
  let mean ← number "mean"
  let deviation ← number "stddev"
  let deviationFromAll ← number "stddev_from_all"
  let acquisition ← number "acquisition"
  let upperBound ← (annotations.find? space "use_ucb").bind flag?
  some { mean, deviation, deviationFromAll, acquisition, upperBound }

end Decision

end BatchBayes
