import BatchBayes.Acquisition.Score
import BatchBayes.Failure
import BatchBayes.Text.Blank
/-!
The settings of a designer.
-/

namespace BatchBayes

/-- What a designer is set up with. -/
structure Configuration (K : Type) where
  coefficients : Coefficients K
  /-- The number of known trials below which points are seeds. -/
  seedTrials : UInt64
  ensembleSize : UInt64
  /-- The namespace that decisions are written into. -/
  annotationSpace : String
  padding : PaddingRule
  /-- The seed of all random keys. -/
  seed : UInt64
  /-- The budget of each search for the slots of a group. -/
  acquisitionEvaluations : UInt64
  /-- The starts of each search for kernel parameters. -/
  tuningRestarts : UInt64

variable {K : Type} [Scalar K] [DecimalText K]

namespace Coefficients

/-- A weight must be a finite number and not below zero. -/
def weightDefect? (name : String) (value : K) : Option String :=
  if Scalar.isFinite value && decide (¬ value < 0) then none
  else
    some s!"{name} must be finite and non-negative, got {DecimalText.text value}"

/-- A chance must lie between zero and one. -/
def chanceDefect? (name : String) (value : K) : Option String :=
  if Scalar.within value 0 1 then none
  else some s!"{name} must lie in [0, 1], got {DecimalText.text value}"

/-- What is wrong with the first coefficient that has something wrong. -/
def defect? (coefficients : Coefficients K) : Option String :=
  (weightDefect? "ucb_coefficient" coefficients.upperBound).or <|
  (weightDefect? "explore_region_ucb_coefficient" coefficients.exploreRegion).or <|
  (weightDefect? "cb_violation_penalty_coefficient" coefficients.penalty).or <|
  (chanceDefect? "ucb_overwrite_probability" coefficients.upperBoundChance).or <|
  chanceDefect? "pe_overwrite_probability" coefficients.explorationChance

end Coefficients

namespace Configuration

def standard : Configuration K :=
  { coefficients := .standard
    seedTrials := 1
    ensembleSize := 1
    annotationSpace := "gp_ucb_pe_bandit"
    padding := .exact
    seed := 0
    acquisitionEvaluations := 2000
    tuningRestarts := 8 }

/-- What is wrong with the first setting that has something wrong. -/
def defect? (configuration : Configuration K) : Option String :=
  configuration.coefficients.defect?.or <|
  if configuration.ensembleSize = 0 then
    some "ensemble_size must be at least 1"
  else if (trimBlank configuration.annotationSpace).isEmpty then
    some "metadata_ns must not be empty"
  else if configuration.acquisitionEvaluations = 0 then
    some "acquisition_evaluations must be at least 1"
  else if configuration.tuningRestarts = 0 then
    some "ard_restarts must be at least 1"
  else none

/-- Refuse settings that have something wrong. -/
def validate (configuration : Configuration K) : Except Failure Unit :=
  match configuration.defect? with
  | some message => .error (.configuration message)
  | none => .ok ()

end Configuration

end BatchBayes
