import BatchBayes.Acquisition.Evolution
import BatchBayes.Designer.Configuration
import BatchBayes.Double
import BatchBayes.Json.Printer
import BatchBayes.Json.Reader
import BatchBayes.Json.Record
/-!
Settings as JSON documents. A missing setting has its standard value.
-/

namespace BatchBayes

/-! ## Configurations -/

namespace Coefficients

def fieldNames : List String :=
  ["ucb_coefficient", "explore_region_ucb_coefficient",
    "cb_violation_penalty_coefficient", "ucb_overwrite_probability",
    "pe_overwrite_probability", "optimize_set_acquisition_for_exploration"]

def ofJson? (document : Json) : Option (Coefficients Float) :=
  let standard : Coefficients Float := .standard
  match document.record? fieldNames true with
  | some [upperBound, exploreRegion, penalty, upperBoundChance, explorationChance,
      jointExploration] => do
      some
        { upperBound := ← Json.orElse? standard.upperBound Json.float? upperBound
          exploreRegion :=
            ← Json.orElse? standard.exploreRegion Json.float? exploreRegion
          penalty := ← Json.orElse? standard.penalty Json.float? penalty
          upperBoundChance :=
            ← Json.orElse? standard.upperBoundChance Json.float? upperBoundChance
          explorationChance :=
            ← Json.orElse? standard.explorationChance Json.float? explorationChance
          jointExploration :=
            ← Json.orElse? standard.jointExploration Json.bool? jointExploration }
  | _ => none

def toJson (coefficients : Coefficients Float) : Json :=
  .object
    [("ucb_coefficient", .real coefficients.upperBound),
      ("explore_region_ucb_coefficient", .real coefficients.exploreRegion),
      ("cb_violation_penalty_coefficient", .real coefficients.penalty),
      ("ucb_overwrite_probability", .real coefficients.upperBoundChance),
      ("pe_overwrite_probability", .real coefficients.explorationChance),
      ("optimize_set_acquisition_for_exploration",
        .bool coefficients.jointExploration)]

end Coefficients

namespace PaddingRule

def name : PaddingRule → String
  | exact => "None"
  | multiplesOfTen => "MultiplesOf10"
  | powersOfTwo => "PowersOf2"

/-- The rule of that name. -/
def named? : String → Option PaddingRule
  | "None" => some exact
  | "MultiplesOf10" => some multiplesOfTen
  | "PowersOf2" => some powersOfTwo
  | _ => none

def ofJson? (document : Json) : Option PaddingRule :=
  match document.record? ["num_trials"] false with
  | some [rule] =>
      Json.required? (fun name => name.bareVariant?.bind named?) rule
  | _ => none

def toJson (rule : PaddingRule) : Json :=
  .object [("num_trials", .text rule.name)]

end PaddingRule

namespace Configuration

def fieldNames : List String :=
  ["ucb_pe", "num_seed_trials", "ensemble_size", "metadata_ns", "padding", "seed",
    "acquisition_evaluations", "ard_restarts"]

def ofJson? (document : Json) : Option (Configuration Float) :=
  let standard : Configuration Float := .standard
  match document.record? fieldNames true with
  | some [coefficients, seedTrials, ensembleSize, annotationSpace, padding, seed,
      acquisitionEvaluations, tuningRestarts] => do
      some
        { coefficients :=
            ← Json.orElse? standard.coefficients Coefficients.ofJson? coefficients
          seedTrials := ← Json.orElse? standard.seedTrials Json.word? seedTrials
          ensembleSize := ← Json.orElse? standard.ensembleSize Json.word? ensembleSize
          annotationSpace :=
            ← Json.orElse? standard.annotationSpace Json.text? annotationSpace
          padding := ← Json.orElse? standard.padding PaddingRule.ofJson? padding
          seed := ← Json.orElse? standard.seed Json.word? seed
          acquisitionEvaluations :=
            ← Json.orElse? standard.acquisitionEvaluations Json.word?
              acquisitionEvaluations
          tuningRestarts :=
            ← Json.orElse? standard.tuningRestarts Json.word? tuningRestarts }
  | _ => none

def toJson (configuration : Configuration Float) : Json :=
  .object
    [("ucb_pe", configuration.coefficients.toJson),
      ("num_seed_trials", .integer configuration.seedTrials.toNat),
      ("ensemble_size", .integer configuration.ensembleSize.toNat),
      ("metadata_ns", .text configuration.annotationSpace),
      ("padding", configuration.padding.toJson),
      ("seed", .integer configuration.seed.toNat),
      ("acquisition_evaluations",
        .integer configuration.acquisitionEvaluations.toNat),
      ("ard_restarts", .integer configuration.tuningRestarts.toNat)]

/-- The configuration that a text holds, with nothing wrong about it. -/
def parse (text : String) : Except Failure (Configuration Float) :=
  match (Json.parse? text).bind ofJson? with
  | none => .error .unreadableDocument
  | some configuration => configuration.validate.map fun _ => configuration

/-- The indented document of a configuration. -/
def document (configuration : Configuration Float) : String :=
  configuration.toJson.pretty

end Configuration

/-! ## Other settings -/

namespace KernelParameters

def ofJson? (document : Json) : Option (KernelParameters Float) :=
  match document.record? ["amplitude", "lengthscales", "noise_variance"] false with
  | some [amplitude, lengthscales, noise] => do
      some ⟨← Json.required? Json.float? amplitude,
        ← Json.required? (Json.list? Json.float?) lengthscales,
        ← Json.required? Json.float? noise⟩
  | _ => none

def toJson (parameters : KernelParameters Float) : Json :=
  .object
    [("amplitude", .real parameters.amplitude),
      ("lengthscales", .list (parameters.lengthscales.map .real)),
      ("noise_variance", .real parameters.noise)]

end KernelParameters

namespace Evolution

def fieldNames : List String :=
  ["max_evaluations", "population_size", "initial_step", "step_decay", "min_step",
    "attraction"]

def ofJson? (document : Json) : Option (Evolution Float) :=
  match document.record? fieldNames false with
  | some [budget, population, initialStep, stepDecay, leastStep, attraction] => do
      some
        { budget := (← Json.required? Json.word? budget).toNat
          population := (← Json.required? Json.word? population).toNat
          initialStep := ← Json.required? Json.float? initialStep
          stepDecay := ← Json.required? Json.float? stepDecay
          leastStep := ← Json.required? Json.float? leastStep
          attraction := ← Json.required? Json.float? attraction }
  | _ => none

def toJson (evolution : Evolution Float) : Json :=
  .object
    [("max_evaluations", .integer evolution.budget),
      ("population_size", .integer evolution.population),
      ("initial_step", .real evolution.initialStep),
      ("step_decay", .real evolution.stepDecay),
      ("min_step", .real evolution.leastStep),
      ("attraction", .real evolution.attraction)]

end Evolution

namespace Key

def ofJson? (document : Json) : Option Key :=
  document.word?.map Key.mk

def toJson (key : Key) : Json :=
  .integer key.word.toNat

end Key

end BatchBayes
