import Mathlib
import BatchBayes.Designer.Configuration
/-!
What a valid configuration is, setting by setting.
-/

namespace BatchBayes

variable {K : Type} [Scalar K]

namespace Coefficients

/-- A finite number that is not below zero. -/
def IsWeight (value : K) : Prop :=
  Scalar.isFinite value = true ∧ ¬value < 0

def IsChance (value : K) : Prop :=
  Scalar.within value 0 1 = true

/-- Coefficients with nothing wrong about them. -/
@[mk_iff]
structure Valid (coefficients : Coefficients K) : Prop where
  upperBound : IsWeight coefficients.upperBound
  exploreRegion : IsWeight coefficients.exploreRegion
  penalty : IsWeight coefficients.penalty
  upperBoundChance : IsChance coefficients.upperBoundChance
  explorationChance : IsChance coefficients.explorationChance

variable [DecimalText K]

theorem weightDefect?_eq_none_iff (name : String) (value : K) :
    weightDefect? name value = none ↔ IsWeight value := by
  simp [weightDefect?, IsWeight]

theorem chanceDefect?_eq_none_iff (name : String) (value : K) :
    chanceDefect? name value = none ↔ IsChance value := by
  simp [chanceDefect?, IsChance]

theorem defect?_eq_none_iff (coefficients : Coefficients K) :
    coefficients.defect? = none ↔ coefficients.Valid := by
  simp only [defect?, Option.or_eq_none_iff, weightDefect?_eq_none_iff,
    chanceDefect?_eq_none_iff, valid_iff]

end Coefficients

namespace Configuration

/-- A configuration with nothing wrong about it. -/
structure Valid (configuration : Configuration K) : Prop where
  coefficients : configuration.coefficients.Valid
  ensembleSize : configuration.ensembleSize ≠ 0
  annotationSpace : (trimBlank configuration.annotationSpace).isEmpty = false
  acquisitionEvaluations : configuration.acquisitionEvaluations ≠ 0
  tuningRestarts : configuration.tuningRestarts ≠ 0

variable [DecimalText K]

theorem defect?_eq_none_iff (configuration : Configuration K) :
    configuration.defect? = none ↔ configuration.Valid := by
  rw [defect?, Option.or_eq_none_iff, Coefficients.defect?_eq_none_iff]
  constructor
  · rintro ⟨coefficients, rest⟩
    split_ifs at rest with ensembleSize annotationSpace evaluations restarts
    exact ⟨coefficients, ensembleSize, by simpa using annotationSpace, evaluations,
      restarts⟩
  · rintro ⟨coefficients, ensembleSize, annotationSpace, evaluations, restarts⟩
    refine ⟨coefficients, ?_⟩
    rw [if_neg ensembleSize, if_neg (by simp [annotationSpace]), if_neg evaluations,
      if_neg restarts]

theorem validate_eq_ok_iff (configuration : Configuration K) :
    configuration.validate = .ok () ↔ configuration.Valid := by
  rw [← defect?_eq_none_iff, validate]
  cases configuration.defect? with
  | none => exact iff_of_true rfl rfl
  | some message => exact iff_of_false (by simp) (by simp)

end Configuration

end BatchBayes
