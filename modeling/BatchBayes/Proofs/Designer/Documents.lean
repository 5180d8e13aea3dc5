import Mathlib
import BatchBayes.Designer.Document
import BatchBayes.Proofs.Designer.Settings
import BatchBayes.Proofs.Json.Fields
import BatchBayes.Proofs.Json.Reading
import BatchBayes.Proofs.Study.RoundTrip
/-!
Configurations that are written as documents and read again, from the whole document or
from one in which settings are left out. Names, counts and seeds always come back as they
were. A double is read by two roundings and need not come back, so this is asked of the
coefficients.
-/

namespace BatchBayes

/-! ## Settings that are left out -/

namespace Json

theorem orElse?_real (value standard : Float) (missing : Prop) [Decidable missing] :
    orElse? standard float? (if missing then none else some (.real value)) =
      some (if missing then standard else value) :=
  orElse?_of_read (by rfl) standard missing

theorem orElse?_bool (value standard : Bool) (missing : Prop) [Decidable missing] :
    orElse? standard bool? (if missing then none else some (.bool value)) =
      some (if missing then standard else value) :=
  orElse?_of_read (by rfl) standard missing

theorem orElse?_text (value standard : String) (missing : Prop) [Decidable missing] :
    orElse? standard text? (if missing then none else some (.text value)) =
      some (if missing then standard else value) :=
  orElse?_of_read (by rfl) standard missing

theorem orElse?_word (value standard : UInt64) (missing : Prop) [Decidable missing] :
    orElse? standard word? (if missing then none else some (.integer value.toNat)) =
      some (if missing then standard else value) :=
  orElse?_of_read (word?_integer value) standard missing

theorem legible_word {room : Nat} (word : UInt64) :
    Legible room (.integer word.toNat) := by
  have bound := word.toNat_lt_size
  refine .integer (Int.le_trans (by decide) (Int.natCast_nonneg _)) ?_
  exact Int.ofNat_lt.2 bound

end Json

namespace Coefficients

theorem valid_standard : (standard : Coefficients Float).Valid := by
  rw [← defect?_eq_none_iff]
  decide +kernel

def numbers (coefficients : Coefficients Float) : List Float :=
  [coefficients.upperBound, coefficients.exploreRegion, coefficients.penalty,
    coefficients.upperBoundChance, coefficients.explorationChance]

/-- The coefficients of the names `dropped` have their standard values. -/
def resetting (coefficients : Coefficients Float) (dropped : List String) :
    Coefficients Float :=
  let standard : Coefficients Float := .standard
  { upperBound :=
      if "ucb_coefficient" ∈ dropped then standard.upperBound
      else coefficients.upperBound
    exploreRegion :=
      if "explore_region_ucb_coefficient" ∈ dropped then standard.exploreRegion
      else coefficients.exploreRegion
    penalty :=
      if "cb_violation_penalty_coefficient" ∈ dropped then standard.penalty
      else coefficients.penalty
    upperBoundChance :=
      if "ucb_overwrite_probability" ∈ dropped then standard.upperBoundChance
      else coefficients.upperBoundChance
    explorationChance :=
      if "pe_overwrite_probability" ∈ dropped then standard.explorationChance
      else coefficients.explorationChance
    jointExploration :=
      if "optimize_set_acquisition_for_exploration" ∈ dropped then
        standard.jointExploration
      else coefficients.jointExploration }

theorem Valid.resetting {coefficients : Coefficients Float}
    (valid : coefficients.Valid) (dropped : List String) :
    (coefficients.resetting dropped).Valid := by
  have standard := valid_standard
  constructor
  all_goals
    dsimp only [Coefficients.resetting]
    split
  exacts [standard.upperBound, valid.upperBound, standard.exploreRegion,
    valid.exploreRegion, standard.penalty, valid.penalty, standard.upperBoundChance,
    valid.upperBoundChance, standard.explorationChance, valid.explorationChance]

def fields (coefficients : Coefficients Float) : List (String × Json) :=
  [("ucb_coefficient", .real coefficients.upperBound),
    ("explore_region_ucb_coefficient", .real coefficients.exploreRegion),
    ("cb_violation_penalty_coefficient", .real coefficients.penalty),
    ("ucb_overwrite_probability", .real coefficients.upperBoundChance),
    ("pe_overwrite_probability", .real coefficients.explorationChance),
    ("optimize_set_acquisition_for_exploration", .bool coefficients.jointExploration)]

theorem toJson_eq_object (coefficients : Coefficients Float) :
    coefficients.toJson = .object coefficients.fields :=
  rfl

theorem map_fst_fields (coefficients : Coefficients Float) :
    coefficients.fields.map Prod.fst = fieldNames :=
  rfl

theorem ofJson?_deleteFields (coefficients : Coefficients Float)
    (dropped : List String) :
    ofJson? (coefficients.toJson.deleteFields dropped) =
      some (coefficients.resetting dropped) := by
  have record := Json.record?_deleteFields coefficients.fields
    (by rw [map_fst_fields]; decide) true dropped
  rw [map_fst_fields, ← toJson_eq_object] at record
  rw [ofJson?, record]
  simp only [fields, List.map_cons, List.map_nil, Json.orElse?_real, Json.orElse?_bool]
  rfl

theorem legible_toJson {coefficients : Coefficients Float}
    (rereads : ∀ number ∈ coefficients.numbers, Json.Rereads number) :
    coefficients.toJson.Legible 1 := by
  simp only [numbers, List.forall_mem_cons] at rereads
  obtain ⟨upperBound, exploreRegion, penalty, upperBoundChance, explorationChance, -⟩ :=
    rereads
  refine .object ?_
  simp only [List.forall_mem_cons]
  exact ⟨.real upperBound, .real exploreRegion, .real penalty, .real upperBoundChance,
    .real explorationChance, .bool _, by simp⟩

end Coefficients

theorem PaddingRule.ofJson?_toJson (rule : PaddingRule) :
    ofJson? rule.toJson = some rule := by
  cases rule <;> rfl

theorem PaddingRule.legible_toJson (rule : PaddingRule) : rule.toJson.Legible 1 := by
  refine .object ?_
  simp only [List.forall_mem_singleton]
  exact .text rule.name

namespace Configuration

/-- The settings of the names `dropped` have their standard values, and so have the
coefficients of the names `droppedCoefficients`. -/
def resetting (configuration : Configuration Float)
    (dropped droppedCoefficients : List String) : Configuration Float :=
  let standard : Configuration Float := .standard
  { coefficients :=
      if "ucb_pe" ∈ dropped then standard.coefficients
      else configuration.coefficients.resetting droppedCoefficients
    seedTrials :=
      if "num_seed_trials" ∈ dropped then standard.seedTrials
      else configuration.seedTrials
    ensembleSize :=
      if "ensemble_size" ∈ dropped then standard.ensembleSize
      else configuration.ensembleSize
    annotationSpace :=
      if "metadata_ns" ∈ dropped then standard.annotationSpace
      else configuration.annotationSpace
    padding :=
      if "padding" ∈ dropped then standard.padding else configuration.padding
    seed := if "seed" ∈ dropped then standard.seed else configuration.seed
    acquisitionEvaluations :=
      if "acquisition_evaluations" ∈ dropped then standard.acquisitionEvaluations
      else configuration.acquisitionEvaluations
    tuningRestarts :=
      if "ard_restarts" ∈ dropped then standard.tuningRestarts
      else configuration.tuningRestarts }

theorem resetting_nil (configuration : Configuration Float) :
    configuration.resetting [] [] = configuration :=
  rfl

theorem valid_standard : (standard : Configuration Float).Valid where
  coefficients := Coefficients.valid_standard
  ensembleSize := by decide
  annotationSpace := by decide
  acquisitionEvaluations := by decide
  tuningRestarts := by decide

theorem Valid.resetting {configuration : Configuration Float}
    (valid : configuration.Valid) (dropped droppedCoefficients : List String) :
    (configuration.resetting dropped droppedCoefficients).Valid := by
  have standard := valid_standard
  constructor
  all_goals
    dsimp only [Configuration.resetting]
    split
  exacts [standard.coefficients, valid.coefficients.resetting droppedCoefficients,
    standard.ensembleSize, valid.ensembleSize, standard.annotationSpace,
    valid.annotationSpace, standard.acquisitionEvaluations,
    valid.acquisitionEvaluations, standard.tuningRestarts, valid.tuningRestarts]

/-- The document of the configuration without the coefficients
`droppedCoefficients` and without the settings `dropped`. -/
def partialJson (configuration : Configuration Float)
    (dropped droppedCoefficients : List String) : Json :=
  (configuration.toJson.mapField "ucb_pe"
    (Json.deleteFields droppedCoefficients)).deleteFields dropped

theorem partialJson_nil (configuration : Configuration Float) :
    configuration.partialJson [] [] = configuration.toJson :=
  rfl

def partialFields (configuration : Configuration Float)
    (droppedCoefficients : List String) : List (String × Json) :=
  [("ucb_pe", configuration.coefficients.toJson.deleteFields droppedCoefficients),
    ("num_seed_trials", .integer configuration.seedTrials.toNat),
    ("ensemble_size", .integer configuration.ensembleSize.toNat),
    ("metadata_ns", .text configuration.annotationSpace),
    ("padding", configuration.padding.toJson),
    ("seed", .integer configuration.seed.toNat),
    ("acquisition_evaluations", .integer configuration.acquisitionEvaluations.toNat),
    ("ard_restarts", .integer configuration.tuningRestarts.toNat)]

theorem partialJson_eq_deleteFields (configuration : Configuration Float)
    (dropped droppedCoefficients : List String) :
    configuration.partialJson dropped droppedCoefficients =
      (Json.object (configuration.partialFields droppedCoefficients)).deleteFields
        dropped :=
  rfl

theorem map_fst_partialFields (configuration : Configuration Float)
    (droppedCoefficients : List String) :
    (configuration.partialFields droppedCoefficients).map Prod.fst = fieldNames :=
  rfl

theorem ofJson?_partialJson (configuration : Configuration Float)
    (dropped droppedCoefficients : List String) :
    ofJson? (configuration.partialJson dropped droppedCoefficients) =
      some (configuration.resetting dropped droppedCoefficients) := by
  have record := Json.record?_deleteFields
    (configuration.partialFields droppedCoefficients)
    (by rw [map_fst_partialFields]; decide) true dropped
  rw [map_fst_partialFields, ← partialJson_eq_deleteFields] at record
  have coefficients := Json.orElse?_of_read
    (configuration.coefficients.ofJson?_deleteFields droppedCoefficients)
  have padding := Json.orElse?_of_read configuration.padding.ofJson?_toJson
  rw [ofJson?, record]
  simp only [partialFields, List.map_cons, List.map_nil, coefficients, padding,
    Json.orElse?_word, Json.orElse?_text]
  rfl

theorem legible_toJson {configuration : Configuration Float}
    (rereads : ∀ number ∈ configuration.coefficients.numbers, Json.Rereads number) :
    configuration.toJson.Legible 2 := by
  refine .object ?_
  simp only [List.forall_mem_cons]
  exact ⟨Coefficients.legible_toJson rereads, Json.legible_word _, Json.legible_word _,
    .text _, configuration.padding.legible_toJson, Json.legible_word _,
    Json.legible_word _, Json.legible_word _, by simp⟩

theorem legible_partialJson {configuration : Configuration Float}
    (rereads : ∀ number ∈ configuration.coefficients.numbers, Json.Rereads number)
    (dropped droppedCoefficients : List String) :
    (configuration.partialJson dropped droppedCoefficients).Legible 2 :=
  Json.legible_deleteFields dropped
    (Json.legible_mapField
      (fun _ _ => Json.legible_deleteFields droppedCoefficients)
      (legible_toJson rereads))

/-! ## Texts -/

theorem parse_eq_ok_iff (text : String) (configuration : Configuration Float) :
    parse text = .ok configuration ↔
      (Json.parse? text).bind ofJson? = some configuration ∧ configuration.Valid := by
  rw [parse]
  cases (Json.parse? text).bind ofJson? with
  | none => simp
  | some read =>
      cases validated : read.validate with
      | ok =>
          have valid := (validate_eq_ok_iff read).1 validated
          simp only [validated, Except.map, Except.ok.injEq, Option.some.injEq]
          exact ⟨fun same => ⟨same, same ▸ valid⟩, And.left⟩
      | error failure =>
          simp only [validated, Except.map, reduceCtorEq, Option.some.injEq, false_iff,
            not_and]
          rintro rfl valid
          rw [(validate_eq_ok_iff read).2 valid] at validated
          cases validated

/-- However the text of the part is laid out. -/
theorem parse_of_partialJson {configuration : Configuration Float}
    (valid : configuration.Valid) {text : String}
    {dropped droppedCoefficients : List String}
    (read : Json.parse? text =
      some (configuration.partialJson dropped droppedCoefficients)) :
    parse text = .ok (configuration.resetting dropped droppedCoefficients) := by
  rw [parse_eq_ok_iff, read, Option.bind_some, ofJson?_partialJson]
  exact ⟨rfl, valid.resetting dropped droppedCoefficients⟩

/-- A configuration is read back from its document, and from every part of the document
with standard values for the settings that the part leaves out. Nothing is ever read but
valid configurations. -/
theorem parse_document_and_parts {configuration : Configuration Float}
    (valid : configuration.validate = .ok ())
    (rereads : ∀ number ∈ configuration.coefficients.numbers, Json.Rereads number) :
    parse configuration.document = .ok configuration ∧
      (∀ dropped droppedCoefficients,
        parse (configuration.partialJson dropped droppedCoefficients).pretty =
          .ok (configuration.resetting dropped droppedCoefficients)) ∧
      ∀ text accepted, parse text = .ok accepted → accepted.validate = .ok () := by
  have parts : ∀ dropped droppedCoefficients,
      parse (configuration.partialJson dropped droppedCoefficients).pretty =
        .ok (configuration.resetting dropped droppedCoefficients) := by
    intro dropped droppedCoefficients
    have read := Json.parse?_pretty
      (legible_partialJson rereads dropped droppedCoefficients) (by decide)
    exact parse_of_partialJson ((validate_eq_ok_iff _).1 valid) read
  refine ⟨?_, parts, ?_⟩
  · have whole := parts [] []
    rw [partialJson_nil, resetting_nil] at whole
    exact whole
  · intro text accepted parsed
    exact (validate_eq_ok_iff accepted).2 ((parse_eq_ok_iff text accepted).1 parsed).2

section Survey

def surveyConfiguration : Configuration Float :=
  { (standard : Configuration Float) with
    coefficients := { (.standard : Coefficients Float) with
      upperBound := 2.75
      jointExploration := true }
    seedTrials := 7
    annotationSpace := "survey \"β\"\n"
    padding := .powersOfTwo
    seed := 18446744073709551615 }

theorem validate_surveyConfiguration : surveyConfiguration.validate = .ok () := by
  decide +kernel

theorem rereads_surveyConfiguration :
    ∀ number ∈ surveyConfiguration.coefficients.numbers, Json.Rereads number := by
  decide +kernel

theorem parse_document_and_parts_of_survey :
    surveyConfiguration.validate = .ok () ∧
      (∀ number ∈ surveyConfiguration.coefficients.numbers, Json.Rereads number) ∧
      parse surveyConfiguration.document = .ok surveyConfiguration ∧
      parse (surveyConfiguration.partialJson ["seed", "padding"]
          ["ucb_coefficient"]).pretty =
        .ok (surveyConfiguration.resetting ["seed", "padding"] ["ucb_coefficient"]) := by
  have read := parse_document_and_parts validate_surveyConfiguration
    rereads_surveyConfiguration
  exact ⟨validate_surveyConfiguration, rereads_surveyConfiguration, read.1,
    read.2.1 ["seed", "padding"] ["ucb_coefficient"]⟩

end Survey

end Configuration

end BatchBayes
