import BatchBayes.Acquisition.Evolution
import BatchBayes.Batch.Fill
import BatchBayes.Designer.Configuration
import BatchBayes.Seeding.Seeder
import BatchBayes.Study.Labels
import BatchBayes.Study.Ledger
/-!
The designer of batches. Callers alternate suggestions and updates. Until
enough trials are known the points are seeds; from then on every batch is
chosen by acquisition values over an ensemble that is fitted to all known
trials, and every suggestion carries the record of its choice.

A call gives an answer or a failure, and the designer after it in either case.
-/

namespace BatchBayes

/-- A designer of batches with its books. -/
structure Designer (K : Type) where
  problem : Problem K
  metric : Metric K
  configuration : Configuration K
  ledger : Ledger K
  seeder : Seeder K
  /-- What the seeder was asked for, the last request first. -/
  seedRequests : List SeedRequest
  tuner : Tuner K
  maximizer : Maximizer K
  padding : Padding
  /-- The ensemble of the known trials, if it has been fitted. -/
  ensemble : Option (Ensemble K)
  key : Key

namespace Designer

variable {K : Type} [Scalar K] [DecimalText K]

/-! ## Setting up -/

/-- A designer for a problem, with the standard ways to seed, tune and
search. -/
def create [NormalSource K] (problem : Problem K) (configuration : Configuration K) :
    Except Failure (Designer K) :=
  match configuration.validate with
  | .error failure => .error failure
  | .ok () =>
      match problem.objective with
      | .error failure => .error failure
      | .ok metric =>
          match problem.space.defect? with
          | some error => .error (.space error)
          | none =>
              let (key, seedKey) := (Key.ofSeed configuration.seed).split
              .ok
                { problem
                  metric
                  configuration
                  ledger := .empty
                  seeder := .quasiRandom problem.space seedKey
                  seedRequests := []
                  tuner :=
                    (RestartSearch.withRestarts
                      configuration.tuningRestarts.toNat).tune
                  maximizer :=
                    (Evolution.standard.withBudget
                      configuration.acquisitionEvaluations.toNat).maximizer
                  padding := configuration.padding.capacity
                  ensemble := none
                  key }

def withSeeder (designer : Designer K) (seeder : Seeder K) : Designer K :=
  { designer with seeder, seedRequests := [] }

/-- An ensemble of another tuner is not kept. -/
def withTuner (designer : Designer K) (tuner : Tuner K) : Designer K :=
  { designer with tuner, ensemble := none }

def withMaximizer (designer : Designer K) (maximizer : Maximizer K) : Designer K :=
  { designer with maximizer }

/-- An ensemble of another padding is not kept. -/
def withPadding (designer : Designer K) (padding : Padding) : Designer K :=
  { designer with padding, ensemble := none }

/-! ## State -/

/-- Whether too few trials are known for a model. -/
def isSeeding (designer : Designer K) : Bool :=
  decide (designer.ledger.numKnown < designer.configuration.seedTrials.toNat)

/-- A key to use, and the designer that keeps the other one. -/
def nextKey (designer : Designer K) : Key × Designer K :=
  let (kept, used) := designer.key.split
  (used, { designer with key := kept })

/-- The features of trials. -/
def features (designer : Designer K) (trials : List (Trial K)) :
    Except SpaceError (List (List K)) :=
  trials.mapM fun trial => designer.problem.space.encode trial.assignment

/-! ## Updates -/

/-- Fit an ensemble to the known trials and keep it. -/
def refit (designer : Designer K) :
    Except Failure (Ensemble K) × Designer K :=
  let completed := designer.ledger.completed.items
  match designer.features completed, designer.features designer.ledger.active with
  | .error error, _ => (.error (.space error), designer)
  | .ok _, .error error => (.error (.space error), designer)
  | .ok points, .ok pending =>
      let data :=
        Observations.ofPoints points (Labels.ofTrials designer.metric completed)
          designer.problem.space.dimension
      let (key, designer) := designer.nextKey
      match
        Ensemble.fit data pending designer.configuration.ensembleSize.toNat
          designer.tuner designer.padding key with
      | .error error => (.error (.modelFit error), designer)
      | .ok ensemble => (.ok ensemble, { designer with ensemble := some ensemble })

/-- The first trial outside the search space. -/
def misplaced? (designer : Designer K) (trials : List (Trial K)) : Option Failure :=
  trials.findSome? fun trial =>
    (designer.problem.space.violation? trial.assignment).map fun error =>
      .invalidTrial trial.id error.message

/-- Enter newly completed trials and replace the trials under way. Once enough
trials are known the ensemble is fitted again. -/
def update (designer : Designer K) (completed active : List (Trial K)) :
    Except Failure Unit × Designer K :=
  match designer.misplaced? (completed ++ active) with
  | some failure => (.error failure, designer)
  | none =>
      match designer.ledger.record designer.metric completed active with
      | .error failure => (.error failure, designer)
      | .ok (_, ledger) =>
          let designer := { designer with ledger, ensemble := none }
          if designer.isSeeding then (.ok (), designer)
          else
            let (outcome, designer) := designer.refit
            (outcome.map fun _ => (), designer)

/-! ## Suggestions -/

/-- The first seed outside the search space. -/
def strayed? (designer : Designer K) (seeds : List (Assignment K)) :
    Option SpaceError :=
  seeds.findSome? designer.problem.space.violation?

/-- Suggest seeds. -/
def suggestSeeds (designer : Designer K) (count : Nat) :
    Except Failure (List (Suggestion K)) × Designer K :=
  let (key, designer) := designer.nextKey
  let request : SeedRequest := ⟨count, key⟩
  let seeds := designer.seeder.answer designer.seedRequests request
  let name := designer.seeder.name
  let designer :=
    { designer with seedRequests := request :: designer.seedRequests }
  if seeds.length ≠ count then
    (.error (.seeding
      s!"{name} seeder produced {seeds.length} of {count} requested points"),
      designer)
  else
    match designer.strayed? seeds with
    | some error =>
        let reason := error.message
        (.error (.seeding s!"{name} seeder left the search space: {reason}"),
          designer)
    | none => (.ok (seeds.map .ofAssignment), designer)

/-- The suggestion of a chosen point, with the record of its choice. -/
def suggestionOf (designer : Designer K) (slot : Slot K) :
    Except Failure (Suggestion K) :=
  let assignment := designer.problem.space.decode slot.features
  match designer.problem.space.violation? assignment with
  | some error => .error (.space error)
  | none =>
      .ok ⟨assignment,
        slot.decision.write .empty designer.configuration.annotationSpace⟩

/-- Suggest a batch chosen over an ensemble. -/
def suggestBatch (designer : Designer K) (ensemble : Ensemble K) (count : Nat) :
    Except Failure (List (Suggestion K)) × Designer K :=
  let (strategyKey, designer) := designer.nextKey
  let (fillKey, designer) := designer.nextKey
  let coefficients := designer.configuration.coefficients
  let plan :=
    (Strategy.draw coefficients strategyKey).plan count designer.ledger.hasUnseen
      coefficients.jointExploration
  let chooser : Chooser K :=
    ⟨coefficients, designer.maximizer, designer.problem.space.domain⟩
  match chooser.fill ensemble plan fillKey with
  | .error failure => (.error failure, designer)
  | .ok (slots, _) =>
      match slots.mapM designer.suggestionOf with
      | .error failure => (.error failure, designer)
      | .ok suggestions =>
          if suggestions.length ≠ count then
            let produced := suggestions.length
            (.error (.acquisition
              s!"controller produced {produced} suggestions for a batch of {count}"),
              designer)
          else
            (.ok suggestions, { designer with ledger := designer.ledger.markSeen })

/-- Suggest exactly `count` points to evaluate. -/
def suggest (designer : Designer K) (count : Nat) :
    Except Failure (List (Suggestion K)) × Designer K :=
  if count = 0 then
    (.error (.configuration "suggest called with a batch size of 0"), designer)
  else if designer.isSeeding then designer.suggestSeeds count
  else
    match designer.ensemble with
    | some ensemble => designer.suggestBatch ensemble count
    | none =>
        match designer.refit with
        | (.error failure, designer) => (.error failure, designer)
        | (.ok ensemble, designer) => designer.suggestBatch ensemble count

/-- An update and a suggestion in one call; no suggestion is made where the
update fails. -/
def updateAndSuggest (designer : Designer K) (completed active : List (Trial K))
    (count : Nat) : Except Failure (List (Suggestion K)) × Designer K :=
  match designer.update completed active with
  | (.error failure, designer) => (.error failure, designer)
  | (.ok (), designer) => designer.suggest count

/-! ## Looking things up -/

/-- The best usable completed trial. -/
def bestTrial? (designer : Designer K) : Option (Trial K) :=
  designer.ledger.bestTrial?

end Designer

end BatchBayes
