import BatchBayes.Designer.Basic
import BatchBayes.Double
/-!
A study of a known function, with results that come back one round late.
-/

namespace BatchBayes

namespace Simulation

/-! ## The study -/

/-- The parameters and the place where the objective is greatest. -/
def optimum : List (String × Float) :=
  [("x0", 0.7), ("x1", -1.2), ("x2", 2.5)]

/-- The name of the objective. -/
def objectiveName : String := "objective"

/-- Three numbers from -5 to 5, for the greatest objective. -/
def problem : Problem Float :=
  { space := ⟨optimum.map fun (name, _) => ⟨name, .linear (-5.0) 5.0⟩⟩
    metrics := [⟨objectiveName, .maximize, none, none⟩] }

/-- The squared distance from the optimum, below zero. -/
def objective (assignment : Assignment Float) : Float :=
  -Scalar.sum (optimum.map fun (name, center) =>
    match assignment.find? name with
    | some (.real value) => (value - center) * (value - center)
    | _ => Scalar.infinity)

/-- The configuration where none is given. -/
def standardConfiguration : Configuration Float :=
  { Configuration.standard with seedTrials := 6, ensembleSize := 2 }

/-! ## Rounds -/

/-- The designer, the trials under way in the order of their start, and the id
of the next one. -/
structure State where
  designer : Designer Float
  underWay : List (Trial Float)
  nextId : UInt64

/-- Start the trials of suggestions. -/
def start (now : Instant) : UInt64 → List (Suggestion Float) → List (Trial Float)
  | _, [] => []
  | id, suggestion :: suggestions =>
      suggestion.toTrial id now :: start now (id + 1) suggestions

/-- Evaluate a trial. -/
def evaluate (now : Instant) (trial : Trial Float) : Trial Float :=
  trial.complete (Table.empty.insert objectiveName (objective trial.assignment)) now

/-- One round: a batch starts and, but for the first round, as many trials of
the oldest ones complete. -/
def round (now : Instant) (batch : Nat) (isFirst : Bool) (state : State) :
    Except Failure State :=
  match state.designer.suggest batch with
  | (.error failure, _) => .error failure
  | (.ok suggestions, designer) =>
      let underWay := state.underWay ++ start now state.nextId suggestions
      let ready := if isFirst then 0 else batch
      let completed := (underWay.take ready).map (evaluate now)
      let underWay := underWay.drop ready
      match designer.update completed underWay with
      | (.error failure, _) => .error failure
      | (.ok (), designer) =>
          .ok ⟨designer, underWay,
            state.nextId + UInt64.ofNat suggestions.length⟩

/-- A number of rounds, the first of which may be the first of the study. -/
def rounds (now : Instant) (batch : Nat) : Nat → Bool → State → Except Failure State
  | 0, _, state => .ok state
  | count + 1, isFirst, state =>
      match round now batch isFirst state with
      | .error failure => .error failure
      | .ok state => rounds now batch count false state

/-- The best trial of a study, if any completed. -/
def run (now : Instant) (configuration : Configuration Float) (count batch : Nat) :
    Except Failure (Option (Trial Float)) :=
  match Designer.create problem configuration with
  | .error failure => .error failure
  | .ok designer =>
      (rounds now batch count true ⟨designer, [], 1⟩).map
        fun state => state.designer.bestTrial?

end Simulation

end BatchBayes
