import BatchBayes.Study.Metric
import BatchBayes.Study.Trial
/-!
The books of a study: every trial that ever completed, the trials under way,
and the best one so far.
-/

namespace BatchBayes

/-- The state of a study's books. -/
structure Ledger (K : Type) where
  /-- The completed trials by id; the first delivery of an id counts. -/
  completed : Table UInt64 (Trial K)
  /-- The trials under way at the last update. -/
  active : List (Trial K)
  /-- The best usable objective and the trial that reached it first. -/
  best : Option (UInt64 × K)
  /-- How many trials were completed when a batch last looked. -/
  seen : Nat

namespace Ledger

variable {K : Type} [Scalar K]

def empty : Ledger K :=
  ⟨.empty, [], none, 0⟩

/-- Whether the first value is better than the second. -/
def improves (goal : Goal) (value best : K) : Bool :=
  match goal with
  | .maximize => decide (best < value)
  | .minimize => decide (value < best)

/-- The best trial after one more completed trial. -/
def betterOf (metric : Metric K) (best : Option (UInt64 × K)) (trial : Trial K) :
    Option (UInt64 × K) :=
  match trial.usableObjective? metric.name, best with
  | none, _ => best
  | some value, none => some (trial.id, value)
  | some value, some (id, bestValue) =>
      if improves metric.goal value bestValue then some (trial.id, value)
      else some (id, bestValue)

/-- Enter one completed trial, unless its id is known, and count it. -/
def enter (metric : Metric K) (state : Nat × Ledger K) (trial : Trial K) :
    Nat × Ledger K :=
  let (added, ledger) := state
  if ledger.completed.contains trial.id then (added, ledger)
  else
    (added + 1,
      { ledger with
        completed := ledger.completed.insert trial.id trial
        best := betterOf metric ledger.best trial })

/-- Enter completed trials and replace the trials under way; gives the number
of trials that were not known. Nothing is entered if one of the completed
trials has not completed. -/
def record (metric : Metric K) (ledger : Ledger K)
    (completed active : List (Trial K)) : Except Failure (Nat × Ledger K) :=
  match completed.find? (fun trial => !trial.isCompleted) with
  | some trial =>
      .error (.invalidTrial trial.id "passed as completed but is still active")
  | none =>
      let (added, ledger) := completed.foldl (enter metric) (0, ledger)
      .ok (added, { ledger with active })

/-! ## Looking things up -/

def numCompleted (ledger : Ledger K) : Nat :=
  ledger.completed.size

def numActive (ledger : Ledger K) : Nat :=
  ledger.active.length

/-- The trials that count as known points. -/
def numKnown (ledger : Ledger K) : Nat :=
  ledger.numCompleted + ledger.numActive

/-- The best usable completed trial. -/
def bestTrial? (ledger : Ledger K) : Option (Trial K) :=
  ledger.best.bind fun (id, _) => ledger.completed.find? id

/-- Whether trials completed since a batch last looked. -/
def hasUnseen (ledger : Ledger K) : Bool :=
  decide (ledger.seen < ledger.numCompleted)

/-- A batch looks at the completed trials. -/
def markSeen (ledger : Ledger K) : Ledger K :=
  { ledger with seen := ledger.numCompleted }

end Ledger

end BatchBayes
