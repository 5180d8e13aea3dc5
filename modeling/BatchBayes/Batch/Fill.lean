import BatchBayes.Acquisition.Search
import BatchBayes.Batch.Plan
import BatchBayes.Study.Decision
/-!
Filling the slots of a batch. Each group is searched for and added to the
pending points before the next group is.
-/

namespace BatchBayes

/-- A chosen point and why it was chosen. -/
structure Slot (K : Type) where
  features : List K
  decision : Decision K

/-- What slots are chosen with. -/
structure Chooser (K : Type) where
  coefficients : Coefficients K
  maximizer : Maximizer K
  domain : Domain K

namespace Chooser

variable {K : Type} [Scalar K]

/-- A found point of the domain, or else one drawn from it. -/
def inDomain (chooser : Chooser K) (point : Option (List K)) (key : Key) : List K :=
  match point with
  | some point =>
      if chooser.domain.contains point then point
      else (chooser.domain.sample key.generator).1
  | none => (chooser.domain.sample key.generator).1

/-- The record of a choice. -/
def record (estimate : Estimate K) (value : K) (upperBound : Bool) :
    Decision K :=
  { mean := estimate.mean
    deviation := estimate.deviation
    deviationFromAll := estimate.deviationFromAll
    acquisition := value
    upperBound }

/-- The value that a single slot records. -/
def slotValue (acquisition : Acquisition K) (policy : Policy)
    (estimate : Estimate K) (point : List K) : K :=
  match policy with
  | .upperBound => acquisition.upperBound estimate
  | .exploration => acquisition.exploration estimate
  | .jointExploration => acquisition.jointExploration [point]

/-- Choose one point by a policy. -/
def single (chooser : Chooser K) (ensemble : Ensemble K) (policy : Policy)
    (key : Key) : Except Failure (Slot K) :=
  let (searchKey, drawKey) := key.split
  let acquisition := Acquisition.ofEnsemble ensemble chooser.coefficients
  let found :=
    chooser.maximizer.maximize (acquisition.score policy) chooser.domain 1 searchKey
  let point := chooser.inDomain found.points.head? drawKey
  let estimate := acquisition.estimate point
  let value := slotValue acquisition policy estimate point
  if Scalar.isNaN value then
    .error (.acquisition s!"{policy.name} acquisition is NaN at the chosen point")
  else .ok ⟨point, record estimate value (policy == .upperBound)⟩

/-- Found points for the given keys; points are drawn in place of those that
are missing or lie outside the domain. -/
def completeSet (chooser : Chooser K) : List (List K) → List Key → List (List K)
  | _, [] => []
  | [], key :: keys => chooser.inDomain none key :: chooser.completeSet [] keys
  | point :: points, key :: keys =>
      chooser.inDomain (some point) key :: chooser.completeSet points keys

/-- Choose a set of points, which share one acquisition value. -/
def joint (chooser : Chooser K) (ensemble : Ensemble K) (count : Nat) (key : Key) :
    Except Failure (List (Slot K)) :=
  let (searchKey, drawKey) := key.split
  let acquisition := Acquisition.ofEnsemble ensemble chooser.coefficients
  let found :=
    chooser.maximizer.maximize acquisition.jointExploration chooser.domain count
      searchKey
  let points := chooser.completeSet found.points (drawKey.children count)
  let value := acquisition.jointExploration points
  if Scalar.isNaN value then
    .error (.acquisition "set acquisition is NaN at the chosen set")
  else
    .ok (points.map fun point =>
      ⟨point, record (acquisition.estimate point) value false⟩)

/-- Choose the points of a group. -/
def choose (chooser : Chooser K) (ensemble : Ensemble K) (group : SlotGroup)
    (key : Key) : Except Failure (List (Slot K)) :=
  match group with
  | .single policy => (chooser.single ensemble policy key).map fun slot => [slot]
  | .joint count => chooser.joint ensemble count key

/-- Add chosen points to the pending ones, one after another. -/
def addSlots (ensemble : Ensemble K) : List (Slot K) → Except Failure (Ensemble K)
  | [] => .ok ensemble
  | slot :: slots =>
      match ensemble.addPending slot.features with
      | .error error => .error (.modelFit error)
      | .ok ensemble => addSlots ensemble slots

/-- Choose the points of groups with their keys; gives the slots and the
ensemble with all of them pending. -/
def fillGroups (chooser : Chooser K) (ensemble : Ensemble K) :
    List (SlotGroup × Key) → Except Failure (List (Slot K) × Ensemble K)
  | [] => .ok ([], ensemble)
  | (group, key) :: groups =>
      match chooser.choose ensemble group key with
      | .error failure => .error failure
      | .ok slots =>
          match addSlots ensemble slots with
          | .error failure => .error failure
          | .ok ensemble =>
              match chooser.fillGroups ensemble groups with
              | .error failure => .error failure
              | .ok (rest, ensemble) => .ok (slots ++ rest, ensemble)

/-- Fill a whole plan, with a key of its own for each group. -/
def fill (chooser : Chooser K) (ensemble : Ensemble K) (plan : List SlotGroup)
    (key : Key) : Except Failure (List (Slot K) × Ensemble K) :=
  chooser.fillGroups ensemble (plan.zip (key.children plan.length))

end Chooser

end BatchBayes
