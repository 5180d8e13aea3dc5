import BatchBayes.Acquisition.Score
import BatchBayes.Random.Generator
/-!
What the slots of a batch are chosen for. One strategy is drawn for the whole
batch and lays the slots out.
-/

namespace BatchBayes

/-- How a whole batch is filled. -/
inductive Strategy where
  | allUpperBound
  | allExploration
  | interleaved
deriving DecidableEq, Repr

/-- Slots that are chosen in one step: one by a policy for points, or several
by the policy for sets. -/
inductive SlotGroup where
  | single (policy : Policy)
  | joint (count : Nat)
deriving DecidableEq, Repr

/-- The number of slots of a group. -/
def SlotGroup.size : SlotGroup → Nat
  | single _ => 1
  | joint count => count

namespace Strategy

/-- Draw a strategy. The chance of exploration counts only where the upper
bound was not drawn. -/
def draw {K : Type} [Scalar K] (coefficients : Coefficients K) (key : Key) :
    Strategy :=
  let (upperBoundKey, explorationKey) := key.split
  if upperBoundKey.unit < coefficients.upperBoundChance then allUpperBound
  else if explorationKey.unit < coefficients.explorationChance then allExploration
  else interleaved

/-- Slots for exploration, together or one by one. -/
def explorationPlan (joint : Bool) (count : Nat) : List SlotGroup :=
  if count = 0 then []
  else if joint then [.joint count]
  else List.replicate count (.single .exploration)

/-- The groups of a batch. An interleaved batch starts with an upper bound
slot where completed trials are waiting to be used, and explores otherwise. -/
def plan (strategy : Strategy) (count : Nat) (fresh joint : Bool) :
    List SlotGroup :=
  match strategy with
  | allUpperBound => List.replicate count (.single .upperBound)
  | allExploration => explorationPlan joint count
  | interleaved =>
      if fresh && decide (0 < count) then
        .single .upperBound :: explorationPlan joint (count - 1)
      else explorationPlan joint count

end Strategy

end BatchBayes
