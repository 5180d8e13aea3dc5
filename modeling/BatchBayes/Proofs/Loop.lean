import Mathlib.Order.WellFounded
import BatchBayes.Loop
/-!
Loops that come to an end: what a turn keeps holds of the state in which a loop stops.
-/

namespace BatchBayes.Loop

variable {State : Type} {turn : State → Option State}

/-- Whether a loop comes to an end from every state. -/
def Ends (turn : State → Option State) : Prop :=
  WellFounded (Follows turn)

/-- A loop ends where every turn comes nearer to something. -/
theorem Ends.of_decreasing (distance : State → Nat)
    (nearer : ∀ {earlier later}, turn earlier = some later →
      distance later < distance earlier) : Ends turn :=
  Subrelation.wf nearer (measure distance).wf

namespace Ends

theorem run_of_some (ends : Ends turn) {state later : State}
    (next : turn state = some later) : run turn state = run turn later := by
  have : Nonempty State := ⟨state⟩
  rw [run, WellFounded.extrinsicFix_eq_apply ends]
  split
  case h_1 found same =>
    obtain rfl := Option.some.inj (same.symm.trans next)
    rfl
  case h_2 none =>
    cases none.symm.trans next

theorem run_of_none (ends : Ends turn) {state : State} (last : turn state = none) :
    run turn state = state := by
  have : Nonempty State := ⟨state⟩
  rw [run, WellFounded.extrinsicFix_eq_apply ends]
  split
  case h_1 found same =>
    cases same.symm.trans last
  case h_2 =>
    rfl

theorem turn_run (ends : Ends turn) (state : State) : turn (run turn state) = none := by
  induction state using ends.induction with
  | _ state inductionHypothesis =>
      cases next : turn state with
      | none => rwa [ends.run_of_none next]
      | some later =>
          rw [ends.run_of_some next]
          exact inductionHypothesis later next

/-- What no turn changes is the same in the state in which the loop stops. -/
theorem run_invariant (ends : Ends turn) {α : Sort*} (quantity : State → α)
    (kept : ∀ {earlier later}, turn earlier = some later →
      quantity later = quantity earlier) (state : State) :
    quantity (run turn state) = quantity state := by
  induction state using ends.induction with
  | _ state inductionHypothesis =>
      cases next : turn state with
      | none => rw [ends.run_of_none next]
      | some later =>
          rw [ends.run_of_some next, inductionHypothesis later next, kept next]

end Ends

end BatchBayes.Loop
