import Mathlib
import BatchBayes.Proofs.Batch.Feasible
/-!
What a filled plan means, over every ensemble that fitting and changes of the
pending points can lead to.
-/

namespace BatchBayes

/-- An ensemble that was fitted and whose pending points may have changed since. -/
def Ensemble.Reached {K : Type} [Scalar K] (ensemble : Ensemble K) : Prop :=
  ∃ (completed : Observations K) (pending : List (List K)) (size : Nat)
    (tuner : Tuner K) (padding : Padding) (key : Key) (first : Ensemble K)
    (calls : List (Ensemble.PendingCall K)),
    Ensemble.fit completed pending size tuner padding key = .ok first ∧
      ensemble = first.after calls

theorem Ensemble.Reached.conditioned {K : Type} [Scalar K] {ensemble : Ensemble K}
    (reached : ensemble.Reached) : ensemble.Conditioned := by
  obtain ⟨_, _, _, _, _, _, first, calls, fitted, rfl⟩ := reached
  exact ((Ensemble.conditioned_of_fit fitted).after calls).1

namespace Chooser

/-- Where a plan is filled, it fills all its slots with points of the domain. The
ensemble has these points pending then, in order, and is otherwise as it was, as
far as completed points go. The records of each group are those of the ensemble
that has the points of the earlier groups pending: predictions from completed
points and the threshold of exploration are still those of the first ensemble. -/
theorem fill_meaning {K : Type} [Scalar K] {chooser : Chooser K}
    {ensemble last : Ensemble K} {plan : List SlotGroup} {key : Key}
    {slots : List (Slot K)} (reached : ensemble.Reached)
    (sampled : ∀ generator,
      chooser.domain.contains (chooser.domain.sample generator).1 = true)
    (filled : chooser.fill ensemble plan key = .ok (slots, last)) :
    slots.length = (plan.map SlotGroup.size).sum ∧
    (∀ slot ∈ slots, chooser.domain.contains slot.features = true) ∧
    last.pending = ensemble.pending ++ slots.map (·.features) ∧
    last.completed = ensemble.completed ∧
    last.members.map (fun member =>
        (member.completed, member.all.parameters)) =
      ensemble.members.map (fun member =>
        (member.completed, member.all.parameters)) ∧
    (∀ point, last.predict .completed point = ensemble.predict .completed point) ∧
    ∃ parts,
      slots = parts.flatten ∧
        ExplainedInTurn chooser.coefficients ensemble plan parts := by
  have conditioned := reached.conditioned
  obtain ⟨placed, flags⟩ := placed_of_fill filled
  obtain ⟨added, parts, flat, explained⟩ := fillGroups_spec conditioned filled
  rw [map_fst_zip_children] at explained
  obtain ⟨completed, _, pending, _⟩ := Ensemble.conditionOn_eq_ok added
  obtain ⟨conditionedLast, same⟩ := conditioned.conditionOn added
  refine ⟨?_, fun slot member => ?_, pending, completed, ?_, same.predict_completed,
    parts, flat, explained⟩
  · rw [← SlotGroup.length_flatMap_flags, ← flags, List.length_map]
  · obtain ⟨point, drawKey, features⟩ := placed slot member
    rw [features]
    exact contains_inDomain sampled point drawKey
  · exact conditionedLast.views_of_sameModels conditioned same

/-- The numbers as a domain, searched by a maximizer that finds a number and a pair
whatever it is asked for. -/
noncomputable def lineChooser : Chooser ℝ :=
  { coefficients := .standard
    maximizer := ⟨"fixed", fun _ _ _ _ => ⟨[[0.25], [1, 1]], 0, 1⟩⟩
    domain :=
      { dimension := 1
        sample := fun generator => ([0.5], generator)
        project := id
        contains := fun point => point.length == 1 } }

theorem fill_meaning_of_mixed_plan :
    ∃ (ensemble last : Ensemble ℝ) (slots : List (Slot ℝ)),
      ensemble.Reached ∧
        (∀ generator,
          lineChooser.domain.contains (lineChooser.domain.sample generator).1 =
            true) ∧
        lineChooser.fill ensemble
            [.single .upperBound, .joint 2, .joint 0, .single .jointExploration]
            (.ofSeed 1) = .ok (slots, last) ∧
        slots.length = 4 ∧
        last.pending = ensemble.pending ++ slots.map (·.features) := by
  have rows : ∀ row ∈
      (Observations.ofPoints [[0], [1]] [1, 2] 1 : Observations ℝ).validRows,
      row.features.length = 1 := by
    simp [Observations.validRows, Observations.rows, Observations.ofPoints,
      List.replicate]
  have lengths : ∀ point ∈ ([[2]] : List (List ℝ)), point.length = 1 := by simp
  obtain ⟨ensemble, fitted⟩ :=
    Ensemble.exists_fit RestartSearch.standard rows lengths 2
      PaddingRule.powersOfTwo.capacity (.ofSeed 1)
  have reached : ensemble.Reached := ⟨_, _, _, _, _, _, ensemble, [], fitted, rfl⟩
  have sampled : ∀ generator,
      lineChooser.domain.contains (lineChooser.domain.sample generator).1 = true :=
    fun _ => rfl
  have dimension : ensemble.completed.dimension = 1 := by
    rw [(Ensemble.fit_eq_ok fitted).1]
    rfl
  have placed : ∀ point key,
      (lineChooser.inDomain point key).length = ensemble.completed.dimension := by
    intro point key
    rw [dimension]
    simpa [lineChooser] using contains_inDomain sampled point key
  obtain ⟨slots, last, filled⟩ :=
    exists_fillGroups reached.conditioned (Ensemble.proper_of_fit fitted) placed
      (List.zip
        [.single .upperBound, .joint 2, .joint 0, .single .jointExploration]
        (Key.children (.ofSeed 1) 4))
  obtain ⟨length, _, pending, _⟩ := fill_meaning reached sampled filled
  exact ⟨ensemble, last, slots, reached, sampled, filled, length, pending⟩

end Chooser

end BatchBayes
