import Mathlib
import BatchBayes.Proofs.Batch.Filling
import BatchBayes.Proofs.Space.Dimension
import BatchBayes.Proofs.Surrogate.Feasible
/-!
In exact arithmetic every plan can be filled, whatever the maximizer finds: a
chosen point always has the dimension of the space.
-/

namespace BatchBayes

namespace Chooser

theorem length_inDomain {K : Type} [Scalar K] [DecimalText K] {chooser : Chooser K}
    {space : Space K} (domain : chooser.domain = space.domain)
    (point : Option (List K)) (key : Key) :
    (chooser.inDomain point key).length = space.dimension := by
  have drawn : (chooser.domain.sample key.generator).1.length = space.dimension := by
    rw [domain]
    exact space.length_sample _
  cases point with
  | none => exact drawn
  | some point =>
      rw [inDomain]
      by_cases accepted : chooser.domain.contains point
      · rw [if_pos accepted]
        rw [domain] at accepted
        exact Space.length_of_accepts accepted
      · rw [if_neg accepted]
        exact drawn

variable {chooser : Chooser ℝ} {space : Space ℝ} {ensemble : Ensemble ℝ}

/-- No value is undefined, so that every choice succeeds. -/
theorem exists_choose (ensemble : Ensemble ℝ) (group : SlotGroup) (key : Key) :
    ∃ slots, chooser.choose ensemble group key = .ok slots := by
  cases group with
  | single policy =>
      rw [choose, single]
      simp only [Scalar.isNaN_real, Bool.false_eq_true, if_false]
      exact ⟨_, rfl⟩
  | joint count =>
      rw [choose, joint]
      simp only [Scalar.isNaN_real, Bool.false_eq_true, if_false]
      exact ⟨_, rfl⟩

theorem addSlots_failure {K : Type} [Scalar K] {ensemble : Ensemble K}
    {slots : List (Slot K)} {failure : Failure}
    (failed : addSlots ensemble slots = .error failure) :
    ∃ error, failure = .modelFit error := by
  induction slots generalizing ensemble with
  | nil => cases failed
  | cons slot slots inductionHypothesis =>
      rw [addSlots] at failed
      split at failed
      case h_1 error _ => exact ⟨error, (Except.error.inj failed).symm⟩
      case h_2 middle _ => exact inductionHypothesis failed

theorem exists_addSlots (conditioned : ensemble.Conditioned)
    (proper : ensemble.Proper) {slots : List (Slot ℝ)}
    (lengths : ∀ slot ∈ slots,
      slot.features.length = ensemble.completed.dimension) :
    ∃ next, addSlots ensemble slots = .ok next := by
  induction slots generalizing ensemble with
  | nil => exact ⟨ensemble, rfl⟩
  | cons slot slots inductionHypothesis =>
      obtain ⟨middle, added⟩ :=
        conditioned.exists_addPending proper (lengths slot List.mem_cons_self)
      obtain ⟨conditionedMiddle, same⟩ := conditioned.conditionOn added
      obtain ⟨next, success⟩ :=
        inductionHypothesis conditionedMiddle (proper.of_sameModels same)
          fun other member => by
            rw [same.completed, lengths other (List.mem_cons_of_mem _ member)]
      exact ⟨next, by simp only [addSlots, added, success]⟩

/-- A plan fails to be filled only where a chosen point cannot become pending. -/
theorem fillGroups_failure {groups : List (SlotGroup × Key)} {failure : Failure}
    (failed : chooser.fillGroups ensemble groups = .error failure) :
    ∃ error, failure = .modelFit error := by
  induction groups generalizing ensemble with
  | nil => cases failed
  | cons head groups inductionHypothesis =>
      obtain ⟨group, key⟩ := head
      obtain ⟨first, chosen⟩ := exists_choose ensemble group key
      rw [fillGroups, chosen] at failed
      dsimp only at failed
      cases added : addSlots ensemble first with
      | error other =>
          rw [added] at failed
          obtain rfl := Except.error.inj failed
          exact addSlots_failure added
      | ok middle =>
          rw [added] at failed
          dsimp only at failed
          cases filled : chooser.fillGroups middle groups with
          | error other =>
              rw [filled] at failed
              obtain rfl := Except.error.inj failed
              exact inductionHypothesis filled
          | ok rest =>
              rw [filled] at failed
              cases failed

/-- Groups can be filled where all points that may be chosen have the dimension of
the ensemble. -/
theorem exists_fillGroups (conditioned : ensemble.Conditioned)
    (proper : ensemble.Proper)
    (lengths : ∀ point key,
      (chooser.inDomain point key).length = ensemble.completed.dimension)
    (groups : List (SlotGroup × Key)) :
    ∃ slots last, chooser.fillGroups ensemble groups = .ok (slots, last) := by
  induction groups generalizing ensemble with
  | nil => exact ⟨[], ensemble, rfl⟩
  | cons head groups inductionHypothesis =>
      obtain ⟨group, key⟩ := head
      obtain ⟨first, chosen⟩ : ∃ first, chooser.choose ensemble group key = .ok first :=
        exists_choose ensemble group key
      have placed : ∀ slot ∈ first,
          slot.features.length = ensemble.completed.dimension := by
        intro slot member
        obtain ⟨point, drawKey, features⟩ := (choose_spec chosen).1 slot member
        rw [features, lengths]
      obtain ⟨middle, added⟩ := exists_addSlots conditioned proper placed
      obtain ⟨conditionedMiddle, same⟩ :=
        conditioned.conditionOn (conditionOn_of_addSlots conditioned added)
      obtain ⟨rest, last, filled⟩ :=
        inductionHypothesis conditionedMiddle (proper.of_sameModels same)
          (by rw [same.completed]; exact lengths)
      exact ⟨first ++ rest, last,
        fillGroups_cons_eq_ok.2 ⟨first, middle, rest, chosen, added, filled, rfl⟩⟩

/-- Every plan can be filled from the feature vectors of a space. -/
theorem exists_fill (domain : chooser.domain = space.domain)
    (conditioned : ensemble.Conditioned) (proper : ensemble.Proper)
    (dimension : ensemble.completed.dimension = space.dimension)
    (plan : List SlotGroup) (key : Key) :
    ∃ slots last, chooser.fill ensemble plan key = .ok (slots, last) := by
  rw [fill]
  apply exists_fillGroups conditioned proper
  intro point drawKey
  rw [length_inDomain domain, dimension]

end Chooser

end BatchBayes
