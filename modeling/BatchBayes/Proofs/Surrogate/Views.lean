import Mathlib
import BatchBayes.Acquisition.Score
import BatchBayes.Proofs.Surrogate.Feasible
/-!
The two views of an ensemble. Pending points are labelled with the means that
the completed points give, so they change no mean, and each of them can only
shrink the deviation.
-/

namespace BatchBayes

/-! ## Moments -/

namespace Moments

/-- The same mean and no larger a variance. -/
def Tighter (first second : ℝ × ℝ) : Prop :=
  first.1 = second.1 ∧ first.2 ≤ second.2

theorem mean_le {first second : List ℝ}
    (pairs : List.Forall₂ (· ≤ ·) first second) : mean first ≤ mean second := by
  rw [mean, mean, Scalar.sum_real, Scalar.sum_real, pairs.length_eq]
  refine div_le_div_of_nonneg_right pairs.sum_le_sum ?_
  rw [Scalar.ofNat_real]
  exact Nat.cast_nonneg _

/-- A mixture of tighter moments is tighter. -/
theorem mixture_tighter {first second : List (ℝ × ℝ)}
    (pairs : List.Forall₂ Tighter first second) :
    Tighter (mixture first) (mixture second) := by
  have means : first.map (·.1) = second.map (·.1) :=
    map_eq_of_forall₂ pairs fun _ _ pair => pair.1
  have spreads : ∀ center : ℝ,
      (first.map fun moment => (moment.1 - center) * (moment.1 - center)) =
        second.map fun moment => (moment.1 - center) * (moment.1 - center) := by
    intro center
    exact map_eq_of_forall₂ pairs fun _ _ pair => by rw [pair.1]
  have variances : List.Forall₂ (· ≤ ·) (first.map (·.2)) (second.map (·.2)) := by
    rw [List.forall₂_map_left_iff, List.forall₂_map_right_iff]
    exact pairs.imp fun _ _ pair => pair.2
  cases pairs with
  | nil => exact ⟨rfl, le_refl _⟩
  | cons head tail =>
      rw [mixture, mixture, means]
      simp only [List.isEmpty_cons, Bool.false_eq_true, if_false]
      refine ⟨rfl, ?_⟩
      simp only [spreads]
      exact add_le_add_right (mean_le variances) _

end Moments

/-! ## Members -/

namespace Member

section Predictions

variable {completed : Observations ℝ} {padding : Padding}
  {pending more : List (List ℝ)} {member next : Member ℝ}

/-- The completed and the pending points, labelled by the member. -/
noncomputable def labelled (completed : Observations ℝ) (member : Member ℝ)
    (pending : List (List ℝ)) : Observations ℝ :=
  completed.extend pending
    (pending.map fun point => (member.completed.predict point).1)

/-- The rows of the pending points. -/
noncomputable def pendingRows (member : Member ℝ) (pending : List (List ℝ)) :
    List (Observation ℝ) :=
  pending.map fun point => ⟨point, (member.completed.predict point).1, true⟩

theorem rows_labelled (completed : Observations ℝ) (member : Member ℝ)
    (pending : List (List ℝ)) :
    (labelled completed member pending).rows =
      completed.unpadded.rows ++ pendingRows member pending := by
  rw [labelled, Observations.rows_extend (List.length_map _),
    Observations.rows_unpadded, Observations.newRows, pendingRows,
    List.zipWith_map_right, List.zipWith_self]

/-- The exact processes behind the two views. -/
theorem Conditioned.solved
    (conditioned : member.Conditioned completed padding pending)
    (proper : member.completed.parameters.Proper) :
    (labelled completed member pending).Complete ∧
      ∃ base all,
        GaussianProcess.solveRows completed.unpadded
            member.completed.parameters = .ok base ∧
          member.completed.SamePredictions base ∧
        GaussianProcess.solveRows (labelled completed member pending)
            member.completed.parameters = .ok all ∧
          member.all.SamePredictions all := by
  have unpadded :
      ((labelled completed member pending).pad padding).unpadded =
        labelled completed member pending := by
    rw [Observations.unpadded_pad, labelled,
      Observations.unpadded_extend (List.length_map _)]
  have regular :=
    Observations.regularFiller_pad (labelled completed member pending) padding
  have all : GaussianProcess.fit ((labelled completed member pending).pad padding)
      member.completed.parameters = .ok member.all := conditioned.conditioned
  obtain ⟨base, solvedBase, sameBase⟩ :=
    GaussianProcess.exists_solveRows_of_fit
      (Observations.regularFiller_pad completed padding) proper.amplitude_pos.le
      conditioned.fitted
  obtain ⟨larger, solvedLarger, sameLarger⟩ :=
    GaussianProcess.exists_solveRows_of_fit regular proper.amplitude_pos.le all
  have complete :=
    GaussianProcess.complete_unpadded regular
      (GaussianProcess.mismatch?_of_fit all)
  rw [Observations.unpadded_pad] at solvedBase
  rw [unpadded] at solvedLarger complete
  exact ⟨complete, base, larger, solvedBase, sameBase, solvedLarger, sameLarger⟩

/-- Pending points change no mean and raise no variance. -/
theorem Conditioned.tighter
    (conditioned : member.Conditioned completed padding pending)
    (proper : member.completed.parameters.Proper) (point : List ℝ) :
    Moments.Tighter (member.all.predict point) (member.completed.predict point) := by
  obtain ⟨complete, base, all, solvedBase, sameBase, solvedAll, sameAll⟩ :=
    conditioned.solved proper
  have rows := rows_labelled completed member pending
  have own : ∀ row ∈ pendingRows member pending,
      row.label = (base.predict row.features).1 := by
    intro row memberOf
    obtain ⟨features, _, rfl⟩ := List.mem_map.1 memberOf
    dsimp only
    rw [sameBase.predict]
  rw [sameAll.predict, sameBase.predict]
  constructor
  · exact GaussianProcess.mean_eq_of_rows_append rows rfl complete proper
      solvedBase solvedAll own point
  · exact GaussianProcess.variance_le_of_rows_append rows rfl complete proper
      solvedBase solvedAll point

/-- More pending points change no mean and raise no variance. -/
theorem Conditioned.tighter_append
    (conditioned : member.Conditioned completed padding pending)
    (proper : member.completed.parameters.Proper)
    (same : next.completed = member.completed)
    (conditionedNext : next.Conditioned completed padding (pending ++ more))
    (point : List ℝ) :
    Moments.Tighter (next.all.predict point) (member.all.predict point) := by
  have properNext : next.completed.parameters.Proper := same ▸ proper
  obtain ⟨_, _, all, _, _, solvedAll, sameAll⟩ := conditioned.solved proper
  obtain ⟨complete, _, nextAll, _, _, solvedNext, sameNext⟩ :=
    conditionedNext.solved properNext
  have rows :
      (labelled completed next (pending ++ more)).rows =
        (labelled completed member pending).rows ++ pendingRows member more := by
    rw [rows_labelled, rows_labelled, pendingRows, pendingRows, pendingRows, same,
      List.map_append, List.append_assoc]
  rw [same] at solvedNext
  constructor
  · rw [(conditionedNext.tighter properNext point).1, same,
      (conditioned.tighter proper point).1]
  · rw [sameNext.predict, sameAll.predict]
    exact GaussianProcess.variance_le_of_rows_append rows rfl complete proper
      solvedAll solvedNext point

end Predictions

end Member

namespace Ensemble

/-! ## Ensembles -/

/-- Ensembles with the same models explore the same region. -/
theorem SameModels.threshold? {K : Type} [Scalar K] {ensemble next : Ensemble K}
    (same : ensemble.SameModels next) (coefficients : Coefficients K) :
    Acquisition.threshold? next coefficients =
      Acquisition.threshold? ensemble coefficients := by
  simp only [Acquisition.threshold?, same.predict_completed, same.completed]

section Predictions

variable {ensemble next : Ensemble ℝ}

/-- Tighter members make a tighter ensemble. -/
theorem predict_tighter {view other : View} {point : List ℝ}
    (pairs :
      List.Forall₂
        (fun left right : Member ℝ =>
          Moments.Tighter ((left.process view).predict point)
            ((right.process other).predict point))
        next.members ensemble.members) :
    (next.predict view point).mean = (ensemble.predict other point).mean ∧
      (next.predict view point).deviation ≤
        (ensemble.predict other point).deviation := by
  have moments :
      List.Forall₂ Moments.Tighter
        (next.members.map fun member => (member.process view).predict point)
        (ensemble.members.map fun member =>
          (member.process other).predict point) := by
    rwa [List.forall₂_map_left_iff, List.forall₂_map_right_iff]
  have mixture := Moments.mixture_tighter moments
  refine ⟨mixture.1, ?_⟩
  apply Real.sqrt_le_sqrt
  rw [Scalar.max_real, Scalar.max_real]
  exact max_le_max_right 0 mixture.2

theorem Conditioned.views (conditioned : ensemble.Conditioned)
    (proper : ensemble.Proper) (point : List ℝ) :
    (ensemble.predict .all point).mean =
        (ensemble.predict .completed point).mean ∧
      (ensemble.predict .all point).deviation ≤
        (ensemble.predict .completed point).deviation := by
  apply predict_tighter
  rw [List.forall₂_same]
  intro member found
  exact (conditioned member found).tighter (proper member found) point

theorem Conditioned.all_eq_completed (conditioned : ensemble.Conditioned)
    (none : ensemble.pending = []) (member : Member ℝ)
    (found : member ∈ ensemble.members) :
    member.process .all = member.process .completed := by
  have own := conditioned member found
  rw [none] at own
  exact own.all_eq_completed

theorem Conditioned.deviation_addPending_le (conditioned : ensemble.Conditioned)
    (proper : ensemble.Proper) {added : List ℝ}
    (success : ensemble.addPending added = .ok next) (point : List ℝ) :
    (next.predict .all point).deviation ≤
      (ensemble.predict .all point).deviation := by
  obtain ⟨conditionedNext, _⟩ := conditioned.conditionOn success
  obtain ⟨completed, padding, pending, members⟩ := conditionOn_eq_ok success
  have pairs :
      List.Forall₂
        (fun left right : Member ℝ =>
          Moments.Tighter ((left.process .all).predict point)
            ((right.process .all).predict point))
        next.members ensemble.members := by
    apply List.Forall₂.flip
    have known :=
      (List.forall₂_and_left _ _).2 ⟨fun member found => found, members⟩
    refine known.imp fun member renewed ⟨found, recondition⟩ => ?_
    have own := conditioned member found
    exact own.tighter_append (proper member found)
      (Member.completed_of_recondition recondition).1
      (own.recondition recondition) point
  exact (predict_tighter pairs).2

/-! ## Values of points -/

theorem Conditioned.upperBound_addPending_le (conditioned : ensemble.Conditioned)
    (proper : ensemble.Proper) {added : List ℝ}
    (success : ensemble.addPending added = .ok next)
    {coefficients : Coefficients ℝ} (nonneg : 0 ≤ coefficients.upperBound)
    (point : List ℝ) :
    (Acquisition.ofEnsemble next coefficients).score .upperBound [point] ≤
      (Acquisition.ofEnsemble ensemble coefficients).score .upperBound [point] := by
  have same := (conditioned.conditionOn success).2
  have deviation := conditioned.deviation_addPending_le proper success point
  simp only [Acquisition.score, Acquisition.upperBound, Acquisition.estimate,
    Acquisition.ofEnsemble, same.predict_completed]
  exact add_le_add_right (mul_le_mul_of_nonneg_left deviation nonneg) _

theorem Conditioned.exploration_addPending_le (conditioned : ensemble.Conditioned)
    (proper : ensemble.Proper) {added : List ℝ}
    (success : ensemble.addPending added = .ok next)
    (coefficients : Coefficients ℝ) (point : List ℝ) :
    (Acquisition.ofEnsemble next coefficients).score .exploration [point] ≤
      (Acquisition.ofEnsemble ensemble coefficients).score .exploration [point] := by
  have same := (conditioned.conditionOn success).2
  have deviation := conditioned.deviation_addPending_le proper success point
  simp only [Acquisition.score, Acquisition.exploration, Acquisition.penalty,
    Acquisition.violation, Acquisition.estimate, Acquisition.ofEnsemble,
    same.predict_completed, same.threshold?]
  exact sub_le_sub_right deviation _

/-- At every ensemble reached from a fitted one by changing its pending points,
the completed and the pending points together give the means of the completed
points alone, with no larger deviations. A point of the right dimension can
always be added; it raises no deviation from all points, hence no upper
confidence bound and no value of exploration. Without pending points the views
are one. -/
theorem pending_points_only_shrink_deviation {completed : Observations ℝ}
    {pending : List (List ℝ)} {size : Nat} {tuner : Tuner ℝ} {padding : Padding}
    {key : Key} {start : Ensemble ℝ}
    (fitted : fit completed pending size tuner padding key = .ok start)
    (proper : start.Proper) (calls : List (PendingCall ℝ)) :
    (∀ point,
      ((start.after calls).predict .all point).mean =
          ((start.after calls).predict .completed point).mean ∧
        ((start.after calls).predict .all point).deviation ≤
          ((start.after calls).predict .completed point).deviation) ∧
    (∀ added,
      added.length = start.completed.dimension →
      ∃ next, (start.after calls).addPending added = .ok next) ∧
    (∀ added next,
      (start.after calls).addPending added = .ok next →
      ∀ point,
        (next.predict .all point).deviation ≤
            ((start.after calls).predict .all point).deviation ∧
          ∀ coefficients : Coefficients ℝ,
            0 ≤ coefficients.upperBound →
            ∀ policy ∈ [Policy.upperBound, Policy.exploration],
              (Acquisition.ofEnsemble next coefficients).score policy [point] ≤
                (Acquisition.ofEnsemble (start.after calls) coefficients).score
                  policy [point]) ∧
    ((start.after calls).pending = [] →
      (∀ point,
        (start.after calls).predict .all point =
          (start.after calls).predict .completed point) ∧
      ∀ points,
        (start.after calls).predictJoint .all points =
          (start.after calls).predictJoint .completed points) := by
  obtain ⟨conditioned, same⟩ := (conditioned_of_fit fitted).after calls
  have properAfter := proper.of_sameModels same
  refine ⟨conditioned.views properAfter, fun added length => ?_, ?_, fun none => ?_⟩
  · apply conditioned.exists_addPending properAfter
    rw [same.completed, length]
  · intro added next success point
    refine ⟨conditioned.deviation_addPending_le properAfter success point, ?_⟩
    intro coefficients nonneg policy member
    rcases List.mem_pair.1 member with rfl | rfl
    · exact conditioned.upperBound_addPending_le properAfter success nonneg point
    · exact conditioned.exploration_addPending_le properAfter success coefficients
        point
  · have one := conditioned.all_eq_completed none
    constructor
    · intro point
      rw [predict, predict, List.map_congr_left fun member found => by
        rw [one member found]]
    · intro points
      rw [predictJoint, predictJoint, List.map_congr_left fun member found => by
        rw [one member found]]

theorem pending_points_only_shrink_deviation_after_calls :
    ∃ start : Ensemble ℝ,
      fit (.ofPoints [[0], [1]] [1, 2] 1) [[2]] 2 RestartSearch.standard.tune
          PaddingRule.powersOfTwo.capacity (.ofSeed 1) = .ok start ∧
        start.Proper ∧
          ∀ point,
            ((start.after [.add [3], .replace [[4]], .add [0, 0]]).predict
                  .all point).mean =
                ((start.after [.add [3], .replace [[4]], .add [0, 0]]).predict
                  .completed point).mean ∧
              ((start.after [.add [3], .replace [[4]], .add [0, 0]]).predict
                  .all point).deviation ≤
                ((start.after [.add [3], .replace [[4]], .add [0, 0]]).predict
                  .completed point).deviation := by
  have rows : ∀ row ∈
      (Observations.ofPoints [[0], [1]] [1, 2] 1 : Observations ℝ).validRows,
      row.features.length = 1 := by
    simp [Observations.validRows, Observations.rows, Observations.ofPoints,
      List.replicate]
  have lengths : ∀ point ∈ ([[2]] : List (List ℝ)), point.length = 1 := by simp
  obtain ⟨start, fitted⟩ :=
    exists_fit RestartSearch.standard rows lengths 2
      PaddingRule.powersOfTwo.capacity (.ofSeed 1)
  have proper := proper_of_fit fitted
  exact ⟨start, fitted, proper,
    (pending_points_only_shrink_deviation fitted proper _).1⟩

end Predictions

end Ensemble

end BatchBayes
