import Mathlib
import BatchBayes.Proofs.Surrogate.Schur
/-!
Predictions of several points agree with the predictions of single points. The joint
prediction has the means of the points and a symmetric matrix, selecting points selects
its rows and columns, and where the covariances of the kernel are positive, so is the
matrix, with the variances of the single points on its diagonal.
-/

namespace BatchBayes

/-! ## Means of kernels -/

theorem PositiveKernel.mean {ι κ : Type} [Fintype ι] {kernel : κ → ι → ι → ℝ}
    {parts : List κ} (positive : ∀ part ∈ parts, PositiveKernel (kernel part)) :
    PositiveKernel fun i j => Moments.mean (parts.map (kernel · i j)) := by
  have sum : PositiveKernel fun i j => (parts.map (kernel · i j)).sum := by
    induction parts with
    | nil => simpa using PositiveKernel.rankOne (ι := ι) fun _ => 0
    | cons part parts inductionHypothesis =>
        have rest :=
          inductionHypothesis fun other member =>
            positive other (List.mem_cons_of_mem part member)
        simpa using (positive part List.mem_cons_self).add rest
  have scaled :=
    sum.smul (inv_nonneg.2 (Nat.cast_nonneg (α := ℝ) parts.length))
  simpa only [Moments.mean, Scalar.sum_real, Scalar.ofNat_real, List.length_map,
    div_eq_inv_mul] using scaled

/-! ## Members -/

/-- The points that a view is conditioned on. -/
def View.observed {K : Type} (completed : Observations K) (pending : List (List K)) :
    View → List (List K)
  | .completed => completed.validRows.map (·.features)
  | .all => completed.validRows.map (·.features) ++ pending

namespace Member

variable {completed : Observations ℝ} {padding : Padding} {pending points : List (List ℝ)}
  {member : Member ℝ} {view : View}

/-- The exact process behind a view, and the rows that it observed. -/
theorem Conditioned.exists_solved (conditioned : member.Conditioned completed padding pending)
    (proper : member.completed.parameters.Proper) (view : View) :
    ∃ data process,
      data.Complete ∧ data.dimension = completed.dimension ∧
        data.rows.map (·.features) = view.observed completed pending ∧
          GaussianProcess.solveRows data member.completed.parameters = .ok process ∧
            (member.process view).SamePredictions process := by
  obtain ⟨complete, base, all, solvedBase, sameBase, solvedAll, sameAll⟩ :=
    conditioned.solved proper
  have rows := rows_labelled completed member pending
  cases view with
  | completed =>
      refine ⟨completed.unpadded, base, ?_, rfl, ?_, solvedBase, sameBase⟩
      · exact GaussianProcess.complete_of_rows_append rows rfl complete
      · rw [Observations.rows_unpadded]
        rfl
  | all =>
      refine ⟨labelled completed member pending, all, complete, rfl, ?_, solvedAll, sameAll⟩
      rw [rows, Observations.rows_unpadded, List.map_append, pendingRows, List.map_map]
      exact congrArg _ (List.map_id pending)

theorem Conditioned.observed_length
    (conditioned : member.Conditioned completed padding pending)
    (proper : member.completed.parameters.Proper) :
    ∀ point ∈ view.observed completed pending, point.length = completed.dimension := by
  obtain ⟨data, _, complete, dimension, observed, _⟩ := conditioned.exists_solved proper view
  rw [← observed, ← dimension]
  intro point found
  obtain ⟨row, member, rfl⟩ := List.mem_map.1 found
  exact complete.row_length row member

theorem Conditioned.posSemidef_covariance
    (conditioned : member.Conditioned completed padding pending)
    (proper : member.completed.parameters.Proper)
    (gram :
      (kernelMatrix member.completed.parameters.covariance
        (view.observed completed pending ++ points)).PosSemidef) :
    (kernelMatrix (member.process view).covariance points).PosSemidef := by
  obtain ⟨data, process, complete, _, observed, solved, same⟩ :=
    conditioned.exists_solved proper view
  rw [← observed] at gram
  have positive := GaussianProcess.posSemidef_covariance complete proper solved gram
  simpa only [kernelMatrix, same.covariance] using positive

end Member

/-! ## Ensembles -/

namespace Ensemble

variable {ensemble : Ensemble ℝ} {view : View} {points : List (List ℝ)}

/-- The kernel of every member has a positive semidefinite matrix at the points that a
view is conditioned on, taken together with some points. -/
def PositiveAt (ensemble : Ensemble ℝ) (view : View) (points : List (List ℝ)) : Prop :=
  ∀ member ∈ ensemble.members,
    Matrix.PosSemidef
      (kernelMatrix member.completed.parameters.covariance
        (view.observed ensemble.completed ensemble.pending ++ points))

/-- Kernels are positive at points of the right dimension. -/
theorem Conditioned.positiveAt (conditioned : ensemble.Conditioned) (proper : ensemble.Proper)
    (lengths : ∀ point ∈ points, point.length = ensemble.completed.dimension) :
    ensemble.PositiveAt view points := by
  intro member found
  apply KernelParameters.posSemidef_covariance (proper member found).amplitude_pos.le
  intro point inBoth
  rcases List.mem_append.1 inBoth with observed | given
  · exact (conditioned member found).observed_length (proper member found) point observed
  · exact lengths point given

theorem covariance_comm (ensemble : Ensemble ℝ) (view : View) (left right : List ℝ) :
    ensemble.covariance view left right = ensemble.covariance view right left := by
  rw [covariance, covariance]
  congr 1
  refine List.map_congr_left fun member _ => ?_
  rw [GaussianProcess.covariance_comm, mul_comm]

theorem Conditioned.posSemidef_covariance (conditioned : ensemble.Conditioned)
    (proper : ensemble.Proper) (positive : ensemble.PositiveAt view points) :
    (kernelMatrix (ensemble.covariance view) points).PosSemidef := by
  refine PositiveKernel.iff_posSemidef.1 (PositiveKernel.mean fun member found => ?_)
  have own :=
    (conditioned member found).posSemidef_covariance (proper member found)
      (positive member found)
  exact (PositiveKernel.iff_posSemidef.2 own).add
    (PositiveKernel.rankOne fun i => ensemble.offset view member points[i])

/-- The diagonal of the joint prediction is the variance predicted point by point. -/
theorem Conditioned.covariance_self (conditioned : ensemble.Conditioned)
    (proper : ensemble.Proper) (nonempty : ensemble.members ≠ [])
    (positive : ensemble.PositiveAt view points) (i : Fin points.length) :
    ensemble.covariance view points[i] points[i] =
      (ensemble.predict view points[i]).deviation ^ 2 := by
  have variances : ∀ member ∈ ensemble.members,
      (member.process view).covariance points[i] points[i] =
        ((member.process view).predict points[i]).2 := by
    intro member found
    have own :=
      (conditioned member found).posSemidef_covariance (proper member found)
        (positive member found)
    exact GaussianProcess.covariance_self_eq (own.diag_nonneg (i := i))
  have same :
      ensemble.covariance view points[i] points[i] =
        Moments.mean
          (ensemble.members.map fun member =>
            ((member.process view).predict points[i]).2 +
              ensemble.offset view member points[i] *
                ensemble.offset view member points[i]) := by
    rw [covariance]
    congr 1
    exact List.map_congr_left fun member found => by rw [variances member found]
  have nonneg : 0 ≤ ensemble.covariance view points[i] points[i] :=
    (conditioned.posSemidef_covariance proper positive).diag_nonneg (i := i)
  rw [deviation_eq nonempty, ← same, max_eq_left nonneg, Real.sq_sqrt nonneg]

/-- At every ensemble reached from a fitted one by changing its pending points, the joint
prediction of some points has the means of the single points and a symmetric matrix, and
the joint prediction of a selection of them selects entries, rows and columns. Where the
kernels are positive, as they are at points of the right dimension, the matrix is positive
semidefinite and its diagonal holds the squares of the deviations of the single points. -/
theorem joint_prediction_agrees_with_points {completed : Observations ℝ}
    {pending : List (List ℝ)} {size : Nat} {tuner : Tuner ℝ} {padding : Padding}
    {key : Key} {start : Ensemble ℝ}
    (fitted : fit completed pending size tuner padding key = .ok start)
    (proper : start.Proper) (calls : List (PendingCall ℝ)) (view : View)
    (points : List (List ℝ)) :
    ∃ (means : Fin points.length → ℝ)
      (covariances : Matrix (Fin points.length) (Fin points.length) ℝ),
      (start.after calls).predictJoint view points =
          (List.ofFn means, List.ofFn fun i => List.ofFn (covariances i)) ∧
      (∀ indices : List (Fin points.length),
        (start.after calls).predictJoint view (indices.map points.get) =
          (indices.map means, indices.map fun i => indices.map (covariances i))) ∧
      (∀ i, means i = ((start.after calls).predict view points[i]).mean) ∧
      covariances.IsSymm ∧
      ((start.after calls).PositiveAt view points →
        covariances.PosSemidef ∧
          ∀ i,
            covariances i i =
              ((start.after calls).predict view points[i]).deviation ^ 2) ∧
      ((∀ point ∈ points, point.length = start.completed.dimension) →
        (start.after calls).PositiveAt view points) := by
  obtain ⟨conditioned, same⟩ := (conditioned_of_fit fitted).after calls
  have nonempty := same.members_ne_nil (members_ne_nil_of_fit fitted)
  have properAfter := proper.of_sameModels same
  have selected : ∀ indices : List (Fin points.length),
      (start.after calls).predictJoint view (indices.map points.get) =
        (indices.map fun i => ((start.after calls).predict view points[i]).mean,
          indices.map fun i =>
            indices.map fun j =>
              (start.after calls).covariance view points[i] points[j]) := by
    intro indices
    rw [predictJoint_eq nonempty, GaussianProcess.matrixOf, List.map_map, List.map_map]
    simp only [List.map_map]
    rfl
  refine ⟨fun i => ((start.after calls).predict view points[i]).mean,
    kernelMatrix ((start.after calls).covariance view) points, ?_, selected, fun _ => rfl,
    ?_, fun positive => ⟨?_, ?_⟩, fun lengths => ?_⟩
  · have all := selected (List.finRange points.length)
    rw [List.map_get_finRange] at all
    simp only [List.ofFn_eq_map]
    exact all
  · ext i j
    exact (start.after calls).covariance_comm view points[j] points[i]
  · exact conditioned.posSemidef_covariance properAfter positive
  · exact conditioned.covariance_self properAfter nonempty positive
  · apply conditioned.positiveAt properAfter
    rw [same.completed]
    exact lengths

theorem joint_prediction_agrees_with_points_after_calls :
    ∃ start : Ensemble ℝ,
      fit (.ofPoints [[0], [1]] [1, 2] 1) [[2]] 2 RestartSearch.standard.tune
          PaddingRule.powersOfTwo.capacity (.ofSeed 1) = .ok start ∧
        start.Proper ∧
          ∃ covariances : Matrix (Fin 3) (Fin 3) ℝ,
            ((start.after [.add [3], .replace [[4]]]).predictJoint .all
                [[5], [7], [5]]).2 =
              (List.ofFn fun i => List.ofFn (covariances i)) ∧
            covariances.PosSemidef ∧
              covariances 1 1 =
                ((start.after [.add [3], .replace [[4]]]).predict .all [7]).deviation ^ 2 := by
  obtain ⟨start, fitted, proper, dimension, _⟩ := exists_fit_two_points
  obtain ⟨_, covariances, joint, _, _, _, agree, positive⟩ :=
    joint_prediction_agrees_with_points fitted proper [.add [3], .replace [[4]]] .all
      [[5], [7], [5]]
  obtain ⟨semidefinite, diagonal⟩ := agree (positive (by simp [dimension]))
  exact ⟨start, fitted, proper, covariances, congrArg Prod.snd joint, semidefinite,
    diagonal 1⟩

end Ensemble

end BatchBayes
