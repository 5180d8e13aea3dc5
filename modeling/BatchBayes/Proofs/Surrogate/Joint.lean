import Mathlib
import BatchBayes.Proofs.Surrogate.Determinant
import BatchBayes.Proofs.Surrogate.Views
/-!
Predictions of several points together. A process and an ensemble both give the matrix
of a covariance of two points. The covariance of a point with itself is at most the
variance that is predicted for the point alone.
-/

namespace BatchBayes

/-! ## Processes -/

namespace KernelParameters

theorem squaredDistance_self (parameters : KernelParameters ℝ) (point : List ℝ) :
    parameters.squaredDistance point point = 0 := by
  obtain ⟨amplitude, lengthscales, noise⟩ := parameters
  simp only [squaredDistance]
  induction point generalizing lengthscales with
  | nil => simp
  | cons x point inductionHypothesis =>
      cases lengthscales with
      | nil => simp
      | cons lengthscale lengthscales =>
          simp only [List.zipWith_cons_cons, Scalar.dot_cons,
            inductionHypothesis lengthscales]
          ring

theorem covariance_self (parameters : KernelParameters ℝ) (point : List ℝ) :
    parameters.covariance point point = parameters.amplitude := by
  rw [covariance, squaredDistance_self]
  simp

end KernelParameters

namespace GaussianProcess

/-- The covariance of two points, with the two halves of the matrix averaged. -/
noncomputable def covariance (process : GaussianProcess ℝ) (left right : List ℝ) :
    ℝ :=
  let prior := process.parameters.covariance
  match process.posterior with
  | none => prior left right
  | some posterior =>
      let cross := process.crossCovariance
      let half := fun left right =>
        prior left right -
          Scalar.dot (cross left) (posterior.factor.solve (cross right))
      (half left right + half right left) * 0.5

theorem predictJoint_eq (process : GaussianProcess ℝ) (points : List (List ℝ)) :
    process.predictJoint points =
      (points.map fun point => (process.predict point).1,
        matrixOf process.covariance points) := by
  obtain ⟨parameters, data, posterior⟩ := process
  cases posterior with
  | none => rfl
  | some posterior => exact predictJoint_solved parameters data posterior points

/-- The variance at a point is cut off at zero, the covariance matrix is not. -/
theorem covariance_self_le (process : GaussianProcess ℝ) (point : List ℝ) :
    process.covariance point point ≤ (process.predict point).2 := by
  obtain ⟨parameters, data, posterior⟩ := process
  cases posterior with
  | none => exact (parameters.covariance_self point).le
  | some posterior =>
      rw [predict_solved]
      dsimp only [covariance]
      rw [parameters.covariance_self, Scalar.max_real]
      refine le_max_of_le_left (le_of_eq ?_)
      ring

end GaussianProcess

/-! ## Matrices -/

section Matrices

open GaussianProcess (matrixOf)

variable {α : Type}

theorem LowerHalf.ofRows_matrixOf {K : Type} [Scalar K] (entry : α → α → K)
    (items : List α) :
    LowerHalf.ofRows (matrixOf entry items) =
      LowerHalf.ofItems (fun item => entry item item) entry items := by
  -- The rows that are left still hold the entries for the items before them.
  have suffix : ∀ before rest : List α,
      LowerHalf.ofRowsFrom before.length
          (rest.map fun left => (before ++ rest).map (entry left)) =
        LowerHalf.ofItems (fun item => entry item item) entry rest := by
    intro before rest
    induction rest generalizing before with
    | nil => rfl
    | cons item rest inductionHypothesis =>
        have later := inductionHypothesis (before ++ [item])
        simp only [List.append_assoc, List.singleton_append, List.length_append,
          List.length_singleton] at later
        have column : ∀ left,
            ((before ++ item :: rest).map (entry left)).getD before.length 0 =
              entry left item := by
          intro left
          simp
        simp only [List.map_cons, LowerHalf.ofRowsFrom, LowerHalf.ofItems, column,
          later, List.map_map, Function.comp_def]
  exact suffix [] items

namespace Moments

variable (items : List α)

theorem addMatrix_matrixOf (first second : α → α → ℝ) :
    addMatrix (matrixOf first items) (matrixOf second items) =
      matrixOf (fun left right => first left right + second left right) items := by
  simp [addMatrix, matrixOf, List.zipWith_map, List.zipWith_self]

theorem outer_map (entry : α → ℝ) :
    outer (items.map entry) =
      matrixOf (fun left right => entry left * entry right) items := by
  simp [outer, matrixOf, Function.comp_def]

theorem zeroMatrix_length :
    zeroMatrix items.length = matrixOf (fun _ _ => (0 : ℝ)) items := by
  simp [zeroMatrix, matrixOf]

/-! ## Mixtures -/

section Mixtures

variable {ι : Type} (centers : ι → α → ℝ) (covariances : ι → α → α → ℝ)

theorem foldl_add_centers (parts : List ι) (start : α → ℝ) :
    parts.foldl
        (fun total part => List.zipWith (· + ·) total (items.map (centers part)))
        (items.map start) =
      items.map fun item => start item + (parts.map (centers · item)).sum := by
  induction parts generalizing start with
  | nil => simp
  | cons part parts inductionHypothesis =>
      rw [List.foldl_cons, List.zipWith_map, List.zipWith_self, inductionHypothesis]
      simp [add_assoc]

theorem foldl_add_covariances (products : ι → α → α → ℝ) (parts : List ι)
    (start : α → α → ℝ) :
    parts.foldl
        (fun spread part =>
          addMatrix (addMatrix spread (matrixOf (covariances part) items))
            (matrixOf (products part) items))
        (matrixOf start items) =
      matrixOf
        (fun left right =>
          start left right +
            (parts.map fun part =>
              covariances part left right + products part left right).sum)
        items := by
  induction parts generalizing start with
  | nil => simp
  | cons part parts inductionHypothesis =>
      rw [List.foldl_cons, addMatrix_matrixOf, addMatrix_matrixOf,
        inductionHypothesis]
      simp [add_assoc]

/-- A mixture of vectors has the mean of the centers, and the mean of the covariances
and of the products of how far the centers are off. -/
theorem mixtureJoint_matrixOf {parts : List ι} (nonempty : parts ≠ []) :
    mixtureJoint
        (parts.map fun part =>
          (items.map (centers part), matrixOf (covariances part) items)) =
      let center := fun item => mean (parts.map (centers · item))
      (items.map center,
        matrixOf
          (fun left right =>
            mean
              (parts.map fun part =>
                covariances part left right +
                  (centers part left - center left) *
                    (centers part right - center right)))
          items) := by
  obtain ⟨first, rest, rfl⟩ := List.exists_cons_of_ne_nil nonempty
  have zeros : List.replicate items.length (0 : ℝ) = items.map fun _ => 0 := by simp
  -- The first part has already been added to the sums that the folds start from.
  simp only [List.map_cons, mixtureJoint, List.foldl_cons, List.foldl_map,
    List.length_cons, List.length_map, zeros, zeroMatrix_length, List.zipWith_map,
    List.zipWith_self, foldl_add_centers, List.map_map, Function.comp_def, outer_map,
    addMatrix_matrixOf, foldl_add_covariances]
  simp [mean, matrixOf, Scalar.sum_real, Function.comp_def]

end Mixtures

end Moments

end Matrices

/-! ## Ensembles -/

namespace Ensemble

variable {ensemble : Ensemble ℝ} {view : View}

noncomputable def offset (ensemble : Ensemble ℝ) (view : View) (member : Member ℝ)
    (point : List ℝ) : ℝ :=
  ((member.process view).predict point).1 - (ensemble.predict view point).mean

/-- The covariance of two points for all members together. -/
noncomputable def covariance (ensemble : Ensemble ℝ) (view : View)
    (left right : List ℝ) : ℝ :=
  Moments.mean
    (ensemble.members.map fun member =>
      (member.process view).covariance left right +
        ensemble.offset view member left * ensemble.offset view member right)

theorem mean_predict (nonempty : ensemble.members ≠ []) (view : View)
    (point : List ℝ) :
    (ensemble.predict view point).mean =
      Moments.mean
        (ensemble.members.map fun member =>
          ((member.process view).predict point).1) := by
  simp [predict, Moments.mixture, nonempty, Function.comp_def]

/-- The deviation of an ensemble: what its members predict, and how far their means are
off. -/
theorem deviation_eq (nonempty : ensemble.members ≠ []) (view : View)
    (point : List ℝ) :
    (ensemble.predict view point).deviation =
      Real.sqrt (max
        (Moments.mean
          (ensemble.members.map fun member =>
            ((member.process view).predict point).2 +
              ensemble.offset view member point * ensemble.offset view member point))
        0) := by
  have center := mean_predict nonempty view point
  simp only [offset, center]
  simp [predict, Moments.mixture, nonempty, Function.comp_def, Moments.mean,
    Scalar.sum_real, List.sum_map_add, add_div, add_comm]

theorem mean_le_sq_deviation (nonempty : ensemble.members ≠ []) (view : View)
    (point : List ℝ) :
    Moments.mean
        (ensemble.members.map fun member =>
          ((member.process view).predict point).2 +
            ensemble.offset view member point * ensemble.offset view member point) ≤
      (ensemble.predict view point).deviation ^ 2 := by
  rw [deviation_eq nonempty, Real.sq_sqrt (le_max_right _ _)]
  exact le_max_left _ _

theorem predictJoint_eq (nonempty : ensemble.members ≠ []) (view : View)
    (points : List (List ℝ)) :
    ensemble.predictJoint view points =
      (points.map fun point => (ensemble.predict view point).mean,
        GaussianProcess.matrixOf (ensemble.covariance view) points) := by
  have mixture :=
    Moments.mixtureJoint_matrixOf points
      (fun (member : Member ℝ) point => ((member.process view).predict point).1)
      (fun member => (member.process view).covariance) nonempty
  simp only [predictJoint, GaussianProcess.predictJoint_eq, mixture,
    ← mean_predict nonempty view]
  rfl

/-- The diagonal of the joint prediction is at most the variance predicted point by
point. -/
theorem covariance_self_le (nonempty : ensemble.members ≠ []) (view : View)
    (point : List ℝ) :
    ensemble.covariance view point point ≤
      (ensemble.predict view point).deviation ^ 2 := by
  refine le_trans (Moments.mean_le ?_) (mean_le_sq_deviation nonempty view point)
  rw [List.forall₂_map_left_iff, List.forall₂_map_right_iff, List.forall₂_same]
  intro member _
  exact add_le_add_left (GaussianProcess.covariance_self_le _ point) _

theorem mean_covariance_self_le (nonempty : ensemble.members ≠ []) (view : View)
    (points : List (List ℝ)) :
    Moments.mean (points.map fun point => ensemble.covariance view point point) ≤
      Moments.mean
        (points.map fun point => (ensemble.predict view point).deviation ^ 2) := by
  apply Moments.mean_le
  rw [List.forall₂_map_left_iff, List.forall₂_map_right_iff, List.forall₂_same]
  exact fun point _ => covariance_self_le nonempty view point

end Ensemble

end BatchBayes
