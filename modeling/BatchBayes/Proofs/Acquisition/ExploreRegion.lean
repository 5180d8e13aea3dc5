import Mathlib
import BatchBayes.Acquisition.Score
import BatchBayes.Proofs.Batch.JointValue
import BatchBayes.Proofs.Designer.Feasible
import BatchBayes.Proofs.Surrogate.Agreement
import BatchBayes.Proofs.Surrogate.LogDeterminant
/-!
The region to explore. It holds the points whose optimistic estimate reaches the mean at the
most promising completed point, which is one of them, and exploration is worth less than the
deviation outside of it only.
-/

namespace BatchBayes

/-- The optimistic estimate at a point, from the completed points alone. -/
def Ensemble.optimistic {K : Type} [Scalar K] (ensemble : Ensemble K) (exploreRegion : K)
    (point : List K) : K :=
  let prediction := ensemble.predict .completed point
  prediction.mean + exploreRegion * prediction.deviation

namespace Acquisition

/-! ## The most promising point -/

/-- The items before the first of the largest stay below it. -/
theorem exists_split_of_mem_argmax {α β : Type} [LinearOrder β] {f : α → β}
    {items : List α} {best : α} (found : best ∈ items.argmax f) :
    ∃ before after,
      items = before ++ best :: after ∧
        (∀ other ∈ before, f other < f best) ∧ ∀ other ∈ after, f other ≤ f best := by
  classical
  obtain ⟨member, largest, first⟩ := List.mem_argmax_iff.1 found
  obtain ⟨before, after, rfl, new⟩ := List.eq_append_cons_of_mem member
  refine ⟨before, after, rfl, fun other earlier => ?_, fun other later => ?_⟩
  · by_contra large
    have place := first other (List.mem_append_left _ earlier) (not_lt.1 large)
    rw [List.idxOf_append_of_notMem new, List.idxOf_append_of_mem earlier,
      List.idxOf_cons_self] at place
    have inBefore := List.idxOf_lt_length_of_mem earlier
    omega
  · exact largest other (List.mem_append_right before (List.mem_cons_of_mem best later))

theorem foldl_morePromising {α : Type} (promise : α → ℝ × ℝ) (points : List α) :
    (points.map promise).foldl morePromising none =
      (points.argmax fun point => (promise point).1).map promise := by
  induction points using List.reverseRecOn with
  | nil => rfl
  | append_singleton points point inductionHypothesis =>
      rw [List.map_append, List.foldl_append, inductionHypothesis, List.argmax_concat]
      cases points.argmax fun point => (promise point).1 with
      | none => rfl
      | some best =>
          by_cases better : (promise best).1 < (promise point).1
          · simp [morePromising, better]
          · simp [morePromising, better, not_lt.1 better]

variable {ensemble : Ensemble ℝ} {coefficients : Coefficients ℝ}

theorem threshold_ofEnsemble (ensemble : Ensemble ℝ) (coefficients : Coefficients ℝ) :
    (ofEnsemble ensemble coefficients).threshold =
      (ensemble.completed.features.argmax
        (ensemble.optimistic coefficients.exploreRegion)).map fun best =>
          (ensemble.predict .completed best).mean := by
  change threshold? ensemble coefficients = _
  rw [threshold?, foldl_morePromising, Option.map_map]
  rfl

/-! ## Penalties -/

variable {acquisition : Acquisition ℝ}

theorem violation_of_threshold_none (none : acquisition.threshold = none)
    (estimate : Estimate ℝ) : acquisition.violation estimate ≤ 0 := by
  rw [violation, none]
  exact neg_nonpos.2 (by positivity : (0 : ℝ) ≤ 2 ^ 1024)

theorem violation_of_threshold_some {threshold : ℝ}
    (some : acquisition.threshold = some threshold) (point : List ℝ) :
    acquisition.violation (acquisition.estimate point) =
      threshold -
        acquisition.ensemble.optimistic acquisition.coefficients.exploreRegion point := by
  rw [violation, some]
  rfl

theorem exploration_eq_deviationFromAll_iff (estimate : Estimate ℝ) :
    acquisition.exploration estimate = estimate.deviationFromAll ↔
      acquisition.coefficients.penalty = 0 ∨ acquisition.violation estimate ≤ 0 := by
  rw [exploration, sub_eq_self, penalty, Scalar.max_real, mul_eq_zero, max_eq_right_iff]

theorem exploration_le_deviationFromAll (nonneg : 0 ≤ coefficients.penalty)
    (ensemble : Ensemble ℝ) (estimate : Estimate ℝ) :
    (ofEnsemble ensemble coefficients).exploration estimate ≤ estimate.deviationFromAll :=
  sub_le_self _ (penalty_nonneg nonneg ensemble estimate)

/-! ## Sets -/

/-- A set with a positive definite covariance matrix is worth the logarithm of its
determinant, less the penalties of the points. -/
theorem jointExploration_of_posDef (members : ensemble.members ≠ [])
    {points : List (List ℝ)} (nonempty : points ≠ [])
    (positive : (kernelMatrix (ensemble.covariance .all) points).PosDef) :
    (ofEnsemble ensemble coefficients).jointExploration points =
      Real.log (kernelMatrix (ensemble.covariance .all) points).det -
        (points.map fun point =>
          (ofEnsemble ensemble coefficients).penalty
            ((ofEnsemble ensemble coefficients).estimate point)).sum := by
  have symmetric := ensemble.covariance_comm .all
  obtain ⟨factor, success⟩ := exists_cholesky?_of_posDef symmetric positive
  rw [jointExploration_of_ne_nil nonempty, Ensemble.predictJoint_eq members,
    LowerHalf.ofRows_matrixOf, success, det_kernelMatrix_of_cholesky? symmetric success,
    Real.log_exp, Scalar.sum_real]
  norm_num

end Acquisition

namespace Ensemble

variable {ensemble : Ensemble ℝ}

theorem predictJoint_snd (members : ensemble.members ≠ []) (view : View)
    (points : List (List ℝ)) :
    (ensemble.predictJoint view points).2 =
      List.ofFn fun i => List.ofFn (kernelMatrix (ensemble.covariance view) points i) := by
  rw [predictJoint_eq members, GaussianProcess.matrixOf]
  refine List.ext_getElem (by simp) fun row _ _ => List.ext_getElem (by simp) fun _ _ _ => ?_
  simp [kernelMatrix]

/-- The optimistic estimate of a promising point reaches its own mean. -/
theorem mean_le_optimistic {exploreRegion : ℝ} (nonneg : 0 ≤ exploreRegion)
    (point : List ℝ) :
    (ensemble.predict .completed point).mean ≤ ensemble.optimistic exploreRegion point :=
  le_add_of_nonneg_right (mul_nonneg nonneg (Real.sqrt_nonneg _))

/-- At every ensemble reached by fitting and by changes of its pending points, and for every
valid configuration, exploration is penalized exactly outside of a region that is never empty.
Without completed points there is no threshold and no penalty. Otherwise the threshold is the
mean at the first completed point whose optimistic estimate is largest, which is in the region
itself, exploration is never worth more than the deviation, and it is worth the deviation just
where penalties weigh nothing or the optimistic estimate reaches the threshold. A set whose
covariance matrix is positive definite is worth the logarithm of the determinant, less what
exploration falls short of the deviations at its points. -/
theorem exploration_penalized_outside_region {ensemble : Ensemble ℝ}
    (reached : ensemble.Reached) {configuration : Configuration ℝ}
    (valid : configuration.validate = .ok ()) :
    let coefficients := configuration.coefficients
    let acquisition := Acquisition.ofEnsemble ensemble coefficients
    let value := fun point => acquisition.exploration (acquisition.estimate point)
    let deviation := fun point => (ensemble.predict .all point).deviation
    let completed := ensemble.completed.features
    let optimistic := ensemble.optimistic coefficients.exploreRegion
    (completed = [] →
      acquisition.threshold = none ∧ ∀ point, value point = deviation point) ∧
    (completed ≠ [] →
      ∃ best before after threshold,
        completed = before ++ best :: after ∧
        (∀ other ∈ before, optimistic other < optimistic best) ∧
        (∀ other ∈ after, optimistic other ≤ optimistic best) ∧
        threshold = (ensemble.predict .completed best).mean ∧
        acquisition.threshold = some threshold ∧
        acquisition.violation (acquisition.estimate best) ≤ 0 ∧
        value best = deviation best ∧
        ∀ point,
          value point ≤ deviation point ∧
          (value point = deviation point ↔
            coefficients.penalty = 0 ∨ threshold ≤ optimistic point)) ∧
    ∀ points ≠ [],
      ∃ covariances : Matrix (Fin points.length) (Fin points.length) ℝ,
        (ensemble.predictJoint .all points).2 =
            (List.ofFn fun i => List.ofFn (covariances i)) ∧
          (covariances.PosDef →
            acquisition.jointExploration points =
              Real.log covariances.det -
                (points.map fun point => deviation point - value point).sum) := by
  intro coefficients acquisition value deviation completed optimistic
  have weights := ((Configuration.validate_eq_ok_iff configuration).1 valid).coefficients
  have region : 0 ≤ coefficients.exploreRegion := not_lt.1 weights.exploreRegion.2
  have penalty : 0 ≤ coefficients.penalty := not_lt.1 weights.penalty.2
  have threshold :
      acquisition.threshold =
        (completed.argmax optimistic).map fun best =>
          (ensemble.predict .completed best).mean :=
    Acquisition.threshold_ofEnsemble ensemble coefficients
  have unpenalized : ∀ point,
      value point = deviation point ↔
        coefficients.penalty = 0 ∨
          acquisition.violation (acquisition.estimate point) ≤ 0 := fun point =>
    Acquisition.exploration_eq_deviationFromAll_iff (acquisition.estimate point)
  refine ⟨fun empty => ?_, fun nonempty => ?_, fun points nonempty => ?_⟩
  · have absent : acquisition.threshold = none := by
      rw [threshold, empty]
      rfl
    exact ⟨absent, fun point =>
      (unpenalized point).2 (.inr (Acquisition.violation_of_threshold_none absent _))⟩
  · have found : completed.argmax optimistic ≠ none := fun absent =>
      nonempty (List.argmax_eq_none.1 absent)
    obtain ⟨best, first⟩ := Option.ne_none_iff_exists'.1 found
    obtain ⟨before, after, split, earlier, later⟩ :=
      Acquisition.exists_split_of_mem_argmax first
    rw [first, Option.map_some] at threshold
    have inside := Acquisition.violation_of_threshold_some threshold best
    have inRegion : acquisition.violation (acquisition.estimate best) ≤ 0 := by
      rw [inside, sub_nonpos]
      exact mean_le_optimistic region best
    refine ⟨best, before, after, _, split, earlier, later, rfl, threshold, inRegion,
      (unpenalized best).2 (.inr inRegion), fun point => ⟨?_, ?_⟩⟩
    · exact Acquisition.exploration_le_deviationFromAll penalty ensemble _
    · rw [unpenalized, Acquisition.violation_of_threshold_some threshold, sub_nonpos]
      rfl
  · refine ⟨kernelMatrix (ensemble.covariance .all) points,
      predictJoint_snd reached.members_ne_nil .all points, fun positive => ?_⟩
    rw [Acquisition.jointExploration_of_posDef reached.members_ne_nil nonempty positive]
    congr 3
    funext point
    exact (sub_sub_cancel _ _).symm

/-- An ensemble without points leaves every point uncertain. -/
theorem exists_fit_no_points :
    ∃ start : Ensemble ℝ,
      fit (.ofPoints [] [] 1) [] 2 RestartSearch.standard.tune PaddingRule.exact.capacity
          (.ofSeed 1) = .ok start ∧
        start.completed.features = [] ∧ ∀ point, 0 < start.covariance .all point point := by
  have rows : ∀ row ∈ (Observations.ofPoints [] [] 1 : Observations ℝ).validRows,
      row.features.length = 1 := nofun
  have lengths : ∀ point ∈ ([] : List (List ℝ)), point.length = 1 := nofun
  obtain ⟨start, fitted⟩ :=
    exists_fit RestartSearch.standard rows lengths 2 PaddingRule.exact.capacity (.ofSeed 1)
  obtain ⟨completed, pending, padding, _⟩ := fit_eq_ok fitted
  refine ⟨start, fitted, by rw [completed]; rfl, fun point => ?_⟩
  have uncertain : ∀ member ∈ start.members, 0 < member.all.covariance point point := by
    intro member found
    have conditioned := (conditioned_of_fit fitted member found).conditioned
    rw [completed, pending, padding] at conditioned
    have dimensions := GaussianProcess.mismatch?_of_fit conditioned
    rw [Member.condition, GaussianProcess.fit, dimensions] at conditioned
    rw [← Except.ok.inj conditioned]
    change 0 < member.completed.parameters.covariance point point
    rw [KernelParameters.covariance_self]
    exact (proper_of_fit fitted member found).amplitude_pos
  have members := members_ne_nil_of_fit fitted
  rw [covariance, Moments.mean, Scalar.sum_real, Scalar.ofNat_real, List.length_map]
  refine div_pos (List.sum_pos _ ?_ (by simpa using members)) ?_
  · intro term inTerms
    obtain ⟨member, found, rfl⟩ := List.mem_map.1 inTerms
    exact add_pos_of_pos_of_nonneg (uncertain member found) (mul_self_nonneg _)
  · exact_mod_cast List.length_pos_of_ne_nil members

theorem exploration_penalized_outside_region_of_two_points_and_none :
    (∃ (ensemble : Ensemble ℝ) (best : List ℝ),
      ensemble.Reached ∧ (Configuration.standard : Configuration ℝ).validate = .ok () ∧
        ensemble.completed.features = [[0], [1]] ∧ best ∈ ensemble.completed.features ∧
          let acquisition := Acquisition.ofEnsemble ensemble .standard
          acquisition.threshold = some (ensemble.predict .completed best).mean ∧
            acquisition.exploration (acquisition.estimate best) =
              (ensemble.predict .all best).deviation) ∧
    ∃ (ensemble : Ensemble ℝ) (covariances : Matrix (Fin 1) (Fin 1) ℝ),
      ensemble.Reached ∧ ensemble.completed.features = [] ∧ covariances.PosDef ∧
        let acquisition := Acquisition.ofEnsemble ensemble .standard
        acquisition.threshold = none ∧
          acquisition.jointExploration [[5]] = Real.log covariances.det := by
  constructor
  · obtain ⟨ensemble, fitted, _⟩ := exists_fit_two_points
    have reached : ensemble.Reached := ⟨_, _, _, _, _, _, ensemble, [], fitted, rfl⟩
    have features : ensemble.completed.features = [[0], [1]] := by
      rw [(fit_eq_ok fitted).1]
      rfl
    have region :=
      (exploration_penalized_outside_region reached Configuration.validate_standard).2.1
    obtain ⟨best, before, after, _, split, _, _, rfl, threshold, _, value, _⟩ :=
      region (by simp [features])
    refine ⟨ensemble, best, reached, Configuration.validate_standard, features, ?_, threshold,
      value⟩
    rw [split]
    simp
  · obtain ⟨ensemble, fitted, features, uncertain⟩ := exists_fit_no_points
    have reached : ensemble.Reached := ⟨_, _, _, _, _, _, ensemble, [], fitted, rfl⟩
    obtain ⟨unpenalized, _, sets⟩ :=
      exploration_penalized_outside_region reached Configuration.validate_standard
    obtain ⟨threshold, value⟩ := unpenalized features
    obtain ⟨covariances, joint, explored⟩ := sets [[5]] (by simp)
    have entry : covariances = ensemble.covariance .all [5] [5] • 1 := by
      rw [predictJoint_eq reached.members_ne_nil] at joint
      ext i j
      obtain rfl : i = (0 : Fin 1) := Subsingleton.elim (α := Fin 1) i 0
      obtain rfl : j = (0 : Fin 1) := Subsingleton.elim (α := Fin 1) j 0
      simpa [GaussianProcess.matrixOf] using joint.symm
    have positive : covariances.PosDef := entry ▸ Matrix.PosDef.one.smul (uncertain [5])
    refine ⟨ensemble, covariances, reached, features, positive, threshold, ?_⟩
    refine (explored positive).trans ?_
    simp [value]

end Ensemble

end BatchBayes
