import Mathlib
import BatchBayes.Proofs.Batch.Meaning
import BatchBayes.Proofs.Surrogate.Joint
/-!
What the value of a set says about its points. The determinant of the covariance
matrix is at most a power of the mean variance, and the penalties only lower the value,
so that the exponential of a set's value, taken to one point, is at most the mean of
the squared deviations.
-/

namespace BatchBayes

/-! ## Reached ensembles -/

namespace Ensemble

namespace Reached

variable {K : Type} [Scalar K] {ensemble next : Ensemble K}

theorem members_ne_nil (reached : ensemble.Reached) : ensemble.members ≠ [] := by
  obtain ⟨_, _, _, _, _, _, first, calls, fitted, rfl⟩ := reached
  exact ((conditioned_of_fit fitted).after calls).2.members_ne_nil
    (members_ne_nil_of_fit fitted)

theorem conditionOn (reached : ensemble.Reached) {pending : List (List K)}
    (success : ensemble.conditionOn pending = .ok next) : next.Reached := by
  obtain ⟨_, _, _, _, _, _, first, calls, fitted, rfl⟩ := reached
  refine ⟨_, _, _, _, _, _, first, calls ++ [.replace pending], fitted, ?_⟩
  have last : (first.after calls).after [.replace pending] = next := by
    simp only [after, List.foldl_cons, List.foldl_nil, call] at success ⊢
    rw [success]
  rw [after, List.foldl_append]
  exact last.symm

end Reached

end Ensemble

/-! ## Values of sets -/

namespace Acquisition

variable {coefficients : Coefficients ℝ} {ensemble : Ensemble ℝ}
  {points : List (List ℝ)}

theorem penalty_nonneg (nonneg : 0 ≤ coefficients.penalty) (ensemble : Ensemble ℝ)
    (estimate : Estimate ℝ) :
    0 ≤ (ofEnsemble ensemble coefficients).penalty estimate := by
  rw [penalty, Scalar.max_real]
  exact mul_nonneg nonneg (le_max_right _ _)

theorem covarianceMatrix_spec (members : ensemble.members ≠ [])
    (points : List (List ℝ)) :
    let matrix := LowerHalf.ofRows (ensemble.predictJoint .all points).2
    matrix.IsTriangular ∧ matrix.length = points.length ∧
      matrix.diagonal =
        points.map fun point => ensemble.covariance .all point point := by
  dsimp only
  rw [Ensemble.predictJoint_eq members, LowerHalf.ofRows_matrixOf]
  exact ⟨LowerHalf.isTriangular_ofItems _ _ points, LowerHalf.length_ofItems _ _ points,
    LowerHalf.diagonal_ofItems _ _ points⟩

theorem jointExploration_of_ne_nil (nonempty : points ≠ []) :
    (ofEnsemble ensemble coefficients).jointExploration points =
      match (LowerHalf.ofRows (ensemble.predictJoint .all points).2).cholesky? with
      | none => -Scalar.infinity
      | some factor =>
          2.0 * factor.logPivots -
            Scalar.sum
              (points.map fun point =>
                (ofEnsemble ensemble coefficients).penalty
                  ((ofEnsemble ensemble coefficients).estimate point)) := by
  have same : (ofEnsemble ensemble coefficients).ensemble = ensemble := rfl
  rw [jointExploration, if_neg (by simpa using nonempty), same]
  obtain ⟨_, matrix⟩ := ensemble.predictJoint .all points
  dsimp only
  cases (LowerHalf.ofRows matrix).cholesky? <;> rfl

theorem sum_penalty_nonneg (nonneg : 0 ≤ coefficients.penalty) (ensemble : Ensemble ℝ)
    (points : List (List ℝ)) :
    0 ≤
      Scalar.sum
        (points.map fun point =>
          (ofEnsemble ensemble coefficients).penalty
            ((ofEnsemble ensemble coefficients).estimate point)) := by
  rw [Scalar.sum_real]
  apply List.sum_nonneg
  intro penalty member
  obtain ⟨point, _, rfl⟩ := List.mem_map.1 member
  exact penalty_nonneg nonneg ensemble _

theorem jointExploration_le (nonneg : 0 ≤ coefficients.penalty) (nonempty : points ≠ [])
    {factor : LowerHalf ℝ}
    (success :
      (LowerHalf.ofRows (ensemble.predictJoint .all points).2).cholesky? =
        some factor) :
    (ofEnsemble ensemble coefficients).jointExploration points ≤
      2 * factor.logPivots := by
  -- Penalties only lower the value of a set.
  have penalties := sum_penalty_nonneg nonneg ensemble points
  rw [jointExploration_of_ne_nil nonempty, success]
  norm_num
  exact penalties

/-- What the value of a set says about the deviations of its points. The set is worth
least where its covariance matrix is not positive, and otherwise the exponential of its
value, taken to one point, is at most the mean of the squared deviations. -/
def BoundedByDeviations (coefficients : Coefficients ℝ) (ensemble : Ensemble ℝ)
    (points : List (List ℝ)) (deviations : List ℝ) : Prop :=
  let value := (ofEnsemble ensemble coefficients).jointExploration points
  let matrix := LowerHalf.ofRows (ensemble.predictJoint .all points).2
  (¬ matrix.PositiveDefinite ∧ value = -Scalar.infinity) ∨
    (matrix.PositiveDefinite ∧
      Real.exp (value / points.length) ≤ Moments.mean (deviations.map (· ^ 2)))

theorem boundedByDeviations_predict (members : ensemble.members ≠ [])
    (nonneg : 0 ≤ coefficients.penalty) (nonempty : points ≠ []) :
    BoundedByDeviations coefficients ensemble points
      (points.map fun point => (ensemble.predict .all point).deviation) := by
  obtain ⟨shape, length, diagonal⟩ := covarianceMatrix_spec members points
  rw [BoundedByDeviations, ← LowerHalf.cholesky?_isSome_iff shape]
  cases success :
      (LowerHalf.ofRows (ensemble.predictJoint .all points).2).cholesky? with
  | none =>
      refine .inl ⟨by simp, ?_⟩
      rw [jointExploration_of_ne_nil nonempty, success]
  | some factor =>
      refine .inr ⟨rfl, ?_⟩
      have someMatrix : LowerHalf.ofRows (ensemble.predictJoint .all points).2 ≠ [] := by
        rwa [← List.length_pos_iff, length, List.length_pos_iff]
      have bound :=
        LowerHalf.exp_logPivots_le shape success someMatrix
          (jointExploration_le nonneg nonempty success)
      have variances := Ensemble.mean_covariance_self_le members .all points
      rw [length, diagonal] at bound
      rw [Moments.mean, Scalar.sum_real, Scalar.ofNat_real, List.length_map]
        at variances
      rw [List.map_map]
      exact bound.trans variances

end Acquisition

/-! ## Groups -/

namespace Ensemble

/-- At every ensemble reached by fitting and by changes of its pending points, and for
coefficients that do not reward leaving the region to explore, the value of a set of
points is bounded by their deviations. The slots of each group of a filled plan that are
chosen together share one value, that of their points at an ensemble reached with the
points of the earlier groups, and this value is bounded by the deviations that the slots
record. -/
theorem exp_joint_value_le_mean_sq_deviation {ensemble : Ensemble ℝ}
    (reached : ensemble.Reached) {coefficients : Coefficients ℝ}
    (nonneg : 0 ≤ coefficients.penalty) :
    (∀ points ≠ [],
      Acquisition.BoundedByDeviations coefficients ensemble points
        (points.map fun point => (ensemble.predict .all point).deviation)) ∧
    ∀ chooser : Chooser ℝ,
      chooser.coefficients = coefficients →
      ∀ (plan : List SlotGroup) (key : Key) (slots : List (Slot ℝ))
        (last : Ensemble ℝ),
        chooser.fill ensemble plan key = .ok (slots, last) →
        ∃ parts : List (List (Slot ℝ)),
          slots = parts.flatten ∧ parts.length = plan.length ∧
            ∀ (index count : Nat) (part : List (Slot ℝ)),
              plan[index]? = some (.joint count) →
              parts[index]? = some part →
              part.length = count ∧
                ∃ current : Ensemble ℝ,
                  ensemble.conditionOn
                      (ensemble.pending ++
                        (parts.take index).flatten.map (·.features)) =
                    .ok current ∧
                  (∀ slot ∈ part,
                    slot.decision.acquisition =
                      (Acquisition.ofEnsemble current coefficients).jointExploration
                        (part.map (·.features))) ∧
                  (0 < count →
                    Acquisition.BoundedByDeviations coefficients current
                      (part.map (·.features))
                      (part.map (·.decision.deviationFromAll))) := by
  constructor
  · intro points nonempty
    exact Acquisition.boundedByDeviations_predict reached.members_ne_nil nonneg nonempty
  · rintro chooser rfl plan key slots last filled
    obtain ⟨_, parts, flat, length, explained⟩ :=
      Chooser.fillGroups_spec reached.conditioned filled
    rw [Chooser.map_fst_zip_children] at length explained
    refine ⟨parts, flat, length, fun index count part inPlan inParts => ?_⟩
    obtain ⟨current, success, explains⟩ := explained index _ part inPlan inParts
    refine ⟨explains.length, current, success, explains.acquisition, fun positive => ?_⟩
    have members := (reached.conditionOn success).members_ne_nil
    have nonempty : part.map (·.features) ≠ [] := by
      rw [← List.length_pos_iff, List.length_map, explains.length]
      exact positive
    have recorded :
        (part.map (·.features)).map
            (fun point => (current.predict .all point).deviation) =
          part.map (·.decision.deviationFromAll) := by
      rw [List.map_map]
      exact List.map_congr_left fun slot member =>
        (explains.deviationFromAll slot member).symm
    rw [← recorded]
    exact Acquisition.boundedByDeviations_predict members nonneg nonempty

/-- Every plan can be filled from the line, over an ensemble of two points. -/
theorem exists_lineChooser_fill (plan : List SlotGroup) (key : Key) :
    ∃ (ensemble last : Ensemble ℝ) (slots : List (Slot ℝ)),
      ensemble.Reached ∧
        Chooser.lineChooser.fill ensemble plan key = .ok (slots, last) := by
  obtain ⟨ensemble, fitted, _, dimension, _⟩ := exists_fit_two_points
  have reached : ensemble.Reached := ⟨_, _, _, _, _, _, ensemble, [], fitted, rfl⟩
  have placed : ∀ point key,
      (Chooser.lineChooser.inDomain point key).length =
        ensemble.completed.dimension := by
    intro point key
    have sampled : ∀ generator,
        Chooser.lineChooser.domain.contains
          (Chooser.lineChooser.domain.sample generator).1 = true := fun _ => rfl
    rw [dimension]
    simpa [Chooser.lineChooser] using Chooser.contains_inDomain sampled point key
  obtain ⟨slots, last, filled⟩ :=
    Chooser.exists_fillGroups reached.conditioned (proper_of_fit fitted) placed
      (plan.zip (key.children plan.length))
  exact ⟨ensemble, last, slots, reached, filled⟩

theorem exp_joint_value_le_mean_sq_deviation_of_pair :
    ∃ (ensemble last current : Ensemble ℝ) (slots : List (Slot ℝ))
      (parts : List (List (Slot ℝ))) (part : List (Slot ℝ)),
      ensemble.Reached ∧ 0 ≤ Chooser.lineChooser.coefficients.penalty ∧
        Chooser.lineChooser.fill ensemble [.single .upperBound, .joint 2]
            (.ofSeed 1) = .ok (slots, last) ∧
        slots = parts.flatten ∧ parts[1]? = some part ∧ part.length = 2 ∧
        ensemble.conditionOn
            (ensemble.pending ++ (parts.take 1).flatten.map (·.features)) =
          .ok current ∧
        Acquisition.BoundedByDeviations Chooser.lineChooser.coefficients current
          (part.map (·.features)) (part.map (·.decision.deviationFromAll)) := by
  obtain ⟨ensemble, last, slots, reached, filled⟩ :=
    exists_lineChooser_fill [.single .upperBound, .joint 2] (.ofSeed 1)
  have nonneg : 0 ≤ Chooser.lineChooser.coefficients.penalty := by
    norm_num [Chooser.lineChooser, Coefficients.standard]
  obtain ⟨parts, flat, length, groups⟩ :=
    (exp_joint_value_le_mean_sq_deviation reached nonneg).2 Chooser.lineChooser rfl
      _ _ _ _ filled
  have inParts : 1 < parts.length := by
    rw [length]
    decide
  have second := List.getElem?_eq_getElem inParts
  obtain ⟨size, current, pending, _, bound⟩ := groups 1 2 parts[1] rfl second
  exact ⟨ensemble, last, current, slots, parts, parts[1], reached, nonneg, filled, flat,
    second, size, pending, bound (by decide)⟩

end Ensemble

end BatchBayes
