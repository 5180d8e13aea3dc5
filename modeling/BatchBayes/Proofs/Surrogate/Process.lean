import Mathlib
import BatchBayes.Proofs.Outcome
import BatchBayes.Proofs.Surrogate.Filler
import BatchBayes.Proofs.Surrogate.Rows
import BatchBayes.Surrogate.GaussianProcess
/-!
Conditioning a Gaussian process, exactly. The case without rows is no exception,
and filler changes neither the outcome nor any prediction.
-/

namespace BatchBayes

namespace KernelParameters

/-- Parameters that describe a process with noise. -/
structure Proper (parameters : KernelParameters ℝ) : Prop where
  amplitude_pos : 0 < parameters.amplitude
  lengthscales_pos : ∀ lengthscale ∈ parameters.lengthscales, 0 < lengthscale
  noise_pos : 0 < parameters.noise

theorem squaredDistance_comm (parameters : KernelParameters ℝ)
    (left right : List ℝ) :
    parameters.squaredDistance left right =
      parameters.squaredDistance right left := by
  obtain ⟨amplitude, lengthscales, noise⟩ := parameters
  simp only [squaredDistance]
  induction lengthscales generalizing left right with
  | nil => simp
  | cons lengthscale lengthscales inductionHypothesis =>
      cases left with
      | nil => simp
      | cons x left =>
          cases right with
          | nil => simp
          | cons y right =>
              simp only [List.zipWith_cons_cons, Scalar.dot_cons,
                inductionHypothesis left right]
              ring

theorem covariance_comm (parameters : KernelParameters ℝ)
    (left right : List ℝ) :
    parameters.covariance left right = parameters.covariance right left := by
  rw [covariance, covariance, squaredDistance_comm]

end KernelParameters

namespace GaussianProcess

/-! ## When a process is conditioned -/

theorem mismatch?_eq_none_iff {K : Type} [Scalar K] (data : Observations K)
    (parameters : KernelParameters K) :
    mismatch? data parameters = none ↔
      parameters.lengthscales.length = data.dimension ∧
        ∀ point ∈ data.features, point.length = data.dimension := by
  rw [mismatch?]
  split
  case isTrue different => simp [different]
  case isFalse same =>
      have equal : parameters.lengthscales.length = data.dimension := by
        simpa using same
      simp [equal]

theorem mismatch?_of_fit {K : Type} [Scalar K] {data : Observations K}
    {parameters : KernelParameters K} {process : GaussianProcess K}
    (fitted : fit data parameters = .ok process) :
    mismatch? data parameters = none := by
  rw [fit] at fitted
  split at fitted
  case h_1 => cases fitted
  case h_2 none => exact none

theorem parameters_of_fit {K : Type} [Scalar K] {data : Observations K}
    {parameters : KernelParameters K} {process : GaussianProcess K}
    (fitted : fit data parameters = .ok process) :
    process.parameters = parameters := by
  rw [fit] at fitted
  split at fitted
  · cases fitted
  · split at fitted
    · cases fitted
      rfl
    · split at fitted
      · cases fitted
      · cases fitted
        rfl

/-- Condition on rows whose dimensions are right, without a case for none. -/
def solveRows {K : Type} [Scalar K] (data : Observations K)
    (parameters : KernelParameters K) : Except FitError (GaussianProcess K) :=
  match factor? data parameters with
  | none => .error (.notPositiveDefinite data.size)
  | some factor =>
      .ok ⟨parameters, data, some ⟨factor, factor.solve (labels data)⟩⟩

/-- Two processes that no prediction tells apart. -/
structure SamePredictions (first second : GaussianProcess ℝ) : Prop where
  parameters : first.parameters = second.parameters
  predict : ∀ point, first.predict point = second.predict point
  predictJoint : ∀ points, first.predictJoint points = second.predictJoint points
  logLikelihood : first.logLikelihood = second.logLikelihood

namespace SamePredictions

variable {first second third : GaussianProcess ℝ}

theorem refl (process : GaussianProcess ℝ) : SamePredictions process process :=
  ⟨rfl, fun _ => rfl, fun _ => rfl, rfl⟩

theorem symm (same : SamePredictions first second) :
    SamePredictions second first :=
  ⟨same.parameters.symm, fun point => (same.predict point).symm,
    fun points => (same.predictJoint points).symm, same.logLikelihood.symm⟩

theorem trans (left : SamePredictions first second)
    (right : SamePredictions second third) : SamePredictions first third :=
  ⟨left.parameters.trans right.parameters,
    fun point => (left.predict point).trans (right.predict point),
    fun points => (left.predictJoint points).trans (right.predictJoint points),
    left.logLikelihood.trans right.logLikelihood⟩

variable {ε : Type} {a b c : Except ε (GaussianProcess ℝ)}

theorem agree_symm (agree : Agree SamePredictions a b) :
    Agree SamePredictions b a :=
  Agree.symm agree fun _ _ => symm

theorem agree_trans (left : Agree SamePredictions a b)
    (right : Agree SamePredictions b c) : Agree SamePredictions a c :=
  Agree.trans left right fun _ _ _ => trans

end SamePredictions

/-! ## Predictions of a conditioned process -/

section Solved

variable {K : Type} [Scalar K]

theorem predict_solved (parameters : KernelParameters K) (data : Observations K)
    (posterior : Posterior K) (point : List K) :
    predict ⟨parameters, data, some posterior⟩ point =
      let cross := crossCovariance ⟨parameters, data, some posterior⟩ point
      (Scalar.dot cross posterior.weights,
        Scalar.max
          (parameters.amplitude -
            Scalar.dot cross (posterior.factor.solve cross)) 0) := rfl

theorem predictJoint_solved (parameters : KernelParameters K)
    (data : Observations K) (posterior : Posterior K) (points : List (List K)) :
    predictJoint ⟨parameters, data, some posterior⟩ points =
      let cross := crossCovariance ⟨parameters, data, some posterior⟩
      let half := fun left right =>
        parameters.covariance left right -
          Scalar.dot (cross left) (posterior.factor.solve (cross right))
      (points.map fun point => Scalar.dot (cross point) posterior.weights,
        matrixOf (fun left right => (half left right + half right left) * 0.5)
          points) := by
  simp [predictJoint, matrixOf, Function.comp_def]

end Solved

/-- Without rows the posterior predicts what the prior does. -/
theorem samePredictions_prior {data : Observations ℝ} (rows : data.rows = [])
    (numValid : data.numValid = 0) {parameters : KernelParameters ℝ}
    (amplitude : 0 ≤ parameters.amplitude) :
    SamePredictions ⟨parameters, data, none⟩
      ⟨parameters, data, some ⟨[], []⟩⟩ := by
  have cross : ∀ point,
      crossCovariance ⟨parameters, data, some ⟨[], []⟩⟩ point = [] := by
    intro point
    simp [crossCovariance, rows]
  refine ⟨rfl, fun point => ?_, fun points => ?_, ?_⟩
  · rw [predict_solved]
    simp [cross, predict, amplitude]
  · rw [predictJoint_solved]
    have symmetric : ∀ left right,
        (parameters.covariance left right + parameters.covariance right left) *
            0.5 = parameters.covariance left right := by
      intro left right
      rw [parameters.covariance_comm right left]
      ring
    simp [cross, predictJoint, symmetric]
  · simp [logLikelihood, labels, rows, numValid, LowerHalf.logPivots,
      Scalar.sum_real]

theorem factor?_of_rows_eq_nil {data : Observations ℝ} (rows : data.rows = [])
    (parameters : KernelParameters ℝ) :
    factor? data parameters = some [] := by
  simp [factor?, jitters, gram, rows, LowerHalf.ofItems, LowerHalf.cholesky?]

/-- Data without rows is no exception to how a process is conditioned. -/
theorem fit_agree_solveRows {data : Observations ℝ}
    (regular : data.RegularFiller) {parameters : KernelParameters ℝ}
    (amplitude : 0 ≤ parameters.amplitude)
    (dimensions : mismatch? data parameters = none) :
    Agree SamePredictions (fit data parameters) (solveRows data parameters) := by
  rw [fit, dimensions]
  dsimp only
  by_cases empty : data.isEmpty
  · have noFeatures : data.features = [] := by
      simpa [Observations.isEmpty] using empty
    have noRows : data.rows = [] := by
      simpa [noFeatures] using regular.features_eq
    have noneValid : data.numValid = 0 := by
      rw [regular.numValid_eq, Observations.validRows, noRows]
      rfl
    rw [if_pos empty, solveRows, factor?_of_rows_eq_nil noRows]
    exact .ok (samePredictions_prior noRows noneValid amplitude)
  · rw [if_neg empty, solveRows]
    cases factor? data parameters with
    | none => exact .error
    | some factor => exact .ok (.refl _)

/-! ## Filler -/

section Filler

variable (data : Observations ℝ) (parameters : KernelParameters ℝ)

/-- Which rows were observed. -/
abbrev observed : List Bool :=
  data.rows.map (·.valid)

theorem count_observed :
    (observed data).count true = data.validRows.length := by
  rw [observed, Observations.validRows, List.count, List.countP_map,
    ← List.countP_eq_length_filter]
  exact List.countP_congr fun row _ => by simp

theorem gram_eq_spread (jitter : ℝ) :
    gram data parameters jitter =
      LowerHalf.spread (observed data) (gram data.unpadded parameters jitter) := by
  rw [gram, gram, Observations.rows_unpadded]
  refine LowerHalf.ofItems_eq_spread _ ?_ ?_ ?_ data.rows
  · intro row filler
    simp [selfCovariance, filler]
  · intro left right filler
    simp [rowCovariance, filler]
  · intro left right filler
    simp [rowCovariance, filler]

theorem length_gram_unpadded (jitter : ℝ) :
    (gram data.unpadded parameters jitter).length =
      (observed data).count true := by
  rw [gram, LowerHalf.length_ofItems, Observations.rows_unpadded, count_observed]

theorem factor?_eq_spread :
    factor? data parameters =
      (factor? data.unpadded parameters).map
        (LowerHalf.spread (observed data)) := by
  have each : ∀ jitter,
      (gram data parameters jitter).cholesky? =
        (gram data.unpadded parameters jitter).cholesky?.map
          (LowerHalf.spread (observed data)) := by
    intro jitter
    rw [gram_eq_spread]
    exact LowerHalf.cholesky?_spread (LowerHalf.isTriangular_ofItems _ _ _)
      (length_gram_unpadded data parameters jitter)
  rw [factor?, factor?, List.map_findSome?]
  congr 1
  funext jitter
  exact each _

theorem length_of_factor?_unpadded {factor : LowerHalf ℝ}
    (success : factor? data.unpadded parameters = some factor) :
    factor.length = (observed data).count true := by
  obtain ⟨jitter, _, found⟩ := List.exists_of_findSome?_eq_some success
  exact
    (LowerHalf.length_of_cholesky? (LowerHalf.isTriangular_ofItems _ _ _) found).trans
      (length_gram_unpadded data parameters _)

theorem labels_eq_spread :
    labels data = spread (observed data) (labels data.unpadded) := by
  rw [labels, labels, Observations.rows_unpadded, observed]
  rw [map_eq_spread (·.valid)]
  · rfl
  · intro row _ filler
    simp [filler]

theorem crossCovariance_eq_spread (posterior other : Option (Posterior ℝ))
    (point : List ℝ) :
    crossCovariance ⟨parameters, data, posterior⟩ point =
      spread (observed data)
        (crossCovariance ⟨parameters, data.unpadded, other⟩ point) := by
  rw [crossCovariance, crossCovariance, Observations.rows_unpadded, observed]
  rw [map_eq_spread (·.valid)]
  · rfl
  · intro row _ filler
    simp [filler]

theorem length_crossCovariance_unpadded (posterior : Option (Posterior ℝ))
    (point : List ℝ) :
    (crossCovariance ⟨parameters, data.unpadded, posterior⟩ point).length =
      (observed data).count true := by
  rw [crossCovariance, List.length_map, Observations.rows_unpadded, count_observed]

/-- Conditioning on data with filler succeeds just where it does without, and
predicts the same. -/
theorem solveRows_agree_unpadded {data : Observations ℝ}
    (regular : data.RegularFiller) :
    Agree SamePredictions (solveRows data parameters)
      (solveRows data.unpadded parameters) := by
  rw [solveRows, solveRows, factor?_eq_spread]
  cases success : factor? data.unpadded parameters with
  | none => exact .error
  | some factor =>
      have lengths := length_of_factor?_unpadded data parameters success
      have weights :
          (LowerHalf.spread (observed data) factor).solve (labels data) =
            spread (observed data) (factor.solve (labels data.unpadded)) := by
        rw [labels_eq_spread, LowerHalf.solve_spread lengths.le]
      simp only [Option.map_some, weights]
      generalize factor.solve (labels data.unpadded) = solution
      have cross :=
        crossCovariance_eq_spread data parameters
          (some ⟨LowerHalf.spread (observed data) factor,
            spread (observed data) solution⟩)
          (some ⟨factor, solution⟩)
      have crossLength := fun point =>
        (length_crossCovariance_unpadded data parameters
          (some ⟨factor, solution⟩) point).le
      refine .ok ⟨rfl, fun point => ?_, fun points => ?_, ?_⟩
      · rw [predict_solved, predict_solved]
        dsimp only
        rw [cross, LowerHalf.solve_spread lengths.le,
          dot_spread (crossLength point), dot_spread (crossLength point)]
      · rw [predictJoint_solved, predictJoint_solved]
        dsimp only
        simp only [cross, LowerHalf.solve_spread lengths.le,
          dot_spread (crossLength _)]
      · have labelsLength :
            (labels data.unpadded).length ≤ (observed data).count true := by
          rw [labels, List.length_map, Observations.rows_unpadded, count_observed]
        simp only [logLikelihood]
        rw [labels_eq_spread, dot_spread labelsLength,
          LowerHalf.logPivots_spread lengths.le, regular.numValid_eq,
          (Observations.regularFiller_unpadded data).numValid_eq,
          Observations.validRows_unpadded]

theorem mismatch?_unpadded {data : Observations ℝ}
    (regular : data.RegularFiller) :
    mismatch? data.unpadded parameters = none ↔
      mismatch? data parameters = none := by
  rw [mismatch?_eq_none_iff, mismatch?_eq_none_iff, ← regular.features_eq]
  refine and_congr_right fun _ => ⟨fun valid point member => ?_, fun all point member => ?_⟩
  · obtain ⟨row, inRows, rfl⟩ := List.mem_map.1 member
    cases marked : row.valid with
    | false => exact regular.filler_length row inRows marked
    | true =>
        exact valid row.features
          (List.mem_map_of_mem (List.mem_filter.2 ⟨inRows, marked⟩))
  · obtain ⟨row, inRows, rfl⟩ := List.mem_map.1 member
    exact all row.features (List.mem_map_of_mem (List.mem_filter.1 inRows).1)

/-- Conditioning on data with filler is conditioning on its observed rows. -/
theorem fit_agree_solveRows_unpadded {data : Observations ℝ}
    (regular : data.RegularFiller) {parameters : KernelParameters ℝ}
    (amplitude : 0 ≤ parameters.amplitude)
    (dimensions : mismatch? data parameters = none) :
    Agree SamePredictions (fit data parameters)
      (solveRows data.unpadded parameters) :=
  SamePredictions.agree_trans (fit_agree_solveRows regular amplitude dimensions)
    (solveRows_agree_unpadded parameters regular)

/-- Filler changes neither whether a process can be conditioned nor what it
predicts. -/
theorem fit_agree_unpadded {data : Observations ℝ}
    (regular : data.RegularFiller) {parameters : KernelParameters ℝ}
    (amplitude : 0 ≤ parameters.amplitude) :
    Agree SamePredictions (fit data parameters)
      (fit data.unpadded parameters) := by
  have same := mismatch?_unpadded parameters regular
  cases dimensions : mismatch? data parameters with
  | some failure =>
      have other : mismatch? data.unpadded parameters ≠ none := by
        rw [Ne, same, dimensions]
        simp
      obtain ⟨failure', found⟩ := Option.ne_none_iff_exists'.1 other
      rw [fit, fit, dimensions, found]
      exact .error
  | none =>
      have filled := fit_agree_solveRows_unpadded regular amplitude dimensions
      have kept :=
        fit_agree_solveRows (Observations.regularFiller_unpadded data) amplitude
          (same.2 dimensions)
      exact SamePredictions.agree_trans filled (SamePredictions.agree_symm kept)

/-- The observed rows of data that fits the parameters. -/
theorem complete_unpadded {data : Observations ℝ}
    (regular : data.RegularFiller) {parameters : KernelParameters ℝ}
    (dimensions : mismatch? data parameters = none) :
    data.unpadded.Complete := by
  have lengths := ((mismatch?_eq_none_iff data parameters).1 dimensions).2
  refine ⟨fun row member => ?_, fun row member => ?_⟩
  · rw [Observations.rows_unpadded] at member
    exact Observations.valid_of_mem_validRows member
  · rw [Observations.rows_unpadded] at member
    apply lengths
    rw [← regular.features_eq]
    exact List.mem_map_of_mem (List.mem_filter.1 member).1

end Filler

end GaussianProcess

end BatchBayes
