import Mathlib
import BatchBayes.Proofs.Surrogate.Conditioning
import BatchBayes.Surrogate.Tuning
/-!
The search for kernel parameters. It sees of the data only the likelihoods, and
in exact arithmetic it always finds parameters, and only such as the data can be
conditioned with.
-/

namespace BatchBayes

/-! ## Parameters from logarithms -/

/-- The exponential undoes the logarithm of a positive number, and the parameters to
start from are positive. -/
class ExactLogarithm (K : Type) [Scalar K] : Prop where
  exp_log {x : K} : 0 < x → Scalar.exp (Scalar.log x) = x
  standard_pos : (0 : K) < 1 ∧ (0 : K) < 0.5 ∧ (0 : K) < 1e-4

instance : ExactLogarithm ℝ where
  exp_log := Real.exp_log
  standard_pos := by norm_num

namespace KernelParameters

theorem proper_ofLogs (logs : List ℝ) : (ofLogs logs).Proper := by
  have positive : ∀ value ∈ logs.map Real.exp, 0 < value := by
    intro value member
    obtain ⟨log, _, rfl⟩ := List.mem_map.1 member
    exact Real.exp_pos log
  refine ⟨?_, fun lengthscale member => ?_, ?_⟩
  · cases logs with
    | nil => exact one_pos
    | cons log logs => exact Real.exp_pos log
  · exact positive lengthscale (List.mem_of_mem_tail (List.mem_of_mem_dropLast member))
  · change 0 < (logs.map Real.exp).getLastD 1
    rw [List.getLastD_eq_getLast?]
    cases last : (logs.map Real.exp).getLast? with
    | none => exact one_pos
    | some value => exact positive value (List.mem_of_getLast? last)

theorem proper_standard (dimension : Nat) :
    (standard dimension : KernelParameters ℝ).Proper := by
  refine ⟨one_pos, fun lengthscale member => ?_, ?_⟩
  · rw [List.eq_of_mem_replicate member]
    norm_num
  · norm_num [standard]

theorem ofLogs_eq {K : Type} [Scalar K] (first : K) (middle : List K) (last : K) :
    ofLogs (first :: (middle ++ [last])) =
      ⟨Scalar.exp first, middle.map Scalar.exp, Scalar.exp last⟩ := by
  simp only [ofLogs, List.map_cons, List.map_append, List.map_nil]
  rw [List.headD_cons, List.tail_cons, List.dropLast_concat, ← List.cons_append,
    List.getLastD_concat]

/-- Logarithms lose nothing of positive parameters. -/
theorem ofLogs_toLogs {K : Type} [Scalar K] [ExactLogarithm K]
    {parameters : KernelParameters K} (amplitude_pos : 0 < parameters.amplitude)
    (lengthscales_pos : ∀ lengthscale ∈ parameters.lengthscales, 0 < lengthscale)
    (noise_pos : 0 < parameters.noise) : ofLogs parameters.toLogs = parameters := by
  have middle :
      (parameters.lengthscales.map Scalar.log).map Scalar.exp =
        parameters.lengthscales := by
    rw [List.map_map]
    refine (List.map_congr_left fun lengthscale member => ?_).trans
      (List.map_id parameters.lengthscales)
    exact ExactLogarithm.exp_log (lengthscales_pos lengthscale member)
  rw [toLogs, ofLogs_eq, ExactLogarithm.exp_log amplitude_pos,
    ExactLogarithm.exp_log noise_pos, middle]

/-- The standard parameters come back from their logarithms. -/
theorem ofLogs_toLogs_standard {K : Type} [Scalar K] [ExactLogarithm K]
    (dimension : Nat) :
    ofLogs (standard dimension : KernelParameters K).toLogs = standard dimension := by
  obtain ⟨amplitude, lengthscale, noise⟩ := (ExactLogarithm.standard_pos : (0 : K) < 1 ∧ _)
  refine ofLogs_toLogs amplitude (fun other member => ?_) noise
  rw [List.eq_of_mem_replicate member]
  exact lengthscale

end KernelParameters

namespace RestartSearch

/-! ## What the search sees -/

section Congruence

variable {K : Type} [Scalar K] {first second : Observations K}

theorem better_congr (values : value? first = value? second) :
    better first = better second := by
  funext best logs
  simp only [better, values]

theorem moveCoordinate_congr (values : value? first = value? second) :
    moveCoordinate first = moveCoordinate second := by
  funext step best coordinate
  simp only [moveCoordinate, values]

theorem refine_congr (values : value? first = value? second)
    (box : List (K × K)) (sweeps : Nat) (step : K) (best : Scored K) :
    refine first box sweeps step best = refine second box sweeps step best := by
  induction sweeps generalizing step best with
  | zero => rfl
  | succ sweeps inductionHypothesis =>
      rw [refine, refine, inductionHypothesis, sweep, sweep,
        moveCoordinate_congr values]

/-- The search sees of the data only its likelihoods, its dimension and how
many rows were observed. -/
theorem tune_congr (values : value? first = value? second)
    (numValid : first.numValid = second.numValid)
    (dimension : first.dimension = second.dimension)
    (search : RestartSearch K) (key : Key) :
    search.tune first key = search.tune second key := by
  simp only [tune, numValid, dimension, better_congr values,
    refine_congr values]

end Congruence

theorem proper_of_tune {search : RestartSearch ℝ} {data : Observations ℝ}
    {key : Key} {parameters : KernelParameters ℝ}
    (tuned : search.tune data key = .ok parameters) : parameters.Proper := by
  rw [tune] at tuned
  split at tuned
  · cases tuned
    exact KernelParameters.proper_standard _
  · split at tuned
    · cases tuned
    · cases tuned
      exact KernelParameters.proper_ofLogs _

/-! ## What the search finds -/

section Reached

variable {K : Type} [Scalar K] {data : Observations K}

/-- The value that goes with the logarithms is the one they reach. -/
def Reached (data : Observations K) (best : Scored K) : Prop :=
  value? data best.1 = some best.2

theorem exists_fit_of_reached {best : Scored K} (reached : Reached data best) :
    ∃ process, GaussianProcess.fit data (.ofLogs best.1) = .ok process := by
  rw [Reached, value?] at reached
  cases fitted : GaussianProcess.fit data (.ofLogs best.1) with
  | error failure => simp [fitted] at reached
  | ok process => exact ⟨process, rfl⟩

theorem better_some {best : Scored K} (reached : Reached data best)
    (logs : List K) :
    ∃ next, better data (some best) logs = some next ∧ Reached data next := by
  cases value : value? data logs with
  | none => exact ⟨best, by simp only [better, value], reached⟩
  | some likelihood =>
      by_cases improved : best.2 < likelihood
      · refine ⟨(logs, likelihood), ?_, value⟩
        simp only [better, value, if_pos improved]
      · refine ⟨best, ?_, reached⟩
        simp only [better, value, if_neg improved]

theorem foldl_better {best : Scored K} (reached : Reached data best)
    (starts : List (List K)) :
    ∃ next,
      starts.foldl (better data) (some best) = some next ∧ Reached data next := by
  induction starts generalizing best with
  | nil => exact ⟨best, rfl, reached⟩
  | cons logs starts inductionHypothesis =>
      obtain ⟨next, step, reachedNext⟩ := better_some reached logs
      rw [List.foldl_cons, step]
      exact inductionHypothesis reachedNext

/-- A move that is made leads to what its clamped coordinate reaches, above the best
point so far. -/
theorem moveCoordinate_cases (data : Observations K) (step : K) (best : Scored K)
    (index : Nat) (low high : K) :
    moveCoordinate data step best (index, low, high) = best ∨
      ∃ coordinate value,
        value? data (best.1.set index (Scalar.clamp coordinate low high)) = some value ∧
          best.2 < value ∧
          moveCoordinate data step best (index, low, high) =
            (best.1.set index (Scalar.clamp coordinate low high), value) := by
  rw [moveCoordinate]
  dsimp only
  rw [Option.getD_eq_iff]
  generalize found : List.findSome? _ _ = next
  cases next with
  | none => exact .inl (.inr ⟨rfl, rfl⟩)
  | some next =>
      obtain ⟨direction, _, success⟩ := List.exists_of_findSome?_eq_some found
      obtain ⟨value, valued, improved⟩ := Option.bind_eq_some_iff.1 success
      split at improved
      case isTrue above =>
          cases improved
          exact .inr ⟨_, value, valued, above, rfl⟩
      case isFalse => cases improved

theorem moveCoordinate_reached {best : Scored K} (reached : Reached data best)
    (step : K) (coordinate : Nat × K × K) :
    Reached data (moveCoordinate data step best coordinate) := by
  obtain ⟨index, low, high⟩ := coordinate
  rcases moveCoordinate_cases data step best index low high with
    kept | ⟨_, _, valued, _, moved⟩
  · rw [kept]
    exact reached
  · rw [moved]
    exact valued

theorem refine_reached {best : Scored K} (reached : Reached data best)
    (box : List (K × K)) (sweeps : Nat) (step : K) :
    Reached data (refine data box sweeps step best) := by
  induction sweeps generalizing step best with
  | zero => exact reached
  | succ sweeps inductionHypothesis =>
      rw [refine]
      apply inductionHypothesis
      rw [sweep]
      exact List.foldlRecOn _ _ reached fun best reachedBest entry _ =>
        moveCoordinate_reached reachedBest step _

end Reached

section Found

variable {data : Observations ℝ}

theorem value?_isSome {logs : List ℝ} {process : GaussianProcess ℝ}
    (fitted : GaussianProcess.fit data (.ofLogs logs) = .ok process) :
    ∃ value, value? data logs = some value := by
  rw [value?, fitted]
  exact ⟨_, rfl⟩

/-- The search finds parameters for data of the right dimensions, and the data
can be conditioned with them. -/
theorem exists_tune (search : RestartSearch ℝ) (regular : data.RegularFiller)
    (lengths : ∀ point ∈ data.features, point.length = data.dimension)
    (key : Key) :
    ∃ parameters,
      search.tune data key = .ok parameters ∧
        ∃ process, GaussianProcess.fit data parameters = .ok process := by
  have standard :
      GaussianProcess.mismatch? data (KernelParameters.standard data.dimension) =
        none := by
    rw [GaussianProcess.mismatch?_eq_none_iff]
    exact ⟨List.length_replicate, lengths⟩
  have properStandard := KernelParameters.proper_standard data.dimension
  have fittedStandard :=
    GaussianProcess.exists_fit regular properStandard standard
  rw [tune]
  by_cases noneValid : data.numValid = 0
  · rw [if_pos noneValid]
    exact ⟨_, rfl, fittedStandard⟩
  · rw [if_neg noneValid]
    rw [← KernelParameters.ofLogs_toLogs_standard] at fittedStandard
    obtain ⟨process, fitted⟩ := fittedStandard
    obtain ⟨value, valued⟩ := value?_isSome fitted
    have reachedStandard :
        Reached data ((KernelParameters.standard data.dimension).toLogs, value) :=
      valued
    obtain ⟨best, found, reached⟩ :=
      foldl_better reachedStandard
        (Generator.times (drawStart (search.bounds.box data.dimension))
          (search.restarts - 1) key.generator).1
    have first :
        better data none (KernelParameters.standard data.dimension).toLogs =
          some ((KernelParameters.standard data.dimension).toLogs, value) := by
      simp only [better, valued]
    rw [starts, List.foldl_cons, first, found]
    exact ⟨_, rfl, exists_fit_of_reached (refine_reached reached _ _ _)⟩

end Found

end RestartSearch

end BatchBayes
