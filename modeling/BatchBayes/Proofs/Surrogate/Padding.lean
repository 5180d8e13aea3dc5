import Mathlib
import BatchBayes.Proofs.Surrogate.Fitting
import BatchBayes.Proofs.Surrogate.Tuning
/-!
Padding cannot be observed: whether a process or an ensemble can be fitted, the
parameters that are chosen and all predictions are those of the data without
filler, and stay so while pending points come and go.
-/

namespace BatchBayes

namespace GaussianProcess

/-- Two ways to pad lead to processes that agree. -/
theorem fit_pad_agree (data : Observations ℝ) (first second : Padding)
    {parameters : KernelParameters ℝ} (amplitude : 0 ≤ parameters.amplitude) :
    Agree SamePredictions (fit (data.pad first) parameters)
      (fit (data.pad second) parameters) := by
  have left :=
    fit_agree_unpadded (Observations.regularFiller_pad data first) amplitude
  have right :=
    fit_agree_unpadded (Observations.regularFiller_pad data second) amplitude
  rw [Observations.unpadded_pad] at left right
  exact SamePredictions.agree_trans left (SamePredictions.agree_symm right)

end GaussianProcess

/-! ## Tuning -/

namespace RestartSearch

theorem value?_pad (data : Observations ℝ) (first second : Padding) :
    value? (data.pad first) = value? (data.pad second) := by
  funext logs
  have agree :=
    GaussianProcess.fit_pad_agree data first second
      (KernelParameters.proper_ofLogs logs).amplitude_pos.le
  rw [value?, value?]
  rcases agree.cases_ok_error with ⟨_, _, left, right, same⟩ | ⟨_, _, left, right⟩
  · rw [left, right]
    dsimp only
    rw [same.logLikelihood]
  · rw [left, right]

theorem tune_pad (search : RestartSearch ℝ) (data : Observations ℝ)
    (first second : Padding) (key : Key) :
    search.tune (data.pad first) key = search.tune (data.pad second) key := by
  refine tune_congr (value?_pad data first second) ?_ rfl search key
  rw [(Observations.regularFiller_pad data first).numValid_eq,
    (Observations.regularFiller_pad data second).numValid_eq,
    Observations.validRows_pad, Observations.validRows_pad]

end RestartSearch

/-! ## Ensembles -/

namespace Member

/-- Two members that no prediction tells apart. -/
structure Matching (first second : Member ℝ) : Prop where
  amplitude_nonneg : 0 ≤ first.completed.parameters.amplitude
  completed : first.completed.SamePredictions second.completed
  all : first.all.SamePredictions second.all

theorem condition_agree (completed : Observations ℝ) (left right : Padding)
    {first second : GaussianProcess ℝ}
    (amplitude : 0 ≤ first.parameters.amplitude)
    (same : first.SamePredictions second) (pending : List (List ℝ)) :
    Agree GaussianProcess.SamePredictions
      (condition completed left first pending)
      (condition completed right second pending) := by
  rw [condition, condition]
  simp only [← same.predict, ← same.parameters]
  exact GaussianProcess.fit_pad_agree _ left right amplitude

theorem fit_agree (search : RestartSearch ℝ) (completed : Observations ℝ)
    (left right : Padding) (pending : List (List ℝ)) (key : Key) :
    Agree Matching (fit completed left search.tune pending key)
      (fit completed right search.tune pending key) := by
  rw [fit, fit, search.tune_pad completed left right]
  cases tuned : search.tune (completed.pad right) key with
  | error failure => exact .error
  | ok parameters =>
      have amplitude := (RestartSearch.proper_of_tune tuned).amplitude_pos.le
      dsimp only
      rcases (GaussianProcess.fit_pad_agree completed left right
        amplitude).cases_ok_error with
        ⟨first, second, firstFit, secondFit, same⟩ | ⟨_, _, firstFit, secondFit⟩
      · have nonneg : 0 ≤ first.parameters.amplitude := by
          rw [GaussianProcess.parameters_of_fit firstFit]
          exact amplitude
        rw [firstFit, secondFit]
        dsimp only
        rcases (condition_agree completed left right nonneg same
          pending).cases_ok_error with
          ⟨_, _, firstAll, secondAll, sameAll⟩ | ⟨_, _, firstAll, secondAll⟩
        · rw [firstAll, secondAll]
          exact .ok ⟨nonneg, same, sameAll⟩
        · rw [firstAll, secondAll]
          exact .error
      · rw [firstFit, secondFit]
        exact .error

theorem recondition_agree (completed : Observations ℝ) (left right : Padding)
    (pending : List (List ℝ)) {first second : Member ℝ}
    (same : first.Matching second) :
    Agree Matching (recondition completed left pending first)
      (recondition completed right pending second) := by
  have views :=
    condition_agree completed left right same.amplitude_nonneg same.completed
      pending
  rw [recondition, recondition]
  rcases views.cases_ok_error with
    ⟨_, _, firstAll, secondAll, sameAll⟩ | ⟨_, _, firstAll, secondAll⟩
  · rw [firstAll, secondAll]
    exact .ok ⟨same.amplitude_nonneg, same.completed, sameAll⟩
  · rw [firstAll, secondAll]
    exact .error

theorem Matching.process {first second : Member ℝ}
    (same : first.Matching second) (view : View) :
    (first.process view).SamePredictions (second.process view) := by
  cases view with
  | completed => exact same.completed
  | all => exact same.all

end Member

namespace Ensemble

/-- Two ensembles with the same parameters that no prediction tells apart. -/
structure SamePredictions (first second : Ensemble ℝ) : Prop where
  parameters :
    first.members.map (·.completed.parameters) =
      second.members.map (·.completed.parameters)
  predict : ∀ view point, first.predict view point = second.predict view point
  predictJoint :
    ∀ view points, first.predictJoint view points = second.predictJoint view points

/-- Ensembles of the same points whose members match one by one. -/
structure Matching (first second : Ensemble ℝ) : Prop where
  members : List.Forall₂ Member.Matching first.members second.members
  completed : first.completed = second.completed
  pending : first.pending = second.pending

namespace Matching

variable {first second : Ensemble ℝ}

theorem samePredictions (same : first.Matching second) :
    first.SamePredictions second := by
  refine ⟨?_, fun view point => ?_, fun view points => ?_⟩
  · exact map_eq_of_forall₂ same.members fun _ _ pair => pair.completed.parameters
  · have moments :
        first.members.map (fun member => (member.process view).predict point) =
          second.members.map (fun member => (member.process view).predict point) :=
      map_eq_of_forall₂ same.members fun _ _ pair => (pair.process view).predict point
    rw [predict, predict, moments]
  · have moments :
        first.members.map (fun member => (member.process view).predictJoint points) =
          second.members.map
            (fun member => (member.process view).predictJoint points) :=
      map_eq_of_forall₂ same.members fun _ _ pair =>
        (pair.process view).predictJoint points
    rw [predictJoint, predictJoint, moments]

theorem conditionOn (same : first.Matching second) (pending : List (List ℝ)) :
    Agree Matching (first.conditionOn pending) (second.conditionOn pending) := by
  have members :=
    Agree.mapM same.members fun _ _ pair =>
      Member.recondition_agree first.completed first.padding second.padding pending
        pair
  rw [Ensemble.conditionOn, Ensemble.conditionOn, ← same.completed]
  rcases members.cases_ok_error with
    ⟨_, _, left, right, pairs⟩ | ⟨_, _, left, right⟩
  · rw [left, right]
    exact .ok ⟨pairs, rfl, rfl⟩
  · rw [left, right]
    exact .error

theorem call (same : first.Matching second) (request : PendingCall ℝ) :
    Agree Matching (first.call request) (second.call request) := by
  cases request with
  | replace pending => exact same.conditionOn pending
  | add point =>
      rw [Ensemble.call, Ensemble.call, addPending, addPending, same.pending]
      exact same.conditionOn _

/-- Matching ensembles match after any calls, of which some may fail. -/
theorem after (same : first.Matching second) (calls : List (PendingCall ℝ)) :
    (first.after calls).Matching (second.after calls) := by
  induction calls generalizing first second with
  | nil => exact same
  | cons request calls inductionHypothesis =>
      rw [Ensemble.after, Ensemble.after, List.foldl_cons, List.foldl_cons]
      rcases (same.call request).cases_ok_error with
        ⟨_, _, left, right, next⟩ | ⟨_, _, left, right⟩
      · rw [left, right]
        exact inductionHypothesis next
      · rw [left, right]
        exact inductionHypothesis same

end Matching

theorem fit_agree (search : RestartSearch ℝ) (data : Observations ℝ)
    (pending : List (List ℝ)) (size : Nat) (left right : Padding) (key : Key) :
    Agree Matching (fit data pending size search.tune left key)
      (fit data pending size search.tune right key) := by
  have members :=
    Agree.filterMap_toOption
      (fun memberKey =>
        Member.fit_agree search data.unpadded left right pending memberKey)
      (key.children (max size 1))
  rw [fit, fit]
  revert members
  generalize (key.children (max size 1)).filterMap (fun memberKey =>
    (Member.fit data.unpadded left search.tune pending memberKey).toOption) = first
  generalize (key.children (max size 1)).filterMap (fun memberKey =>
    (Member.fit data.unpadded right search.tune pending memberKey).toOption) = second
  intro members
  cases members with
  | nil => exact .error
  | cons pair pairs => exact .ok ⟨.cons pair pairs, rfl, rfl⟩

/-- Filler decides neither whether a process can be fitted nor any of its
predictions, and for ensembles neither does the padding: under any two of them
fitting fails, or it gives ensembles that stay alike under all later calls. -/
theorem padding_unobservable :
    (∀ (data : Observations ℝ) (parameters : KernelParameters ℝ),
      data.Regular →
      0 ≤ parameters.amplitude →
      Agree GaussianProcess.SamePredictions
        (GaussianProcess.fit data parameters)
        (GaussianProcess.fit data.unpadded parameters)) ∧
    ∀ (search : RestartSearch ℝ) (data : Observations ℝ)
      (pending : List (List ℝ)) (size : Nat) (left right : Padding) (key : Key),
      Agree
        (fun first second =>
          ∀ calls,
            (first.after calls).SamePredictions (second.after calls) ∧
              ∀ request,
                Agree SamePredictions ((first.after calls).call request)
                  ((second.after calls).call request))
        (fit data pending size search.tune left key)
        (fit data pending size search.tune right key) := by
  constructor
  · intro data parameters regular amplitude
    exact GaussianProcess.fit_agree_unpadded regular.regularFiller amplitude
  · intro search data pending size left right key
    refine (fit_agree search data pending size left right key).mono ?_
    intro first second same calls
    have later := same.after calls
    refine ⟨later.samePredictions, fun request => ?_⟩
    exact (later.call request).mono fun _ _ => Matching.samePredictions

theorem padding_unobservable_between_rows :
    ∃ (data : Observations ℝ) (parameters : KernelParameters ℝ),
      data.mask = [true, false, true] ∧ data.Regular ∧ 0 ≤ parameters.amplitude ∧
        Agree GaussianProcess.SamePredictions
          (GaussianProcess.fit data parameters)
          (GaussianProcess.fit data.unpadded parameters) := by
  have regular :
      Observations.Regular
        (⟨[[0], [5], [1]], [1, 7, 2], [true, false, true], 1⟩ :
          Observations ℝ) := by
    refine ⟨rfl, rfl, fun point member => ?_⟩
    simp only [List.mem_cons, List.not_mem_nil, or_false] at member
    rcases member with rfl | rfl | rfl <;> rfl
  have amplitude : 0 ≤ (KernelParameters.standard 1 : KernelParameters ℝ).amplitude :=
    zero_le_one
  exact ⟨_, _, rfl, regular, amplitude,
    padding_unobservable.1 _ _ regular amplitude⟩

end Ensemble

end BatchBayes
