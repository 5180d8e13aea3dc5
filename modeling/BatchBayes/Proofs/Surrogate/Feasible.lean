import Mathlib
import BatchBayes.Proofs.Random.Draws
import BatchBayes.Proofs.Surrogate.Fitting
import BatchBayes.Proofs.Surrogate.Tuning
/-!
When fitting succeeds. In exact arithmetic members with proper parameters take
every pending point of the right dimension, and the restart search fits every
data set of the right dimensions, with proper parameters only.
-/

namespace BatchBayes

namespace Member

variable {completed : Observations ℝ} {padding : Padding}
  {pending more : List (List ℝ)}

/-! ## Members -/

theorem Conditioned.pending_length {member : Member ℝ}
    (conditioned : member.Conditioned completed padding pending) :
    ∀ point ∈ pending, point.length = completed.dimension := by
  have dimensions := GaussianProcess.mismatch?_of_fit conditioned.conditioned
  rw [GaussianProcess.mismatch?_pad,
    Observations.unpadded_extend (List.length_map _),
    GaussianProcess.mismatch?_extend] at dimensions
  exact dimensions.2

/-- Points of the right dimension can be pending. -/
theorem exists_condition {process : GaussianProcess ℝ}
    (fitted :
      GaussianProcess.fit (completed.pad padding) process.parameters = .ok process)
    (proper : process.parameters.Proper)
    (lengths : ∀ point ∈ pending, point.length = completed.dimension) :
    ∃ all, condition completed padding process pending = .ok all := by
  apply GaussianProcess.exists_fit (Observations.regularFiller_pad _ padding) proper
  have dimensions := GaussianProcess.mismatch?_of_fit fitted
  rw [GaussianProcess.mismatch?_pad] at dimensions
  rw [GaussianProcess.mismatch?_pad,
    Observations.unpadded_extend (List.length_map _),
    GaussianProcess.mismatch?_extend]
  exact ⟨dimensions, lengths⟩

theorem exists_fit (search : RestartSearch ℝ) (completed : Observations ℝ)
    (padding : Padding)
    (rows : ∀ row ∈ completed.validRows,
      row.features.length = completed.dimension)
    (lengths : ∀ point ∈ pending, point.length = completed.dimension) (key : Key) :
    ∃ member, fit completed padding search.tune pending key = .ok member := by
  have regular := Observations.regularFiller_pad completed padding
  obtain ⟨parameters, tuned, process, fitted⟩ :=
    search.exists_tune regular (Observations.row_length_pad rows padding) key
  have same := GaussianProcess.parameters_of_fit fitted
  have proper : process.parameters.Proper := same ▸ RestartSearch.proper_of_tune tuned
  obtain ⟨all, conditioned⟩ := exists_condition (same.symm ▸ fitted) proper lengths
  refine ⟨⟨process, all⟩, fit_eq_ok_iff.2 ⟨⟨?_, conditioned⟩, ?_⟩⟩
  · rw [same]
    exact fitted
  · rw [same]
    exact tuned

end Member

namespace Ensemble

variable {ensemble next : Ensemble ℝ}

/-! ## Ensembles -/

/-- The parameters of every member describe a process with noise. -/
def Proper (ensemble : Ensemble ℝ) : Prop :=
  ∀ member ∈ ensemble.members, member.completed.parameters.Proper

theorem Proper.of_sameModels (proper : ensemble.Proper)
    (same : ensemble.SameModels next) : next.Proper := by
  intro member found
  have process := List.mem_map_of_mem (f := (·.completed)) found
  rw [same.members] at process
  obtain ⟨old, inMembers, equal⟩ := List.mem_map.1 process
  rw [← equal]
  exact proper old inMembers

theorem Conditioned.exists_addPending (conditioned : ensemble.Conditioned)
    (proper : ensemble.Proper) {added : List ℝ}
    (length : added.length = ensemble.completed.dimension) :
    ∃ next, ensemble.addPending added = .ok next := by
  have each : ∀ member ∈ ensemble.members,
      ∃ renewed,
        member.recondition ensemble.completed ensemble.padding
          (ensemble.pending ++ [added]) = .ok renewed := by
    intro member found
    have own := conditioned member found
    have lengths : ∀ point ∈ ensemble.pending ++ [added],
        point.length = ensemble.completed.dimension := by
      intro point inPending
      rcases List.mem_append.1 inPending with old | new
      · exact own.pending_length point old
      · rw [List.mem_singleton.1 new, length]
    obtain ⟨all, condition⟩ :=
      Member.exists_condition own.fitted (proper member found) lengths
    exact ⟨{ member with all }, by rw [Member.recondition, condition]⟩
  obtain ⟨members, success⟩ := exists_mapM_eq_ok each
  exact ⟨_, by rw [addPending, Ensemble.conditionOn, success]⟩

section Restarts

variable {search : RestartSearch ℝ} {data : Observations ℝ}
  {pending : List (List ℝ)}

theorem proper_of_fit {size : Nat} {padding : Padding} {key : Key}
    (fitted : fit data pending size search.tune padding key = .ok ensemble) :
    ensemble.Proper := by
  intro member found
  obtain ⟨memberKey, success⟩ := (fit_eq_ok fitted).2.2.2 member found
  exact RestartSearch.proper_of_tune (Member.fit_eq_ok_iff.1 success).tuned

/-- The restart search drops no member where the dimensions are right. -/
theorem exists_fit_whole (search : RestartSearch ℝ)
    (rows : ∀ row ∈ data.validRows, row.features.length = data.dimension)
    (lengths : ∀ point ∈ pending, point.length = data.dimension)
    (size : Nat) (padding : Padding) (key : Key) :
    ∃ ensemble : Ensemble ℝ,
      fit data pending size search.tune padding key = .ok ensemble ∧
        ensemble.members.length = max size 1 := by
  obtain ⟨members, success⟩ :=
    exists_mapM_eq_ok fun memberKey (_ : memberKey ∈ key.children (max size 1)) =>
      Member.exists_fit search data.unpadded padding
        (by rwa [Observations.validRows_unpadded]) lengths memberKey
  have each := (mapM_eq_ok_iff _ _ _).1 success
  have length : members.length = max size 1 := by
    rw [← each.length_eq, Key.length_children]
  have survivors :=
    survivors_eq_of_forall₂ (each.imp fun _ _ fitted => Member.fit_eq_ok_iff.1 fitted)
  refine ⟨_, fit_eq_ok_iff.2 ⟨?_, rfl⟩, ?_⟩
  · rw [survivors, Ne, ← List.length_eq_zero_iff, length]
    omega
  · rw [survivors, length]

/-- The restart search fits every data set of the right dimensions. -/
theorem exists_fit (search : RestartSearch ℝ)
    (rows : ∀ row ∈ data.validRows, row.features.length = data.dimension)
    (lengths : ∀ point ∈ pending, point.length = data.dimension)
    (size : Nat) (padding : Padding) (key : Key) :
    ∃ ensemble, fit data pending size search.tune padding key = .ok ensemble := by
  obtain ⟨ensemble, fitted, _⟩ := exists_fit_whole search rows lengths size padding key
  exact ⟨ensemble, fitted⟩

/-- An ensemble of two completed points and a pending one, with all its members. -/
theorem exists_fit_two_points :
    ∃ start : Ensemble ℝ,
      fit (.ofPoints [[0], [1]] [1, 2] 1) [[2]] 2 RestartSearch.standard.tune
          PaddingRule.powersOfTwo.capacity (.ofSeed 1) = .ok start ∧
        start.Proper ∧ start.completed.dimension = 1 ∧ start.members.length = 2 := by
  have lengths : ∀ point ∈ ([[0], [1]] : List (List ℝ)), point.length = 1 := by simp
  have pendingLengths : ∀ point ∈ ([[2]] : List (List ℝ)), point.length = 1 := by simp
  obtain ⟨start, fitted, whole⟩ :=
    exists_fit_whole RestartSearch.standard
      (Observations.row_length_ofPoints lengths [1, 2]) pendingLengths 2
      PaddingRule.powersOfTwo.capacity (.ofSeed 1)
  refine ⟨start, fitted, proper_of_fit fitted, ?_, whole⟩
  rw [(fit_eq_ok fitted).1]
  rfl

end Restarts

end Ensemble

end BatchBayes
