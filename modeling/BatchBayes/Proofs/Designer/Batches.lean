import Mathlib
import BatchBayes.Proofs.Batch.Feasible
import BatchBayes.Proofs.Batch.Prefix
import BatchBayes.Proofs.Designer.Freshness
/-!
Batches of different sizes from one designer. A smaller batch is the beginning
of a larger one, and leaves the same designer behind.
-/

namespace BatchBayes

namespace Designer

variable {K : Type} [Scalar K] [DecimalText K] {designer : Designer K}
  {few many : Nat} {suggestions : List (Suggestion K)}

theorem Chooses.take {ensemble : Ensemble K} {strategyKey fillKey : Key}
    (separate : designer.configuration.coefficients.jointExploration = false)
    (fewer : few ≤ many)
    (chooses : designer.Chooses ensemble strategyKey fillKey many suggestions) :
    designer.Chooses ensemble strategyKey fillKey few (suggestions.take few) := by
  obtain ⟨slots, last, filled, chosen, length⟩ := chooses
  rw [separate] at filled
  obtain ⟨middle, filledFew⟩ := Chooser.fill_take fewer filled
  refine ⟨slots.take few, middle, ?_, mapM_take chosen few, ?_⟩
  · rw [separate]
    exact filledFew
  · rw [List.length_take, length, Nat.min_eq_left fewer]

theorem suggestBatch_take {ensemble : Ensemble K}
    (separate : designer.configuration.coefficients.jointExploration = false)
    (fewer : few ≤ many)
    (success : (designer.suggestBatch ensemble many).1 = .ok suggestions) :
    designer.suggestBatch ensemble few =
      (.ok (suggestions.take few), (designer.suggestBatch ensemble many).2) := by
  obtain ⟨strategyKey, fillKey, key, batch⟩ := designer.exists_batchKeys ensemble
  obtain ⟨whole, ⟨found, chooses⟩ | ⟨failure, failed⟩⟩ := batch many
  · have outcome := whole found chooses
    rw [outcome] at success
    obtain rfl := Except.ok.inj success
    rw [(batch few).1 _ (chooses.take separate fewer), outcome]
  · rw [failed] at success
    cases success

/-- Past the seeds and without joint exploration, a smaller batch succeeds where
a larger one does, with the first suggestions of the larger one, and the two
leave the same designer behind. -/
theorem suggest_take (seeded : designer.isSeeding = false)
    (separate : designer.configuration.coefficients.jointExploration = false)
    (positive : 1 ≤ few) (fewer : few ≤ many)
    (success : (designer.suggest many).1 = .ok suggestions) :
    designer.suggest few =
      (.ok (suggestions.take few), (designer.suggest many).2) := by
  have fewNonzero : few ≠ 0 := by omega
  have manyNonzero : many ≠ 0 := by omega
  rw [suggest, if_neg manyNonzero, seeded] at success
  rw [suggest, suggest, if_neg fewNonzero, if_neg manyNonzero, seeded]
  simp only [Bool.false_eq_true, if_false] at success ⊢
  cases kept : designer.ensemble with
  | some ensemble =>
      rw [kept] at success
      exact suggestBatch_take separate fewer success
  | none =>
      rw [kept] at success
      dsimp only at success ⊢
      rcases designer.refit_cases with
        ⟨failure, key, refitted⟩ |
        ⟨points, pending, fitKey, key, ensemble, _, _, _, refitted⟩
      · rw [refitted] at success
        cases success
      · rw [refitted] at success ⊢
        exact suggestBatch_take separate fewer success

/-! ## Whole batches -/

section Exact

variable {designer : Designer ℝ} {search : RestartSearch ℝ}

theorem Fresh.conditioned {ensemble : Ensemble ℝ} (fresh : designer.Fresh ensemble)
    (tuner : designer.tuner = search.tune) :
    ensemble.Conditioned ∧ ensemble.Proper ∧
      ensemble.completed.dimension = designer.problem.space.dimension := by
  obtain ⟨_, ⟨points, _, completed⟩, _, key, fitted⟩ := fresh
  rw [tuner] at fitted
  refine ⟨Ensemble.conditioned_of_fit fitted, Ensemble.proper_of_fit fitted, ?_⟩
  rw [completed]
  rfl

/-- In exact arithmetic every batch of single slots is suggested, where the space
holds what feature vectors stand for. -/
theorem exists_suggestBatch {ensemble : Ensemble ℝ}
    (fresh : designer.Fresh ensemble) (tuner : designer.tuner = search.tune)
    (separate : designer.configuration.coefficients.jointExploration = false)
    (inside : ∀ features,
      designer.problem.space.violation? (designer.problem.space.decode features) =
        none)
    (count : Nat) :
    ∃ suggestions,
      (designer.suggestBatch ensemble count).1 = .ok suggestions := by
  obtain ⟨conditioned, proper, dimension⟩ := fresh.conditioned tuner
  obtain ⟨strategyKey, fillKey, key, batch⟩ := designer.exists_batchKeys ensemble
  obtain ⟨slots, last, filled⟩ :=
    Chooser.exists_fill (rfl : designer.chooser.domain = _) conditioned proper
      dimension
      ((Strategy.draw designer.configuration.coefficients strategyKey).plan count
        designer.ledger.hasUnseen false)
      fillKey
  have each : ∀ slot ∈ slots,
      ∃ suggestion, designer.suggestionOf slot = .ok suggestion := by
    intro slot _
    rw [suggestionOf, inside slot.features]
    exact ⟨_, rfl⟩
  obtain ⟨suggestions, chosen⟩ := exists_mapM_eq_ok each
  have chooses :
      designer.Chooses ensemble strategyKey fillKey count suggestions := by
    refine ⟨slots, last, ?_, chosen, ?_⟩
    · rw [separate]
      exact filled
    · rw [← ((mapM_eq_ok_iff _ _ _).1 chosen).length_eq, Chooser.length_fill filled]
  exact ⟨suggestions, by rw [(batch count).1 suggestions chooses]⟩

end Exact

theorem suggest_take_one_of_two :
    ∃ (designer : Designer ℝ) (suggestions : List (Suggestion ℝ)),
      designer.isSeeding = false ∧
        designer.configuration.coefficients.jointExploration = false ∧
        (designer.suggest 2).1 = .ok suggestions ∧
        designer.suggest 1 =
          (.ok (suggestions.take 1), (designer.suggest 2).2) := by
  obtain ⟨designer, reachable, space, configuration, ⟨search, tuner⟩, ensemble,
    kept⟩ := exists_reachable_with_ensemble
  have fresh := reachable.consistent.fresh ensemble kept
  have separate :
      designer.configuration.coefficients.jointExploration = false := by
    rw [configuration]
    rfl
  have inside : ∀ features,
      designer.problem.space.violation? (designer.problem.space.decode features) =
        none := by
    rw [space]
    exact violation?_decode_unitSpace
  obtain ⟨suggestions, success⟩ :=
    exists_suggestBatch fresh tuner separate inside 2
  have suggested : (designer.suggest 2).1 = .ok suggestions := by
    rw [suggest, if_neg (by decide), fresh.seeded, kept]
    exact success
  exact ⟨designer, suggestions, fresh.seeded, separate, suggested,
    suggest_take fresh.seeded separate (by decide) (by decide) suggested⟩

end Designer

end BatchBayes
