import Mathlib
import BatchBayes.Proofs.Designer.Feasible
import BatchBayes.Proofs.Study.Ledger
import BatchBayes.Proofs.Surrogate.Fitting
/-!
The ensemble that a designer keeps is never stale. It is the one fitted to the
trials in the books, under way or completed, with the tuner and the padding in
place, whatever calls were made before and whichever of them failed.
-/

namespace BatchBayes

namespace Designer

variable {K : Type} [Scalar K] [DecimalText K]

/-! ## Fresh ensembles -/

/-- The designer is past its seeds and the ensemble is the one that its tuner and
its padding give for the completed trials, with the trials under way pending. -/
structure Fresh (designer : Designer K) (ensemble : Ensemble K) : Prop where
  seeded : designer.isSeeding = false
  completed :
    ∃ points,
      designer.features designer.ledger.completed.items = .ok points ∧
        ensemble.completed = designer.observations points
  pending : designer.features designer.ledger.active = .ok ensemble.pending
  fitted :
    ∃ key,
      Ensemble.fit ensemble.completed ensemble.pending
        designer.configuration.ensembleSize.toNat designer.tuner designer.padding
        key = .ok ensemble

theorem length_features {designer : Designer K} {trials : List (Trial K)}
    {points : List (List K)} (success : designer.features trials = .ok points) :
    points.length = trials.length := by
  rw [features, mapM_eq_ok_iff] at success
  exact success.length_eq.symm

omit [DecimalText K] in
theorem length_labels (metric : Metric K) (trials : List (Trial K)) :
    (Labels.ofTrials metric trials).length = trials.length := by
  rw [Labels.ofTrials]
  split
  · simp
  · simp [Labels.standardize]

/-- The known trials as data are without filler. -/
theorem unpadded_observations {designer : Designer K} {points : List (List K)}
    (success :
      designer.features designer.ledger.completed.items = .ok points) :
    (designer.observations points).unpadded = designer.observations points := by
  apply Observations.unpadded_ofPoints
  rw [length_labels, length_features success]

/-- What a fit to the known trials gives is fresh. -/
theorem fresh_of_fit {designer : Designer K} {ensemble : Ensemble K}
    {points pending : List (List K)} {key : Key}
    (seeded : designer.isSeeding = false)
    (completed : designer.features designer.ledger.completed.items = .ok points)
    (active : designer.features designer.ledger.active = .ok pending)
    (fitted :
      Ensemble.fit (designer.observations points) pending
        designer.configuration.ensembleSize.toNat designer.tuner designer.padding
        key = .ok ensemble) :
    designer.Fresh ensemble := by
  obtain ⟨sameCompleted, samePending, _, _⟩ := Ensemble.fit_eq_ok fitted
  rw [unpadded_observations completed] at sameCompleted
  refine ⟨seeded, ⟨points, completed, sameCompleted⟩, ?_, key, ?_⟩
  · rw [samePending]
    exact active
  · rw [sameCompleted, samePending]
    exact fitted

/-! ## Steps -/

/-- The books are keyed, and a kept ensemble is fresh. -/
structure Consistent (designer : Designer K) : Prop where
  keyed : designer.ledger.Keyed
  fresh : ∀ ensemble, designer.ensemble = some ensemble → designer.Fresh ensemble

variable {designer : Designer K}

/-- A designer without an ensemble is consistent if its books are. -/
theorem consistent_of_none (keyed : designer.ledger.Keyed)
    (none : designer.ensemble = none) : designer.Consistent := by
  refine ⟨keyed, fun ensemble kept => ?_⟩
  rw [none] at kept
  cases kept

theorem consistent_of_create [NormalSource K] {problem : Problem K}
    {configuration : Configuration K}
    (success : create problem configuration = .ok designer) :
    designer.Consistent := by
  obtain ⟨_, _, empty, none⟩ := create_eq_ok success
  refine consistent_of_none ?_ none
  rw [empty]
  exact Ledger.keyed_empty

/-- Changes outside of what an ensemble is fitted to keep it fresh. -/
theorem Consistent.of_changes (consistent : designer.Consistent)
    {key : Key} {seeder : Seeder K} {seedRequests : List SeedRequest}
    {maximizer : Maximizer K} {ledger : Ledger K}
    (seen : ledger = designer.ledger ∨ ledger = designer.ledger.markSeen) :
    ({ designer with key, seeder, seedRequests, maximizer, ledger } :
      Designer K).Consistent := by
  rcases seen with rfl | rfl
  · refine ⟨consistent.keyed, fun ensemble kept => ?_⟩
    obtain ⟨seeded, completed, pending, fitted⟩ := consistent.fresh ensemble kept
    exact ⟨seeded, completed, pending, fitted⟩
  · refine ⟨consistent.keyed, fun ensemble kept => ?_⟩
    obtain ⟨seeded, completed, pending, fitted⟩ := consistent.fresh ensemble kept
    exact ⟨seeded, completed, pending, fitted⟩

/-- Past the seeds refitting keeps a fresh ensemble, or fails and keeps the one
there was. -/
theorem Consistent.refit (consistent : designer.Consistent)
    (seeded : designer.isSeeding = false) : designer.refit.2.Consistent := by
  rcases designer.refit_cases with
    ⟨failure, key, refitted⟩ |
    ⟨points, pending, fitKey, key, ensemble, completed, active, fitted, refitted⟩
  · rw [refitted]
    exact consistent.of_changes (.inl rfl)
  · rw [refitted]
    refine ⟨consistent.keyed, fun kept same => ?_⟩
    obtain rfl := Option.some.inj same
    obtain ⟨seeded, completed, pending, fitted⟩ :=
      fresh_of_fit seeded completed active fitted
    exact ⟨seeded, completed, pending, fitted⟩

/-- The ensemble that a batch is chosen over is fresh. -/
theorem Consistent.fresh_of_ready (consistent : designer.Consistent)
    (seeded : designer.isSeeding = false) {ensemble : Ensemble K}
    (made : designer.ready.1 = .ok ensemble) : designer.Fresh ensemble := by
  rw [ready] at made
  cases kept : designer.ensemble with
  | some other =>
      rw [kept] at made
      obtain rfl := Except.ok.inj made
      exact consistent.fresh other kept
  | none =>
      rw [kept] at made
      rcases designer.refit_cases with
        ⟨failure, key, refitted⟩ |
        ⟨points, pending, fitKey, key, other, completed, active, fitted, refitted⟩
      · rw [refitted] at made
        cases made
      · rw [refitted] at made
        obtain rfl := Except.ok.inj made
        exact fresh_of_fit seeded completed active fitted

theorem Consistent.update (consistent : designer.Consistent)
    (completed active : List (Trial K)) :
    (designer.update completed active).2.Consistent := by
  cases misplaced : designer.misplaced? (completed ++ active) with
  | some failure =>
      rw [update_of_misplaced misplaced]
      exact consistent
  | none =>
      cases recorded : designer.ledger.record designer.metric completed active with
      | error failure =>
          rw [update_of_refused misplaced recorded]
          exact consistent
      | ok books =>
          obtain ⟨added, ledger⟩ := books
          have entered :
              ({ designer with ledger, ensemble := none } :
                Designer K).Consistent :=
            consistent_of_none (consistent.keyed.record recorded) rfl
          rw [update_of_entered misplaced recorded, settle]
          cases seeding :
              ({ designer with ledger, ensemble := none } : Designer K).isSeeding with
          | true => exact entered
          | false => exact entered.refit seeding

theorem Consistent.suggest (consistent : designer.Consistent) (count : Nat) :
    (designer.suggest count).2.Consistent := by
  have batch : ∀ {designer : Designer K} (ensemble : Ensemble K),
      designer.Consistent → (designer.suggestBatch ensemble count).2.Consistent := by
    intro designer ensemble consistent
    obtain ⟨key, ledger, changes, seen⟩ :=
      designer.suggestBatch_changes ensemble count
    rw [changes]
    exact consistent.of_changes seen
  rw [Designer.suggest]
  by_cases zero : count = 0
  · rw [if_pos zero]
    exact consistent
  · rw [if_neg zero]
    by_cases seeding : designer.isSeeding
    · rw [if_pos seeding]
      obtain ⟨used, key, changes⟩ := designer.suggestSeeds_changes count
      rw [changes]
      exact consistent.of_changes (.inl rfl)
    · rw [if_neg seeding]
      have refitted := consistent.refit (by simpa using seeding)
      cases kept : designer.ensemble with
      | some ensemble => exact batch ensemble consistent
      | none =>
          dsimp only
          split
          case h_1 failure next failed =>
              rw [failed] at refitted
              exact refitted
          case h_2 ensemble next success =>
              rw [success] at refitted
              exact batch ensemble refitted

/-- Every call keeps the designer consistent, also one that fails. -/
theorem Consistent.after (consistent : designer.Consistent) (call : Call K) :
    (designer.after call).Consistent := by
  cases call with
  | update completed active => exact consistent.update completed active
  | suggest count => exact consistent.suggest count
  | replaceSeeder seeder => exact consistent.of_changes (.inl rfl)
  | replaceTuner tuner => exact consistent_of_none consistent.keyed rfl
  | replaceMaximizer maximizer => exact consistent.of_changes (.inl rfl)
  | replacePadding padding => exact consistent_of_none consistent.keyed rfl

theorem Reachable.consistent [NormalSource K] (reachable : designer.Reachable) :
    designer.Consistent := by
  induction reachable with
  | created success => exact consistent_of_create success
  | called call _ inductionHypothesis => exact inductionHypothesis.after call

/-- Whatever was called before, and whichever calls failed: the completed trials
are listed by increasing id, and an ensemble that is kept is the one fitted to
just these trials and to the trials under way now, with the tuner and the padding
in place now. -/
theorem ensemble_never_stale [NormalSource K] (reachable : designer.Reachable) :
    (designer.ledger.completed.items.Pairwise fun first second =>
      first.id < second.id) ∧
      ∀ ensemble, designer.ensemble = some ensemble → designer.Fresh ensemble :=
  ⟨reachable.consistent.keyed.pairwise_id_lt, reachable.consistent.fresh⟩

theorem ensemble_never_stale_after_update :
    ∃ (designer : Designer ℝ) (ensemble : Ensemble ℝ),
      designer.Reachable ∧ designer.ensemble = some ensemble ∧
        designer.Fresh ensemble := by
  obtain ⟨designer, reachable, _, _, _, ensemble, kept⟩ :=
    exists_reachable_with_ensemble
  exact ⟨designer, ensemble, reachable, kept,
    (ensemble_never_stale reachable).2 ensemble kept⟩

end Designer

end BatchBayes
