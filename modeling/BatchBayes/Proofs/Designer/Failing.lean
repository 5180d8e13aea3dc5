import BatchBayes.Proofs.Designer.Complete
/-!
Calls that fail. An update that is refused changes nothing. One that finds no model has
entered its trials, and may be made again without entering them twice. A suggestion that
fails leaves the books as they are.
-/

namespace BatchBayes

namespace Designer

variable {K : Type} [Scalar K] [DecimalText K] {designer : Designer K}
  {completed active : List (Trial K)}

/-! ## Updates that are refused -/

theorem update_of_outside {trial : Trial K} (member : trial ∈ completed ++ active)
    (outside : designer.problem.space.contains trial.assignment = false) :
    ∃ id message,
      designer.update completed active =
        (.error (.invalidTrial id message), designer) := by
  cases misplaced : designer.misplaced? (completed ++ active) with
  | some failure =>
      obtain ⟨id, message, rfl⟩ := invalidTrial_of_misplaced misplaced
      exact ⟨id, message, update_of_misplaced misplaced⟩
  | none =>
      have inside := misplaced?_eq_none_iff.1 misplaced trial member
      rw [Space.contains, inside] at outside
      cases outside

theorem update_of_unfinished {trial : Trial K} (member : trial ∈ completed)
    (unfinished : trial.isCompleted = false) :
    ∃ id message,
      designer.update completed active =
        (.error (.invalidTrial id message), designer) := by
  cases misplaced : designer.misplaced? (completed ++ active) with
  | some failure =>
      obtain ⟨id, message, rfl⟩ := invalidTrial_of_misplaced misplaced
      exact ⟨id, message, update_of_misplaced misplaced⟩
  | none =>
      have refused : ∃ id message,
          designer.ledger.record designer.metric completed active =
            .error (.invalidTrial id message) :=
        Ledger.record_of_unfinished member unfinished
      obtain ⟨id, message, refused⟩ := refused
      exact ⟨id, message, update_of_refused misplaced refused⟩

/-- An update is refused just where one of its trials lies outside the space or one of
its completed trials has not completed. -/
theorem update_refused_iff :
    (∃ id message,
      (designer.update completed active).1 = .error (.invalidTrial id message)) ↔
    (∃ trial ∈ completed ++ active,
        designer.problem.space.contains trial.assignment = false) ∨
      ∃ trial ∈ completed, trial.isCompleted = false := by
  constructor
  · rintro ⟨id, message, refused⟩
    by_contra sound
    rw [not_or] at sound
    obtain ⟨inside, finished⟩ := sound
    have noneMisplaced : designer.misplaced? (completed ++ active) = none := by
      rw [misplaced?_eq_none_iff]
      intro trial member
      by_contra violation
      apply inside
      refine ⟨trial, member, ?_⟩
      rw [Space.contains, Option.isNone_eq_false_iff, Option.isSome_iff_ne_none]
      exact violation
    rcases Ledger.record_cases designer.metric designer.ledger completed active with
      ⟨unfinished, _⟩ | ⟨_, recorded⟩
    · exact finished unfinished
    · rw [update_of_entered noneMisplaced recorded] at refused
      exact settle_ne_invalidTrial _ id message refused
  · rintro (⟨trial, member, outside⟩ | ⟨trial, member, unfinished⟩)
    · obtain ⟨id, message, refused⟩ := update_of_outside member outside
      exact ⟨id, message, by rw [refused]⟩
    · obtain ⟨id, message, refused⟩ := update_of_unfinished member unfinished
      exact ⟨id, message, by rw [refused]⟩

theorem update_of_refusal {id : UInt64} {message : String}
    (refused : (designer.update completed active).1 =
      .error (.invalidTrial id message)) :
    (designer.update completed active).2 = designer := by
  rcases designer.update_cases completed active with
    ⟨_, _, same⟩ | ⟨_, _, _, _, _, _, _, never⟩
  · rw [same]
  · exact absurd refused (never id message)

/-! ## Updates without a model -/

/-- An update that is not refused leaves the books that take its trials. -/
theorem record_of_update
    (entered : ∀ id message,
      (designer.update completed active).1 ≠ .error (.invalidTrial id message)) :
    ∃ added,
      designer.ledger.record designer.metric completed active =
        .ok (added, (designer.update completed active).2.ledger) := by
  rcases designer.update_cases completed active with
    ⟨id, message, refused⟩ | ⟨added, ledger, key, ensemble, _, recorded, changes, _⟩
  · exact absurd (by rw [refused]) (entered id message)
  · rw [changes]
    exact ⟨added, recorded⟩

/-- Where the search for a model fails, the designer has the books of an update that
succeeds and no ensemble. -/
structure Unmodelled (designer : Designer K) (completed active : List (Trial K))
    (next : Designer K) : Prop where
  ensemble : next.ensemble = none
  ledger : ∃ added,
    designer.ledger.record designer.metric completed active = .ok (added, next.ledger)
  /-- Another designer with the same books, for which the update succeeds, has the same
  books afterwards. -/
  asSucceeded : ∀ other : Designer K,
    other.metric = designer.metric → other.ledger = designer.ledger →
      (other.update completed active).1 = .ok () →
        (other.update completed active).2.ledger = next.ledger
  /-- The update made again enters nothing. -/
  again : next.ledger.record next.metric completed active = .ok (0, next.ledger)
  ledgerAgain : (next.update completed active).2.ledger = next.ledger

theorem ensemble_of_settle {failure : Failure}
    (failed : designer.settle.1 = .error failure) :
    designer.settle.2.ensemble = designer.ensemble := by
  obtain ⟨refitFailed, same⟩ := refit_of_settle failed
  rw [same]
  rcases designer.refit_cases with
    ⟨_, key, refitted⟩ | ⟨_, _, _, key, _, _, _, _, refitted⟩
  · rw [refitted]
  · rw [refitted] at refitFailed
    cases refitFailed

theorem ensemble_of_modelFit {error : FitError}
    (failed : (designer.update completed active).1 = .error (.modelFit error)) :
    (designer.update completed active).2.ensemble = none := by
  cases misplaced : designer.misplaced? (completed ++ active) with
  | some failure =>
      obtain ⟨id, message, rfl⟩ := invalidTrial_of_misplaced misplaced
      rw [update_of_misplaced misplaced] at failed
      cases failed
  | none =>
      rcases Ledger.record_cases designer.metric designer.ledger completed active with
        ⟨_, id, message, refused⟩ | ⟨_, recorded⟩
      · rw [update_of_refused misplaced refused] at failed
        cases failed
      · rw [update_of_entered misplaced recorded] at failed ⊢
        exact ensemble_of_settle failed

theorem unmodelled_of_update {error : FitError}
    (failed : (designer.update completed active).1 = .error (.modelFit error)) :
    Unmodelled designer completed active (designer.update completed active).2 := by
  have entered : ∀ id message,
      (designer.update completed active).1 ≠ .error (.invalidTrial id message) := by
    rw [failed]
    exact fun _ _ => nofun
  obtain ⟨added, recorded⟩ := record_of_update entered
  have metric : (designer.update completed active).2.metric = designer.metric :=
    (designer.after_setup (.update completed active)).2.1
  have again := Ledger.record_again recorded
  rw [← metric] at again
  refine ⟨ensemble_of_modelFit failed, ⟨added, recorded⟩, ?_, again, ?_⟩
  · intro other sameMetric sameLedger success
    have otherEntered : ∀ id message,
        (other.update completed active).1 ≠ .error (.invalidTrial id message) := by
      rw [success]
      exact fun _ _ => nofun
    obtain ⟨otherAdded, otherRecorded⟩ := record_of_update otherEntered
    rw [sameMetric, sameLedger, recorded] at otherRecorded
    exact (congrArg Prod.snd (Except.ok.inj otherRecorded)).symm
  -- The update made again may be refused or not; its books are the same either way.
  · generalize (designer.update completed active).2 = next at again ⊢
    rcases next.update_cases completed active with
      ⟨_, _, refused⟩ | ⟨_, ledger, _, _, _, recordedAgain, changes, _⟩
    · rw [refused]
    · rw [again] at recordedAgain
      rw [changes]
      exact (congrArg Prod.snd (Except.ok.inj recordedAgain)).symm

/-! ## Suggestions -/

theorem ledger_of_suggest {count : Nat} {failure : Failure}
    (failed : (designer.suggest count).1 = .error failure) :
    (designer.suggest count).2.ledger = designer.ledger := by
  obtain ⟨key, ensemble, seedRequests, ledger, changes, marked⟩ :=
    designer.suggest_changes count
  rw [changes]
  rcases marked with ⟨⟨_, suggestions, success⟩, _⟩ | ⟨_, same⟩
  · rw [failed] at success
    cases success
  · exact same

/-! ## All failing calls -/

/-- Failing calls lose nothing. An update is refused just where a trial lies outside the
space or a completed one has not completed, and a refused update changes nothing. One
that finds no model leaves the books of an update that succeeds, without an ensemble. A
suggestion that fails leaves the books as they are, so that trials that no batch has
looked at are still to be looked at. -/
theorem failing_calls (designer : Designer K) :
    (∀ completed active,
      ((∃ id message,
          (designer.update completed active).1 = .error (.invalidTrial id message)) ↔
        (∃ trial ∈ completed ++ active,
            designer.problem.space.contains trial.assignment = false) ∨
          ∃ trial ∈ completed, trial.isCompleted = false) ∧
      (∀ id message,
        (designer.update completed active).1 = .error (.invalidTrial id message) →
          (designer.update completed active).2 = designer) ∧
      ∀ error,
        (designer.update completed active).1 = .error (.modelFit error) →
          Unmodelled designer completed active (designer.update completed active).2) ∧
    ∀ count failure,
      (designer.suggest count).1 = .error failure →
        (designer.suggest count).2.ledger = designer.ledger ∧
          (designer.suggest count).2.ledger.hasUnseen = designer.ledger.hasUnseen := by
  refine ⟨fun completed active => ⟨update_refused_iff, ?_, ?_⟩, ?_⟩
  · intro id message refused
    exact update_of_refusal refused
  · intro error failed
    exact unmodelled_of_update failed
  · intro count failure failed
    have same := ledger_of_suggest failed
    exact ⟨same, by rw [same]⟩

section Unit

/-- A tuner that never finds parameters. -/
def failingTuner : Tuner ℝ := fun _ _ => .error .nonFiniteLikelihood

theorem fit_failingTuner (data : Observations ℝ) (pending : List (List ℝ)) (size : Nat)
    (padding : Padding) (key : Key) :
    ∃ error, Ensemble.fit data pending size failingTuner padding key = .error error := by
  have each : ∀ child,
      (Member.fit data.unpadded padding failingTuner pending child).toOption = none :=
    fun _ => rfl
  rw [Ensemble.fit]
  simp only [each, List.filterMap_none, List.isEmpty_nil, if_true]
  exact ⟨_, rfl⟩

theorem settle_failingTuner {designer : Designer ℝ} (sound : designer.Sound)
    (tuner : designer.tuner = failingTuner) (seeded : designer.isSeeding = false) :
    ∃ error, designer.settle.1 = .error (.modelFit error) := by
  rw [settle, seeded, if_neg Bool.false_ne_true]
  rcases designer.refit_cases with
    ⟨failure, key, refitted⟩ | ⟨points, pending, fitKey, _, _, _, _, fitted, _⟩
  · obtain ⟨error, rfl⟩ := sound.refit_failure (congrArg Prod.fst refitted)
    rw [refitted]
    exact ⟨error, rfl⟩
  · obtain ⟨error, failed⟩ :=
      fit_failingTuner (designer.observations points) pending
        designer.configuration.ensembleSize.toNat designer.padding fitKey
    rw [tuner, failed] at fitted
    cases fitted

theorem failing_calls_with_failingTuner :
    ∃ designer : Designer ℝ,
      designer.Reachable ∧
        ∃ error,
          (designer.update [startTrial] []).1 = .error (.modelFit error) ∧
            Unmodelled designer [startTrial] [] (designer.update [startTrial] []).2 := by
  have objective :
      unitProblem.objective = .ok ⟨"y", .maximize, none, none⟩ := rfl
  obtain ⟨start, created, problem, _, configuration, empty, _⟩ :=
    exists_create Configuration.validate_standard objective defect?_unitSpace
  let designer := start.withTuner failingTuner
  have reachable : designer.Reachable :=
    .called (.replaceTuner failingTuner) (.created created)
  have inside : designer.misplaced? ([startTrial] ++ []) = none := by
    rw [misplaced?_eq_none_iff]
    intro trial member
    obtain rfl : trial = startTrial := by simpa using member
    change start.problem.space.violation? startTrial.assignment = none
    rw [problem]
    exact violation?_startTrial
  let next : Ledger ℝ :=
    { completed := Table.empty.insert startTrial.id startTrial
      active := []
      best := Ledger.betterOf start.metric none startTrial
      seen := 0 }
  have recorded :
      designer.ledger.record designer.metric [startTrial] [] = .ok (1, next) := by
    change start.ledger.record start.metric [startTrial] [] = .ok (1, next)
    rw [empty]
    rfl
  have sound : ({ designer with ledger := next, ensemble := none } : Designer ℝ).Sound :=
    reachable.sound.of_entered inside recorded
  have seeded :
      ({ designer with ledger := next, ensemble := none } : Designer ℝ).isSeeding =
        false := by
    change decide (1 < start.configuration.seedTrials.toNat) = false
    rw [configuration]
    rfl
  obtain ⟨error, failed⟩ := settle_failingTuner sound rfl seeded
  rw [← update_of_entered inside recorded] at failed
  exact ⟨designer, reachable, error, failed,
    ((failing_calls designer).1 [startTrial] []).2.2 error failed⟩

end Unit

end Designer

end BatchBayes
