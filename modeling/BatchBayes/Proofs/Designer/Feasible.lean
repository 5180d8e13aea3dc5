import Mathlib
import BatchBayes.Proofs.Designer.Run
import BatchBayes.Proofs.Designer.Settings
import BatchBayes.Proofs.Space.Dimension
import BatchBayes.Proofs.Space.Inside
import BatchBayes.Proofs.Surrogate.Feasible
/-!
In exact arithmetic a designer that tunes by restarts finds an ensemble whenever
the known trials have features.
-/

namespace BatchBayes

/-! ## Settings -/

theorem Coefficients.valid_standard_real : (standard : Coefficients ℝ).Valid := by
  constructor
  case upperBound | exploreRegion | penalty =>
    refine ⟨rfl, ?_⟩
    norm_num [standard]
  case upperBoundChance | explorationChance =>
    norm_num [IsChance, Scalar.within, standard]

/-- The standard settings pass their own check. -/
theorem Configuration.validate_standard :
    (standard : Configuration ℝ).validate = .ok () := by
  rw [validate_eq_ok_iff]
  exact
    { coefficients := Coefficients.valid_standard_real
      ensembleSize := by decide
      annotationSpace := by decide
      acquisitionEvaluations := by decide
      tuningRestarts := by decide }

namespace Designer

theorem exists_create {K : Type} [Scalar K] [DecimalText K] [NormalSource K]
    {problem : Problem K} {configuration : Configuration K} {metric : Metric K}
    (valid : configuration.validate = .ok ())
    (objective : problem.objective = .ok metric)
    (sound : problem.space.defect? = none) :
    ∃ designer,
      create problem configuration = .ok designer ∧
        designer.problem = problem ∧ designer.metric = metric ∧
        designer.configuration = configuration ∧ designer.ledger = .empty ∧
        ∃ search : RestartSearch K, designer.tuner = search.tune := by
  rw [create, valid]
  dsimp only
  rw [objective]
  dsimp only
  rw [sound]
  exact ⟨_, rfl, rfl, rfl, rfl, rfl, _, rfl⟩

/-! ## Ensembles -/

variable {designer : Designer ℝ} {search : RestartSearch ℝ}

theorem length_of_mem_features {K : Type} [Scalar K] [DecimalText K]
    {designer : Designer K} {trials : List (Trial K)} {points : List (List K)}
    (success : designer.features trials = .ok points) :
    ∀ point ∈ points, point.length = designer.problem.space.dimension := by
  rw [features, mapM_eq_ok_iff] at success
  intro point member
  obtain ⟨trial, _, encoded⟩ := exists_of_mem_of_forall₂ success member
  exact Space.length_encode encoded

/-- Refitting finds an ensemble where the known trials have features. -/
theorem exists_refit (tuner : designer.tuner = search.tune)
    {points pending : List (List ℝ)}
    (completed : designer.features designer.ledger.completed.items = .ok points)
    (active : designer.features designer.ledger.active = .ok pending) :
    ∃ key ensemble,
      designer.refit =
        (.ok ensemble, { designer with key, ensemble := some ensemble }) := by
  obtain ⟨used, kept, taken⟩ := designer.exists_nextKey
  have rows : ∀ row ∈ (designer.observations points).validRows,
      row.features.length = (designer.observations points).dimension := by
    intro row member
    exact length_of_mem_features completed _
      (Observations.features_mem_of_mem_rows (List.mem_filter.1 member).1)
  obtain ⟨ensemble, fitted⟩ :=
    Ensemble.exists_fit search rows (length_of_mem_features active)
      designer.configuration.ensembleSize.toNat designer.padding used
  rw [← tuner, observations] at fitted
  refine ⟨kept, ensemble, ?_⟩
  rw [refit, taken, completed, active]
  dsimp only
  rw [fitted]

/-- An update past the seeds keeps an ensemble where the known trials have
features. -/
theorem exists_update (tuner : designer.tuner = search.tune)
    {completed active : List (Trial ℝ)} {added : Nat} {ledger : Ledger ℝ}
    {points pending : List (List ℝ)}
    (inside : designer.misplaced? (completed ++ active) = none)
    (recorded :
      designer.ledger.record designer.metric completed active =
        .ok (added, ledger))
    (seeded : designer.configuration.seedTrials.toNat ≤ ledger.numKnown)
    (completedFeatures : designer.features ledger.completed.items = .ok points)
    (activeFeatures : designer.features ledger.active = .ok pending) :
    ∃ key ensemble,
      designer.update completed active =
        (.ok (), { designer with ledger, key, ensemble := some ensemble }) := by
  have unseeded :
      ({ designer with ledger, ensemble := none } : Designer ℝ).isSeeding =
        false := by
    simpa [isSeeding] using seeded
  have refitted : ∃ key ensemble,
      ({ designer with ledger, ensemble := none } : Designer ℝ).refit =
        (.ok ensemble,
          { designer with ledger, key, ensemble := some ensemble }) :=
    exists_refit tuner completedFeatures activeFeatures
  obtain ⟨key, ensemble, refitted⟩ := refitted
  refine ⟨key, ensemble, ?_⟩
  rw [update_of_entered inside recorded, settle, unseeded,
    if_neg Bool.false_ne_true, refitted]
  rfl

/-! ## A first update -/

/-- One completed trial inside the space is enough for an ensemble, where no more
than one is to be a seed. -/
theorem exists_first_update {problem : Problem ℝ} {configuration : Configuration ℝ}
    {metric : Metric ℝ} {trial : Trial ℝ}
    (valid : configuration.validate = .ok ())
    (objective : problem.objective = .ok metric)
    (sound : problem.space.defect? = none)
    (few : configuration.seedTrials.toNat ≤ 1) (ended : trial.isCompleted = true)
    (inside : problem.space.violation? trial.assignment = none) :
    ∃ (start : Designer ℝ) (search : RestartSearch ℝ) (ensemble : Ensemble ℝ),
      create problem configuration = .ok start ∧
        (start.update [trial] []).1 = .ok () ∧
        (start.after (.update [trial] [])).problem = problem ∧
        (start.after (.update [trial] [])).configuration = configuration ∧
        (start.after (.update [trial] [])).tuner = search.tune ∧
        (start.after (.update [trial] [])).ensemble = some ensemble := by
  obtain ⟨start, created, sameProblem, metric, sameConfiguration, ledger, search,
    tuner⟩ := exists_create valid objective sound
  obtain ⟨point, encoded⟩ := Space.exists_encode sound inside
  let books : Ledger ℝ :=
    { completed := Table.empty.insert trial.id trial
      active := []
      best := Ledger.betterOf start.metric none trial
      seen := 0 }
  have recorded : start.ledger.record start.metric [trial] [] = .ok (1, books) := by
    rw [ledger, Ledger.record, List.find?_cons_of_neg (by simp [ended])]
    rfl
  have entered : start.misplaced? ([trial] ++ []) = none := by
    simp [misplaced?, sameProblem, inside]
  have features : start.features books.completed.items = .ok [point] := by
    have items : books.completed.items = [trial] := rfl
    simp [Designer.features, items, sameProblem, encoded, pure, Except.pure, bind,
      Except.bind]
  have seeded : start.configuration.seedTrials.toNat ≤ books.numKnown := by
    rw [sameConfiguration]
    exact few
  have underWay : start.features books.active = .ok [] := rfl
  obtain ⟨key, ensemble, updated⟩ :=
    exists_update tuner entered recorded seeded features underWay
  refine ⟨start, search, ensemble, created, ?_⟩
  rw [after, updated]
  exact ⟨rfl, sameProblem, sameConfiguration, tuner, rfl⟩

section Unit

/-- The interval from zero to one. -/
noncomputable def unitSpace : Space ℝ :=
  ⟨[⟨"x", .linear 0 1⟩]⟩

theorem defect?_unitSpace : unitSpace.defect? = none := by
  simp [unitSpace, Space.defect?, Range.defect?, Range.isOrdered]

theorem violation?_decode_unitSpace (features : List ℝ) :
    unitSpace.violation? (unitSpace.decode features) = none := by
  have found :
      (unitSpace.decode features).find? "x" =
        some (.real (Scalar.clamp
          (0 + Scalar.clamp ((features.take 1).headD 0.5) 0 1 * (1 - 0)) 0 1)) := by
    simp [unitSpace, Space.decode, Space.blocks, Range.width, Range.decode, ofUnit,
      Table.ofList, Table.insertAll, Table.insert, insertEntry, Table.find?,
      Table.empty]
  have contained := Scalar.within_clamp (zero_le_one : (0 : ℝ) ≤ 1)
  simp only [unitSpace] at found ⊢
  simp [Space.violation?, Parameter.violation?, found, Range.contains, contained]

/-- A completed trial at the start of the interval. -/
noncomputable def startTrial : Trial ℝ :=
  (Trial.start 1 (Table.empty.insert "x" (.real 0)) default).complete
    (Table.empty.insert "y" 1) default

theorem violation?_startTrial : unitSpace.violation? startTrial.assignment = none := by
  have found : startTrial.assignment.find? "x" = some (.real 0) := by
    rfl
  simp [unitSpace, Space.violation?, Parameter.violation?, found, Range.contains,
    Scalar.within]

noncomputable def unitProblem : Problem ℝ :=
  ⟨unitSpace, [⟨"y", .maximize, none, none⟩]⟩

theorem exists_unit_update :
    ∃ (start : Designer ℝ) (search : RestartSearch ℝ) (ensemble : Ensemble ℝ),
      create unitProblem .standard = .ok start ∧
        (start.update [startTrial] []).1 = .ok () ∧
        (start.after (.update [startTrial] [])).problem = unitProblem ∧
        (start.after (.update [startTrial] [])).configuration = .standard ∧
        (start.after (.update [startTrial] [])).tuner = search.tune ∧
        (start.after (.update [startTrial] [])).ensemble = some ensemble := by
  have objective :
      unitProblem.objective = .ok ⟨"y", .maximize, none, none⟩ := rfl
  have few : (1 : UInt64).toNat ≤ 1 := by decide
  exact exists_first_update Configuration.validate_standard objective defect?_unitSpace
    few rfl violation?_startTrial

theorem exists_reachable_with_ensemble :
    ∃ designer : Designer ℝ,
      designer.Reachable ∧ designer.problem.space = unitSpace ∧
        designer.configuration = .standard ∧
        (∃ search : RestartSearch ℝ, designer.tuner = search.tune) ∧
        ∃ ensemble, designer.ensemble = some ensemble := by
  obtain ⟨start, search, ensemble, created, _, problem, configuration, tuner, kept⟩ :=
    exists_unit_update
  exact ⟨start.after (.update [startTrial] []), .called _ (.created created),
    congrArg (·.space) problem, configuration, ⟨search, tuner⟩, ensemble, kept⟩

end Unit

end Designer

end BatchBayes
