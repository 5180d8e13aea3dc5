import BatchBayes.Proofs.Designer.Correspondence
import BatchBayes.Proofs.Designer.Feasible
import BatchBayes.Proofs.Doubles
import BatchBayes.Proofs.Study.Mirror
/-!
Maximizing and minimizing mirror each other: a designer of the mirror image of a study
gives the same replies, call by call.
-/

namespace BatchBayes

/-! ## New designers -/

theorem Problem.objective_mirror {K : Type} [Scalar K] (problem : Problem K) :
    problem.mirror.objective = problem.objective.map Metric.mirror := by
  rw [objective, objective, mirror]
  rcases problem.metrics with _ | ⟨metric, _ | ⟨other, metrics⟩⟩
  · rfl
  · rfl
  · simp [Except.map]

namespace Designer

variable {K : Type} [Scalar K] [DecimalText K]

/-- The trials of a call in the mirror. -/
def Call.mirror (name : String) : Call K → Call K
  | update completed active =>
      update (completed.map (Trial.mirror name)) (active.map (Trial.mirror name))
  | call => call

/-- The mirror image of a designer that has not been called. -/
def mirror (designer : Designer K) : Designer K :=
  designer.withStudy (designer.problem.metrics.map Metric.mirror)
    designer.metric.mirror designer.ledger

theorem create_mirror [NormalSource K] (problem : Problem K)
    (configuration : Configuration K) :
    create problem.mirror configuration =
      (create problem configuration).map mirror := by
  have space : problem.mirror.space = problem.space := rfl
  rw [create, create, problem.objective_mirror, space]
  cases configuration.validate with
  | error failure => rfl
  | ok _ =>
      dsimp only
      cases problem.objective with
      | error failure => rfl
      | ok metric =>
          dsimp only [Except.map]
          cases problem.space.defect? with
          | some error => rfl
          | none =>
              dsimp only
              generalize (Key.ofSeed configuration.seed).split = pair
              rfl

omit [DecimalText K] in
theorem Call.matches_mirror (name : String) (call : Call K) :
    call.Matches (.mirror name) (call.mirror name) := by
  have images : ∀ trials : List (Trial K),
      List.Forall₂ (fun trial image => image = trial.mirror name) trials
        (trials.map (Trial.mirror name)) := by
    intro trials
    rw [List.forall₂_map_right_iff, List.forall₂_same]
    exact fun _ _ => rfl
  cases call with
  | update completed active => exact .update (images completed) (images active)
  | suggest count => exact .suggest count
  | replaceSeeder seeder => exact .replaceSeeder seeder
  | replaceTuner tuner => exact .replaceTuner tuner
  | replaceMaximizer maximizer => exact .replaceMaximizer maximizer
  | replacePadding padding => exact .replacePadding padding

variable [ExactNegation K]

theorem corresponds_mirror [NormalSource K] {problem : Problem K}
    {configuration : Configuration K} {start : Designer K}
    (created : create problem configuration = .ok start) :
    Corresponds (.mirror start.metric.name) start start.mirror := by
  obtain ⟨_, _, empty, _⟩ := create_eq_ok created
  refine .intro (Correspondence.faithful_mirror _ start.metric) ?_
  rw [empty]
  exact ⟨.nil, .nil, rfl, rfl⟩

/-- Replace the goal of a problem by its opposite, its bounds by the negated ones on the
other side, and every objective value by its negation. Either neither problem has a
designer, for the same reason, or the two designers give the same replies to all calls,
whatever seeder, tuner and maximizer are set on the way: the same suggestions with the
same annotations, the same failures, and the same id of the best trial. -/
theorem mirror_symmetry [NormalSource K] (problem : Problem K)
    (configuration : Configuration K) :
    (∃ failure,
      create problem configuration = .error failure ∧
        create problem.mirror configuration = .error failure) ∨
    ∃ start image,
      create problem configuration = .ok start ∧
        create problem.mirror configuration = .ok image ∧
        ∀ calls,
          image.replies (calls.map (Call.mirror start.metric.name)) =
            start.replies calls := by
  rw [create_mirror]
  cases created : create problem configuration with
  | error failure => exact .inl ⟨failure, rfl, rfl⟩
  | ok start =>
      refine .inr ⟨start, start.mirror, rfl, rfl, fun calls => ?_⟩
      have pairs :
          List.Forall₂ (Call.Matches (.mirror start.metric.name)) calls
            (calls.map (Call.mirror start.metric.name)) := by
        rw [List.forall₂_map_right_iff, List.forall₂_same]
        exact fun call _ => call.matches_mirror _
      exact (corresponds_mirror created).replies_eq
        (Correspondence.keepsActiveIds_mirror _)
        (Correspondence.keepsBestId_mirror _) pairs

section Doubles

/-- A maximum to be found over the doubles from zero to one. -/
def doubleProblem : Problem Float :=
  ⟨⟨[⟨"x", .linear 0 1⟩]⟩, [⟨"y", .maximize, some (-1), none⟩]⟩

def doubleTrial (id : UInt64) (place value : Float) : Trial Float :=
  (Trial.start id (Table.empty.insert "x" (.real place)) default).complete
    (Table.empty.insert "y" value) default

/-- The study of maxima above minus one and the study of minima below one. -/
theorem mirror_symmetry_of_doubles :
    ∃ start image : Designer Float,
      create doubleProblem .standard = .ok start ∧
        create ⟨doubleProblem.space, [⟨"y", .minimize, none, some (- -1)⟩]⟩
          .standard = .ok image ∧
        image.replies
            [.update [(doubleTrial 1 0.25 2).mirror "y",
              (doubleTrial 2 0.75 (-3)).mirror "y"] [], .suggest 2] =
          start.replies
            [.update [doubleTrial 1 0.25 2, doubleTrial 2 0.75 (-3)] [],
              .suggest 2] := by
  have valid : (Configuration.standard : Configuration Float).validate = .ok () := by
    have defect : (Configuration.standard : Configuration Float).defect? = none := by
      decide +kernel
    rw [Configuration.validate, defect]
  have sound : doubleProblem.space.defect? = none := by
    have parameter : (Range.linear 0 1 : Range Float).defect? = none := by
      decide +kernel
    rw [Space.defect?, doubleProblem]
    simp [parameter]
  obtain ⟨start, created, _, metric, _⟩ := exists_create valid rfl sound
  rcases mirror_symmetry doubleProblem .standard with
    ⟨failure, failed, _⟩ | ⟨other, image, otherCreated, imageCreated, same⟩
  · rw [created] at failed
    cases failed
  · rw [created] at otherCreated
    obtain rfl := Except.ok.inj otherCreated
    have replies := same [.update [doubleTrial 1 0.25 2, doubleTrial 2 0.75 (-3)] [],
      .suggest 2]
    rw [metric] at replies
    exact ⟨start, image, created, imageCreated, replies⟩

end Doubles

end Designer

end BatchBayes
