import BatchBayes.Proofs.Designer.Correspondence
import BatchBayes.Proofs.Designer.Feasible
/-!
What a designer learns from trials. Of a completed trial that is its id, its values at
the names of the space and its usable objective; of a trial under way it is the values
alone. Nothing else about the history shows in the replies.
-/

namespace BatchBayes

variable {K : Type} [Scalar K] [DecimalText K]

/-! ## Evidence -/

/-- Two completed trials tell a designer the same. -/
structure Trial.SameEvidence (space : Space K) (metric : Metric K)
    (first second : Trial K) : Prop where
  id : second.id = first.id
  isCompleted : second.isCompleted = first.isCompleted
  values : space.SameValues first.assignment second.assignment
  usableObjective? :
    second.usableObjective? metric.name = first.usableObjective? metric.name

/-- Completed trials stand for others that tell the same, and trials under way for
others at the same place. -/
def Correspondence.evidence (space : Space K) (metric : Metric K) :
    Correspondence K where
  completed := Trial.SameEvidence space metric
  active first second := space.SameValues first.assignment second.assignment
  best first second := second = first

omit [DecimalText K] in
theorem Labels.oriented_congr (metric : Metric K) {first second : Trial K}
    (usable :
      second.usableObjective? metric.name = first.usableObjective? metric.name) :
    oriented metric second = oriented metric first := by
  rw [oriented, oriented, usable]

omit [DecimalText K] in
theorem Ledger.betterOf_congr (metric : Metric K) (best : Option (UInt64 × K))
    {first second : Trial K} (id : second.id = first.id)
    (usable :
      second.usableObjective? metric.name = first.usableObjective? metric.name) :
    betterOf metric best second = betterOf metric best first := by
  unfold betterOf
  rw [usable, id]

omit [DecimalText K] in
theorem Correspondence.faithful_evidence (space : Space K) (metric : Metric K) :
    (evidence space metric).Faithful space metric metric where
  id same := same.id
  isCompleted same := same.isCompleted
  values same := same.values
  oriented same := Labels.oriented_congr metric same.usableObjective?
  activeValues same := same
  betterOf := by
    rintro _ best first second rfl same
    exact Ledger.betterOf_congr metric best same.id same.usableObjective?

omit [DecimalText K] in
theorem Correspondence.keepsBestId_evidence (space : Space K) (metric : Metric K) :
    (evidence space metric).KeepsBestId := by
  rintro best _ rfl
  rfl

omit [DecimalText K] in
theorem Correspondence.books_evidence (space : Space K) (metric : Metric K)
    (ledger : Ledger K) : (evidence space metric).Books ledger ledger where
  completed :=
    List.forall₂_same.2 fun _ _ => ⟨rfl, rfl, rfl, fun _ _ => rfl, rfl⟩
  active := List.forall₂_same.2 fun _ _ _ _ => rfl
  best := rfl
  seen := rfl

namespace Designer

/-- Calls that tell the designer the same. -/
def SameEvidence (designer : Designer K) : Call K → Call K → Prop :=
  Call.Matches (.evidence designer.problem.space designer.metric)

/-- Two runs from one designer that make the same calls, apart from trials that tell the
same: each call fails in both or gives the same suggestions with the same annotations
in both, and the best trial has the same id after it. -/
theorem replies_determined_by_evidence (designer : Designer K)
    {calls others : List (Call K)}
    (same : List.Forall₂ designer.SameEvidence calls others) :
    List.Forall₂
      (fun reply other =>
        Agree Eq reply.outcome other.outcome ∧ other.best = reply.best)
      (designer.replies calls) (designer.replies others) := by
  have corresponds :
      Corresponds (.evidence designer.problem.space designer.metric) designer
        (designer.withStudy designer.problem.metrics designer.metric
          designer.ledger) :=
    .intro (Correspondence.faithful_evidence _ _) (Correspondence.books_evidence _ _ _)
  refine (corresponds.replies same).imp fun reply other alike => ?_
  exact ⟨alike.outcome.agree, alike.best (Correspondence.keepsBestId_evidence _ _)⟩

section Unit

/-- The start trial with notes, at other times, with a parameter that the space does not
have and another metric. -/
noncomputable def annotatedTrial : Trial ℝ :=
  { startTrial with
    assignment := startTrial.assignment.insert "z" (.integer 3)
    measurement := some ((Table.empty.insert "y" 1).insert "cost" 7)
    annotations := Annotations.empty.insert "notes" "run" "seven"
    createdAt := ⟨60, 0⟩
    completedAt := none }

noncomputable def infeasibleTrial : Trial ℝ :=
  { startTrial with id := 2, infeasibility := some "out of memory" }

noncomputable def unmeasuredTrial : Trial ℝ :=
  { startTrial with id := 2, measurement := none }

/-- A start trial that is under way. -/
noncomputable def startedTrial : Trial ℝ :=
  Trial.start 3 startTrial.assignment default

theorem replies_determined_by_evidence_of_unitSpace :
    ∃ start : Designer ℝ,
      create unitProblem .standard = .ok start ∧
        List.Forall₂ start.SameEvidence
          [.update [startTrial, infeasibleTrial] [startedTrial], .suggest 2]
          [.update [annotatedTrial, unmeasuredTrial] [startTrial], .suggest 2] ∧
        List.Forall₂
          (fun reply other =>
            Agree Eq reply.outcome other.outcome ∧ other.best = reply.best)
          (start.replies
            [.update [startTrial, infeasibleTrial] [startedTrial], .suggest 2])
          (start.replies
            [.update [annotatedTrial, unmeasuredTrial] [startTrial], .suggest 2]) := by
  have objective :
      unitProblem.objective = .ok ⟨"y", .maximize, none, none⟩ := rfl
  obtain ⟨start, created, problem, metric, _⟩ :=
    exists_create Configuration.validate_standard objective defect?_unitSpace
  have values : unitSpace.SameValues startTrial.assignment annotatedTrial.assignment := by
    intro name member
    obtain rfl : name = "x" := by simpa [Space.names, unitSpace] using member
    rfl
  have annotated :
      Trial.SameEvidence unitSpace ⟨"y", .maximize, none, none⟩ startTrial
        annotatedTrial := ⟨rfl, rfl, values, rfl⟩
  have unusable :
      Trial.SameEvidence unitSpace ⟨"y", .maximize, none, none⟩ infeasibleTrial
        unmeasuredTrial := ⟨rfl, rfl, fun _ _ => rfl, rfl⟩
  have same :
      List.Forall₂ start.SameEvidence
        [.update [startTrial, infeasibleTrial] [startedTrial], .suggest 2]
        [.update [annotatedTrial, unmeasuredTrial] [startTrial], .suggest 2] := by
    rw [SameEvidence, problem, metric]
    exact .cons
      (.update (.cons annotated (.cons unusable .nil)) (.cons (fun _ _ => rfl) .nil))
      (.cons (.suggest 2) .nil)
  exact ⟨start, created, same, start.replies_determined_by_evidence same⟩

end Unit

end Designer

end BatchBayes
