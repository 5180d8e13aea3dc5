import BatchBayes.Proofs.Order
import BatchBayes.Proofs.Study.Correspondence
import BatchBayes.Proofs.Table
/-!
The mirror image of a study: the opposite goal, the bounds on the other side and every
objective negated. Labels are the same in the mirror, and the best trial is the mirror
image of the best one, so that mirrored books correspond. Of the numbers this needs only
that negation is exact and reverses their order.
-/

namespace BatchBayes

variable {K : Type} [Scalar K]

/-! ## Mirror images -/

def Goal.mirror : Goal → Goal
  | maximize => minimize
  | minimize => maximize

/-- The opposite goal between the negated bounds; a missing bound is missing on the
other side. -/
def Metric.mirror (metric : Metric K) : Metric K :=
  { metric with
    goal := metric.goal.mirror
    low := metric.high.map (- ·)
    high := metric.low.map (- ·) }

def Problem.mirror (problem : Problem K) : Problem K :=
  { problem with metrics := problem.metrics.map Metric.mirror }

/-- The measurement with the value of one metric negated. -/
def Measurement.mirror (measurement : Measurement K) (name : String) :
    Measurement K :=
  match measurement.find? name with
  | some value => measurement.insert name (-value)
  | none => measurement

/-- The trial with its value of one metric negated. -/
def Trial.mirror (name : String) (trial : Trial K) : Trial K :=
  { trial with measurement := trial.measurement.map (·.mirror name) }

/-! ## Measured values -/

theorem Measurement.find?_mirror (measurement : Measurement K) (name : String) :
    (measurement.mirror name).find? name = (measurement.find? name).map (- ·) := by
  rw [mirror]
  cases found : measurement.find? name with
  | some value => exact Table.find?_insert_self measurement name (-value)
  | none => exact found

theorem Trial.objective?_mirror (trial : Trial K) (name : String) :
    (trial.mirror name).objective? name = (trial.objective? name).map (- ·) := by
  rw [objective?, objective?, mirror, isInfeasible, isInfeasible]
  dsimp only
  by_cases infeasible : trial.infeasibility.isSome
  · rw [if_pos infeasible, if_pos infeasible, Option.map_none]
  · rw [if_neg infeasible, if_neg infeasible]
    cases trial.measurement with
    | none => rfl
    | some measurement => exact measurement.find?_mirror name

variable [ExactNegation K]

theorem Trial.usableObjective?_mirror (trial : Trial K) (name : String) :
    (trial.mirror name).usableObjective? name =
      (trial.usableObjective? name).map (- ·) := by
  rw [usableObjective?, usableObjective?, trial.objective?_mirror]
  cases trial.objective? name with
  | none => rfl
  | some value =>
      rw [Option.map_some, Option.filter_some, Option.filter_some,
        ExactNegation.isFinite_neg]
      cases Scalar.isFinite value with
      | true => rfl
      | false => rfl

/-! ## Bounds -/

theorem Metric.finiteOr_mirror (bound : Option K) (standard : K) :
    finiteOr (bound.map (- ·)) (-standard) = -finiteOr bound standard := by
  rw [finiteOr, finiteOr]
  cases bound with
  | none => rfl
  | some value =>
      rw [Option.map_some, Option.filter_some, Option.filter_some,
        ExactNegation.isFinite_neg]
      cases Scalar.isFinite value with
      | true => rfl
      | false => rfl

theorem Metric.bounds_mirror (metric : Metric K) :
    metric.mirror.bounds = (-metric.bounds.2, -metric.bounds.1) := by
  have low :
      metric.mirror.lowOr (-Scalar.largest) = -metric.highOr Scalar.largest :=
    finiteOr_mirror metric.high Scalar.largest
  have high :
      metric.mirror.highOr Scalar.largest = -metric.lowOr (-Scalar.largest) := by
    have mirrored := finiteOr_mirror metric.low (-Scalar.largest)
    rw [ExactNegation.neg_neg] at mirrored
    exact mirrored
  rw [bounds, bounds, low, high]
  by_cases inverted : metric.highOr Scalar.largest < metric.lowOr (-Scalar.largest)
  · rw [if_pos ((ExactNegation.neg_lt_neg_iff _ _).2 inverted), if_pos inverted,
      ExactNegation.neg_neg]
  · rw [if_neg fun below => inverted ((ExactNegation.neg_lt_neg_iff _ _).1 below),
      if_neg inverted]

/-- Bounds in the wrong order are dropped. -/
theorem Metric.bounds_ordered (metric : Metric K) :
    ¬ metric.bounds.2 < metric.bounds.1 := by
  rw [bounds]
  by_cases inverted : metric.highOr Scalar.largest < metric.lowOr (-Scalar.largest)
  · rw [if_pos inverted]
    exact ExactNegation.not_largest_lt_neg
  · rw [if_neg inverted]
    exact inverted

/-- Between ordered bounds it does not matter which side is cut off first. -/
theorem clamp_neg {low high : K} (ordered : ¬ high < low) (value : K) :
    Scalar.clamp (-value) (-high) (-low) = -Scalar.clamp value low high := by
  rw [Scalar.clamp, Scalar.clamp]
  simp only [ExactNegation.neg_lt_neg_iff]
  -- The mirror asks for the upper bound first, so that no value may be beyond both.
  by_cases below : value < low
  · have within : ¬ high < value :=
      fun above => ordered (OrderedScalar.lt_trans above below)
    rw [if_neg within, if_pos below, if_pos below]
  · rw [if_neg below, if_neg below]
    by_cases above : high < value
    · rw [if_pos above, if_pos above]
    · rw [if_neg above, if_neg above]

/-! ## Labels and best trials -/

theorem Labels.oriented_mirror (metric : Metric K) (trial : Trial K) :
    oriented metric.mirror (trial.mirror metric.name) = oriented metric trial := by
  have name : metric.mirror.name = metric.name := rfl
  have goal : metric.mirror.goal = metric.goal.mirror := rfl
  have ordered := metric.bounds_ordered
  rw [oriented, oriented, name, goal, metric.bounds_mirror,
    trial.usableObjective?_mirror]
  generalize metric.bounds = bounds at ordered ⊢
  obtain ⟨low, high⟩ := bounds
  dsimp only at ordered ⊢
  rw [Option.map_map]
  congr 1
  funext value
  rw [Function.comp_apply, clamp_neg ordered]
  cases metric.goal with
  | maximize => exact ExactNegation.neg_neg _
  | minimize => rfl

theorem Ledger.improves_mirror (goal : Goal) (value best : K) :
    improves goal.mirror (-value) (-best) = improves goal value best := by
  cases goal with
  | maximize => exact decide_eq_decide.2 (ExactNegation.neg_lt_neg_iff value best)
  | minimize => exact decide_eq_decide.2 (ExactNegation.neg_lt_neg_iff best value)

/-- A best value with its number negated. -/
def mirrorBest (best : Option (UInt64 × K)) : Option (UInt64 × K) :=
  best.map fun (id, value) => (id, -value)

theorem Ledger.betterOf_mirror (metric : Metric K) (best : Option (UInt64 × K))
    (trial : Trial K) :
    betterOf metric.mirror (mirrorBest best) (trial.mirror metric.name) =
      mirrorBest (betterOf metric best trial) := by
  have name : metric.mirror.name = metric.name := rfl
  have goal : metric.mirror.goal = metric.goal.mirror := rfl
  have id : (trial.mirror metric.name).id = trial.id := rfl
  unfold betterOf
  rw [name, goal, id, trial.usableObjective?_mirror]
  cases trial.usableObjective? metric.name with
  | none => rfl
  | some value =>
      cases best with
      | none => rfl
      | some best =>
          dsimp only [mirrorBest, Option.map_some]
          rw [improves_mirror]
          cases improves metric.goal value best.2 with
          | true => rfl
          | false => rfl

/-! ## Mirrored books -/

/-- Every trial stands for its mirror image. -/
def Correspondence.mirror (name : String) : Correspondence K where
  completed trial image := image = trial.mirror name
  active trial image := image = trial.mirror name
  best best image := image = mirrorBest best

theorem Correspondence.faithful_mirror (space : Space K) (metric : Metric K) :
    (mirror metric.name).Faithful space metric metric.mirror where
  id := by
    rintro trial _ rfl
    rfl
  isCompleted := by
    rintro trial _ rfl
    rfl
  values := by
    rintro trial _ rfl name _
    rfl
  oriented := by
    rintro trial _ rfl
    exact Labels.oriented_mirror metric trial
  activeValues := by
    rintro trial _ rfl name _
    rfl
  betterOf := by
    rintro best _ trial _ rfl rfl
    exact Ledger.betterOf_mirror metric best trial

omit [ExactNegation K] in
theorem Correspondence.keepsActiveIds_mirror (name : String) :
    (mirror name : Correspondence K).KeepsActiveIds := by
  rintro trial _ rfl
  rfl

omit [ExactNegation K] in
theorem Correspondence.keepsBestId_mirror (name : String) :
    (mirror name : Correspondence K).KeepsBestId := by
  rintro best _ rfl
  rw [mirrorBest, Option.map_map]
  rfl

end BatchBayes
