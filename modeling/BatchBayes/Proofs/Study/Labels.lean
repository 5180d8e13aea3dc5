import BatchBayes.Proofs.Extended
import BatchBayes.Study.Labels
import BatchBayes.Surrogate.Moments
/-!
What labels say about the trials they stand for. Usable objectives keep their order, all
other trials share one label below them, and the labels have the mean zero and, where the
values differ, the variance one. A label goes with its trial in every order of the trials.
-/

namespace BatchBayes

/-- The trial is feasible and has a finite value of the metric. -/
def Trial.Reports {K : Type} [Scalar K] (trial : Trial K) (metric : String) (value : K) :
    Prop :=
  trial.infeasibility = none ∧
    trial.measurement.bind (·.find? metric) = some value ∧
    Scalar.isFinite value = true

theorem Trial.usableObjective?_eq_some_iff {K : Type} [Scalar K] {trial : Trial K}
    {metric : String} {value : K} :
    trial.usableObjective? metric = some value ↔ trial.Reports metric value := by
  rw [usableObjective?, objective?, isInfeasible, Reports, Option.filter_eq_some_iff]
  cases trial.infeasibility with
  | none => simp
  | some reason => simp

namespace Labels

section Definitions

variable {K : Type} [Scalar K]

/-- A value within the bounds of the metric, turned so that larger is better. -/
def goalOriented (metric : Metric K) (value : K) : K :=
  let kept := Scalar.clamp value metric.bounds.1 metric.bounds.2
  match metric.goal with
  | .maximize => kept
  | .minimize => -kept

theorem oriented_eq (metric : Metric K) (trial : Trial K) :
    oriented metric trial =
      (trial.usableObjective? metric.name).map (goalOriented metric) := rfl

/-- What stands for a missing value among others. -/
def missing (values : List (Option K)) : K :=
  match values.filterMap id with
  | [] => 0
  | first :: rest => imputed first rest

/-- The values with the missing ones filled in. -/
def filled (values : List (Option K)) : List K :=
  values.map (·.getD (missing values))

/-- The mean of the squared differences to the mean. -/
def variance (values : List K) : K :=
  Moments.mean (values.map fun value =>
    (value - Moments.mean values) * (value - Moments.mean values))

/-- What the differences to the mean are divided by. -/
def deviation (values : List K) : K :=
  if 1e-20 < variance values then Scalar.sqrt (variance values) else 1

theorem standardize_eq (values : List K) :
    standardize values =
      values.map fun value => (value - Moments.mean values) / deviation values := by
  simp only [standardize, deviation, variance, Moments.mean, List.length_map]

/-- The labels of trials where some objective is usable. -/
theorem ofTrials_of_usable {metric : Metric K} {trials : List (Trial K)}
    (usable : (trials.map (oriented metric)).filterMap id ≠ []) :
    ofTrials metric trials = standardize (filled (trials.map (oriented metric))) := by
  rw [ofTrials, filled, missing]
  cases found : (trials.map (oriented metric)).filterMap id with
  | nil => exact absurd found usable
  | cons first rest => rfl

/-- The labels of trials where no objective is usable. -/
theorem ofTrials_of_unusable {metric : Metric K} {trials : List (Trial K)}
    (unusable : (trials.map (oriented metric)).filterMap id = []) :
    ofTrials metric trials = trials.map fun _ => 0 := by
  rw [ofTrials, unusable, List.map_map]
  rfl

end Definitions

/-! ## Filling in -/

/-- A fold that picks one of two numbers picks one of a list, below all of them. -/
theorem foldl_spec {pick : ℝ → ℝ → ℝ} (below : ℝ → ℝ → Prop)
    (refl : ∀ x, below x x) (trans : ∀ x y z, below x y → below y z → below x z)
    (picks : ∀ x y, pick x y = x ∨ pick x y = y)
    (least : ∀ x y, below (pick x y) x ∧ below (pick x y) y)
    (first : ℝ) (rest : List ℝ) :
    rest.foldl pick first ∈ first :: rest ∧
      ∀ value ∈ first :: rest, below (rest.foldl pick first) value := by
  induction rest generalizing first with
  | nil =>
      refine ⟨List.mem_cons_self, fun value member => ?_⟩
      rw [List.mem_singleton.1 member]
      exact refl first
  | cons second rest inductionHypothesis =>
      obtain ⟨inRest, lowest⟩ := inductionHypothesis (pick first second)
      have belowPicked := lowest (pick first second) List.mem_cons_self
      rw [List.foldl_cons]
      refine ⟨?_, fun value member => ?_⟩
      · rcases List.mem_cons.1 inRest with picked | later
        · rw [picked]
          rcases picks first second with same | same <;> simp [same]
        · exact List.mem_cons_of_mem _ (List.mem_cons_of_mem _ later)
      · rcases List.mem_cons.1 member with rfl | later
        · exact trans _ _ _ belowPicked (least value second).1
        · rcases List.mem_cons.1 later with rfl | inTail
          · exact trans _ _ _ belowPicked (least first value).2
          · exact lowest value (List.mem_cons_of_mem _ inTail)

section Imputed

variable {first other : ℝ} {rest more : List ℝ}

theorem worst_spec (first : ℝ) (rest : List ℝ) :
    rest.foldl Scalar.min first ∈ first :: rest ∧
      ∀ value ∈ first :: rest, rest.foldl Scalar.min first ≤ value :=
  foldl_spec (· ≤ ·) le_refl (fun _ _ _ => le_trans)
    (fun x y => by simpa using min_choice x y) (fun x y => by simp) first rest

theorem best_spec (first : ℝ) (rest : List ℝ) :
    rest.foldl Scalar.max first ∈ first :: rest ∧
      ∀ value ∈ first :: rest, value ≤ rest.foldl Scalar.max first :=
  foldl_spec (· ≥ ·) (fun _ => le_rfl) (fun _ _ _ => ge_trans)
    (fun x y => by simpa using max_choice x y) (fun x y => by simp) first rest

theorem imputed_lt {value : ℝ} (member : value ∈ first :: rest) :
    imputed first rest < value := by
  have worst := (worst_spec first rest).2 value member
  rw [imputed]
  split
  case isTrue spread => linarith
  case isFalse => linarith

theorem imputed_perm (perm : (first :: rest).Perm (other :: more)) :
    imputed first rest = imputed other more := by
  -- The worst and the best are members with a bound, and the order moves neither.
  have worst : rest.foldl Scalar.min first = more.foldl Scalar.min other :=
    le_antisymm ((worst_spec first rest).2 _ (perm.mem_iff.2 (worst_spec other more).1))
      ((worst_spec other more).2 _ (perm.mem_iff.1 (worst_spec first rest).1))
  have best : rest.foldl Scalar.max first = more.foldl Scalar.max other :=
    le_antisymm ((best_spec other more).2 _ (perm.mem_iff.1 (best_spec first rest).1))
      ((best_spec first rest).2 _ (perm.mem_iff.2 (best_spec other more).1))
  rw [imputed, imputed, worst, best]

end Imputed

section Missing

variable {values others : List (Option ℝ)}

theorem missing_lt {value : ℝ} (member : some value ∈ values) :
    missing values < value := by
  have inValues : value ∈ values.filterMap id :=
    List.mem_filterMap.2 ⟨some value, member, rfl⟩
  rw [missing]
  split
  case h_1 empty =>
      rw [empty] at inValues
      cases inValues
  case h_2 first rest found =>
      rw [found] at inValues
      exact imputed_lt inValues

theorem missing_perm (perm : values.Perm others) : missing values = missing others := by
  have kept := perm.filterMap id
  rw [missing, missing]
  cases found : values.filterMap id with
  | nil =>
      rw [found] at kept
      rw [kept.nil_eq]
  | cons first rest =>
      cases foundOthers : others.filterMap id with
      | nil =>
          rw [found, foundOthers] at kept
          exact absurd kept.symm (List.not_perm_nil_cons _ _)
      | cons other more =>
          rw [found, foundOthers] at kept
          exact imputed_perm kept

theorem filled_perm (perm : values.Perm others) :
    (filled values).Perm (filled others) := by
  rw [filled, filled, missing_perm perm]
  exact perm.map _

end Missing

/-! ## Standardizing -/

section Standardized

variable {values others : List ℝ}

theorem mean_perm (perm : values.Perm others) :
    Moments.mean values = Moments.mean others := by
  rw [Moments.mean, Moments.mean, Scalar.sum_real, Scalar.sum_real, perm.sum_eq,
    perm.length_eq]

theorem deviation_perm (perm : values.Perm others) :
    deviation values = deviation others := by
  have same : variance values = variance others := by
    rw [variance, variance, mean_perm perm]
    exact mean_perm (perm.map _)
  rw [deviation, deviation, same]

theorem deviation_pos (values : List ℝ) : 0 < deviation values := by
  rw [deviation]
  split
  case isTrue large => exact Real.sqrt_pos.2 (lt_trans (by norm_num) large)
  case isFalse => exact one_pos

theorem sum_map_sub_div (values : List ℝ) (center width : ℝ) :
    (values.map fun value => (value - center) / width).sum =
      (values.sum - values.length * center) / width := by
  induction values with
  | nil => simp
  | cons value values inductionHypothesis =>
      rw [List.map_cons, List.sum_cons, inductionHypothesis, List.sum_cons,
        List.length_cons]
      push_cast
      ring

theorem length_mul_mean (values : List ℝ) :
    values.length * Moments.mean values = values.sum := by
  rw [Moments.mean, Scalar.sum_real, Scalar.ofNat_real]
  rcases eq_or_ne values [] with rfl | nonempty
  · simp
  · have positive : (values.length : ℝ) ≠ 0 := by simpa using nonempty
    field_simp

theorem sum_standardize (values : List ℝ) : (standardize values).sum = 0 := by
  rw [standardize_eq, sum_map_sub_div, length_mul_mean, sub_self, zero_div]

/-- Values that differ get labels of variance one. -/
theorem sum_sq_standardize (large : 1e-20 < variance values) :
    ((standardize values).map fun label => label * label).sum = values.length := by
  have positive : 0 < variance values := lt_trans (by norm_num) large
  -- The square of a label is a term of the variance, divided by the variance.
  have each : ∀ value : ℝ,
      (value - Moments.mean values) / deviation values *
          ((value - Moments.mean values) / deviation values) =
        (value - Moments.mean values) * (value - Moments.mean values) /
          variance values := by
    intro value
    rw [deviation, if_pos large, Scalar.sqrt_real, div_mul_div_comm,
      Real.mul_self_sqrt positive.le]
  have total := length_mul_mean (values.map fun value =>
    (value - Moments.mean values) * (value - Moments.mean values))
  have squares := sum_map_sub_div (values.map fun value =>
    (value - Moments.mean values) * (value - Moments.mean values)) 0 (variance values)
  rw [List.map_map] at squares
  rw [standardize_eq, List.map_map]
  simp only [Function.comp_def, each, sub_zero, mul_zero] at squares ⊢
  rw [squares, ← total, List.length_map]
  exact mul_div_cancel_right₀ _ positive.ne'

end Standardized

/-! ## The label of a value among others -/

section Place

variable {values others : List (Option ℝ)}

/-- The label of a value among others, where it may be missing. -/
noncomputable def place (values : List (Option ℝ)) (value : Option ℝ) : ℝ :=
  (value.getD (missing values) - Moments.mean (filled values)) / deviation (filled values)

theorem standardize_filled (values : List (Option ℝ)) :
    standardize (filled values) = values.map (place values) := by
  rw [standardize_eq, filled, List.map_map]
  rfl

theorem place_perm (perm : values.Perm others) : place values = place others := by
  funext value
  rw [place, place, missing_perm perm, mean_perm (filled_perm perm),
    deviation_perm (filled_perm perm)]

theorem place_lt_place_iff (first second : Option ℝ) :
    place values first < place values second ↔
      first.getD (missing values) < second.getD (missing values) := by
  rw [place, place, div_lt_div_iff_of_pos_right (deviation_pos _), sub_lt_sub_iff_right]

/-- Among missing values only, all are zero. -/
theorem place_eq_zero (silent : ∀ value ∈ values, value = none) :
    place values none = 0 := by
  have kept : values.filterMap id = [] := by
    rw [List.filterMap_eq_nil_iff]
    exact silent
  have zero : missing values = 0 := by rw [missing, kept]
  have zeros : filled values = List.replicate values.length 0 := by
    rw [List.eq_replicate_iff, filled, List.length_map]
    refine ⟨rfl, fun value member => ?_⟩
    obtain ⟨before, inValues, rfl⟩ := List.mem_map.1 member
    rw [silent before inValues, Option.getD_none, zero]
  have mean : Moments.mean (filled values) = 0 := by
    rw [Moments.mean, Scalar.sum_real, zeros, List.sum_replicate, smul_zero, zero_div]
  rw [place, mean, Option.getD_none, zero, sub_zero, zero_div]

end Place

/-! ## Exact values among others -/

section Exact

theorem imputed_finite (first : ℝ) (rest : List ℝ) :
    imputed (Extended.finite first) (rest.map .finite) =
      .finite (imputed first rest) := by
  rw [imputed, imputed, Extended.foldl_finite Extended.min_finite,
    Extended.foldl_finite Extended.max_finite]
  simp only [Extended.finite_sub, Extended.zero_eq, Extended.finite_lt,
    Extended.ofScientific_eq, Extended.one_eq, Extended.finite_mul]
  split <;> rfl

theorem missing_finite (values : List (Option ℝ)) :
    missing (values.map (Option.map Extended.finite)) = .finite (missing values) := by
  have kept :
      (values.map (Option.map Extended.finite)).filterMap id =
        (values.filterMap id).map Extended.finite := by
    rw [List.filterMap_map, List.map_filterMap]
    rfl
  rw [missing, missing, kept]
  cases values.filterMap id with
  | nil => rfl
  | cons first rest => exact imputed_finite first rest

theorem filled_finite (values : List (Option ℝ)) :
    filled (values.map (Option.map Extended.finite)) =
      (filled values).map Extended.finite := by
  rw [filled, filled, missing_finite, List.map_map, List.map_map]
  refine List.map_congr_left fun value _ => ?_
  cases value with
  | none => rfl
  | some value => rfl

variable {values : List ℝ}

theorem mean_finite (nonempty : values ≠ []) :
    Moments.mean (values.map Extended.finite) = .finite (Moments.mean values) := by
  have positive : (values.length : ℝ) ≠ 0 := by simpa using nonempty
  rw [Moments.mean, Moments.mean, Extended.sum_finite, List.length_map,
    Extended.ofNat_eq, Extended.finite_div _ positive, Scalar.ofNat_real]

theorem variance_finite (nonempty : values ≠ []) :
    variance (values.map Extended.finite) = .finite (variance values) := by
  have squares :
      ((values.map Extended.finite).map fun value =>
          (value - .finite (Moments.mean values)) *
            (value - .finite (Moments.mean values))) =
        (values.map fun value =>
          (value - Moments.mean values) * (value - Moments.mean values)).map
            Extended.finite := by
    rw [List.map_map, List.map_map]
    refine List.map_congr_left fun value _ => ?_
    simp only [Function.comp_apply, Extended.finite_sub, Extended.finite_mul]
  rw [variance, variance, mean_finite nonempty, squares,
    mean_finite (by simpa using nonempty)]

theorem deviation_finite (nonempty : values ≠ []) :
    deviation (values.map Extended.finite) = .finite (deviation values) := by
  rw [deviation, deviation, variance_finite nonempty]
  simp only [Extended.ofScientific_eq, Extended.finite_lt]
  split
  case isTrue large => exact Extended.sqrt_finite (le_trans (by norm_num) large.le)
  case isFalse => rfl

theorem standardize_finite (nonempty : values ≠ []) :
    standardize (values.map Extended.finite) =
      (standardize values).map Extended.finite := by
  rw [standardize_eq, standardize_eq, mean_finite nonempty, deviation_finite nonempty,
    List.map_map, List.map_map]
  refine List.map_congr_left fun value _ => ?_
  simp only [Function.comp_apply, Extended.finite_sub]
  exact Extended.finite_div _ (deviation_pos values).ne'

/-- Bounds are always finite. -/
theorem exists_bounds (metric : Metric Extended) :
    ∃ low high : ℝ, metric.bounds = (.finite low, .finite high) := by
  have finiteOr : ∀ (bound : Option Extended) (standard : ℝ),
      ∃ value : ℝ, Metric.finiteOr bound (.finite standard) = .finite value := by
    intro bound standard
    rw [Metric.finiteOr]
    cases found : bound.filter Scalar.isFinite with
    | none => exact ⟨standard, rfl⟩
    | some value =>
        rw [Option.filter_eq_some_iff] at found
        exact Extended.exists_finite found.2
  obtain ⟨low, lower⟩ := finiteOr metric.low (-Scalar.largest)
  obtain ⟨high, upper⟩ := finiteOr metric.high Scalar.largest
  rw [Metric.bounds]
  split
  case isTrue => exact ⟨-Scalar.largest, Scalar.largest, rfl⟩
  case isFalse => exact ⟨low, high, Prod.ext lower upper⟩

theorem exists_goalOriented (metric : Metric Extended) (value : ℝ) :
    ∃ kept : ℝ, goalOriented metric (.finite value) = .finite kept := by
  obtain ⟨low, high, bounds⟩ := exists_bounds metric
  rw [goalOriented, bounds, Extended.clamp_finite]
  cases metric.goal with
  | maximize => exact ⟨_, rfl⟩
  | minimize => exact ⟨_, rfl⟩

theorem exists_oriented (metric : Metric Extended) (trial : Trial Extended) :
    ∃ value : Option ℝ, oriented metric trial = value.map .finite := by
  rw [oriented_eq]
  cases usable : trial.usableObjective? metric.name with
  | none => exact ⟨none, rfl⟩
  | some value =>
      obtain ⟨_, _, finite⟩ := Trial.usableObjective?_eq_some_iff.1 usable
      obtain ⟨value, rfl⟩ := Extended.exists_finite finite
      obtain ⟨kept, same⟩ := exists_goalOriented metric value
      exact ⟨some kept, congrArg some same⟩

theorem filled_ne_nil {values : List (Option ℝ)} (nonempty : values ≠ []) :
    filled values ≠ [] := by
  rw [filled, Ne, List.map_eq_nil_iff]
  exact nonempty

theorem sum_places (values : List (Option ℝ)) :
    Scalar.sum ((values.map (place values)).map Extended.finite) = 0 := by
  rw [Extended.sum_finite, ← standardize_filled, Scalar.sum_real, sum_standardize]
  rfl

theorem sum_sq_places {values : List (Option ℝ)} (nonempty : values ≠ [])
    (large : 1e-20 < variance (filled (values.map (Option.map Extended.finite)))) :
    Scalar.sum (((values.map (place values)).map Extended.finite).map
        fun label => label * label) =
      Scalar.ofNat values.length := by
  rw [filled_finite, variance_finite (filled_ne_nil nonempty), Extended.ofScientific_eq,
    Extended.finite_lt] at large
  have squares :
      ((values.map (place values)).map Extended.finite).map (fun label => label * label) =
        ((standardize (filled values)).map fun label => label * label).map
          Extended.finite := by
    simp only [standardize_filled, List.map_map]
    rfl
  rw [squares, Extended.sum_finite, Scalar.sum_real, sum_sq_standardize large,
    Extended.ofNat_eq, filled, List.length_map]

end Exact

/-! ## Trials -/

section Trials

variable {metric : Metric Extended}

theorem value_of_reports {trial : Trial Extended} {value : Option ℝ} {found : Extended}
    (same : oriented metric trial = value.map .finite)
    (reports : trial.Reports metric.name found) :
    ∃ kept, value = some kept ∧ goalOriented metric found = .finite kept := by
  rw [oriented_eq, Trial.usableObjective?_eq_some_iff.2 reports] at same
  obtain ⟨kept, inPlace, equal⟩ := Option.map_eq_some_iff.1 same.symm
  exact ⟨kept, inPlace, equal.symm⟩

theorem value_of_silent {trial : Trial Extended} {value : Option ℝ}
    (same : oriented metric trial = value.map .finite)
    (silent : ∀ found, ¬ trial.Reports metric.name found) : value = none := by
  have unusable : trial.usableObjective? metric.name = none := by
    rw [Option.eq_none_iff_forall_ne_some]
    exact fun found usable => silent found (Trial.usableObjective?_eq_some_iff.1 usable)
  rw [oriented_eq, unusable] at same
  exact Option.map_eq_none_iff.1 same.symm

variable {value : Trial Extended → Option ℝ}

theorem map_oriented (each : ∀ trial, oriented metric trial = (value trial).map .finite)
    (trials : List (Trial Extended)) :
    trials.map (oriented metric) =
      (trials.map value).map (Option.map Extended.finite) := by
  rw [List.map_map]
  exact List.map_congr_left fun trial _ => each trial

theorem ofTrials_finite
    (each : ∀ trial, oriented metric trial = (value trial).map .finite)
    (trials : List (Trial Extended)) :
    ofTrials metric trials =
      trials.map fun trial => .finite (place (trials.map value) (value trial)) := by
  -- The labels of unusable trials are zero by a rule of their own, which agrees with
  -- their places.
  by_cases usable : (trials.map (oriented metric)).filterMap id = []
  · rw [ofTrials_of_unusable usable]
    rw [map_oriented each, List.filterMap_eq_nil_iff] at usable
    have silent : ∀ other ∈ trials.map value, other = none := fun other member =>
      Option.map_eq_none_iff.1 (usable _ (List.mem_map_of_mem member))
    refine List.map_congr_left fun trial member => ?_
    rw [silent _ (List.mem_map_of_mem member), place_eq_zero silent]
    rfl
  · have nonempty : trials.map value ≠ [] := by
      intro empty
      rw [map_oriented each, empty] at usable
      exact usable rfl
    rw [ofTrials_of_usable usable, map_oriented each, filled_finite,
      standardize_finite (filled_ne_nil nonempty), standardize_filled, List.map_map,
      List.map_map]
    rfl

end Trials

/-- Each trial has a label, the same one in every order of the trials. Where no trial
reports a finite value, all labels are zero. Otherwise the labels add up to zero; those
of reported values are ordered as these are, within the bounds of the metric and towards
its goal; all other trials share one label, below those; and where the filled-in values
have a variance above `1e-20`, the squares of the labels add up to the number of
trials. -/
theorem standardized_labels (metric : Metric Extended) (trials : List (Trial Extended)) :
    ∃ label : Trial Extended → Extended,
      (∀ order : List (Trial Extended), order.Perm trials →
        ofTrials metric order = order.map label) ∧
      ((∀ trial ∈ trials, ∀ value, ¬ trial.Reports metric.name value) →
        ∀ trial ∈ trials, label trial = 0) ∧
      ((∃ trial ∈ trials, ∃ value, trial.Reports metric.name value) →
        Scalar.sum (trials.map label) = 0 ∧
        (∀ first ∈ trials, ∀ second ∈ trials, ∀ firstValue secondValue,
          first.Reports metric.name firstValue →
          second.Reports metric.name secondValue →
            (label first < label second ↔
              goalOriented metric firstValue < goalOriented metric secondValue)) ∧
        (∃ shared, ∀ trial ∈ trials,
          ((∀ value, ¬ trial.Reports metric.name value) → label trial = shared) ∧
          ∀ value, trial.Reports metric.name value → shared < label trial) ∧
        (1e-20 < variance (filled (trials.map (oriented metric))) →
          Scalar.sum ((trials.map label).map fun value => value * value) =
            Scalar.ofNat trials.length)) := by
  -- A trial is labelled by what it reports alone, so its label has a place among those
  -- of any order of the trials.
  choose value each using exists_oriented metric
  have labels :
      trials.map (fun trial => Extended.finite (place (trials.map value) (value trial))) =
        ((trials.map value).map (place (trials.map value))).map Extended.finite := by
    rw [List.map_map, List.map_map]
    rfl
  refine ⟨fun trial => .finite (place (trials.map value) (value trial)),
    fun order perm => ?_, fun silent trial member => ?_, fun ⟨witness, inTrials, _⟩ =>
      ⟨?_, ?_, ⟨.finite (place (trials.map value) none), ?_⟩, fun large => ?_⟩⟩
  · rw [ofTrials_finite each order, place_perm (perm.map value)]
  · have missing : ∀ other ∈ trials.map value, other = none := by
      intro other inValues
      obtain ⟨trial, member, rfl⟩ := List.mem_map.1 inValues
      exact value_of_silent (each trial) (silent trial member)
    dsimp only
    rw [missing _ (List.mem_map_of_mem member), place_eq_zero missing]
    rfl
  · rw [labels]
    exact sum_places _
  · intro first _ second _ firstValue secondValue firstReports secondReports
    obtain ⟨firstKept, firstPlace, firstSame⟩ := value_of_reports (each first) firstReports
    obtain ⟨secondKept, secondPlace, secondSame⟩ :=
      value_of_reports (each second) secondReports
    rw [Extended.finite_lt, place_lt_place_iff, firstPlace, secondPlace, firstSame,
      secondSame, Extended.finite_lt, Option.getD_some, Option.getD_some]
  · intro trial member
    refine ⟨fun silent => ?_, fun found reports => ?_⟩
    · dsimp only
      rw [value_of_silent (each trial) silent]
    obtain ⟨kept, inPlace, _⟩ := value_of_reports (each trial) reports
    have inValues : some kept ∈ trials.map value := by
      rw [← inPlace]
      exact List.mem_map_of_mem member
    rw [Extended.finite_lt, place_lt_place_iff, inPlace, Option.getD_none,
      Option.getD_some]
    exact missing_lt inValues
  · have nonempty : trials.map value ≠ [] :=
      List.ne_nil_of_mem (List.mem_map_of_mem inTrials)
    rw [map_oriented each] at large
    rw [labels, sum_sq_places nonempty large, List.length_map]

end Labels

end BatchBayes
