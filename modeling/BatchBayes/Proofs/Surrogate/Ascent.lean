import BatchBayes.Proofs.Comparison
import BatchBayes.Proofs.Extended
import BatchBayes.Proofs.Surrogate.Tuning
/-!
The search for kernel parameters only goes up. It fails just where no start has a finite
likelihood, and else ends at least as high as every start that has one; more sweeps
continue the same search and end no lower.
-/

namespace BatchBayes

namespace RestartSearch

variable {K : Type} [Scalar K]

/-! ## Likelihoods -/

/-- The data can be conditioned with the parameters, and has with them that likelihood,
a finite number. -/
structure Attains (data : Observations K) (parameters : KernelParameters K)
    (value : K) : Prop where
  fit : ∃ process,
    GaussianProcess.fit data parameters = .ok process ∧ process.logLikelihood = value
  finite : Scalar.isFinite value = true

variable {data : Observations K}

theorem value?_eq_some_iff {logs : List K} {value : K} :
    value? data logs = some value ↔ Attains data (.ofLogs logs) value := by
  rw [value?]
  constructor
  · intro found
    split at found
    case h_1 process fitted =>
        dsimp only at found
        split at found
        case isTrue finite =>
            cases found
            exact ⟨⟨process, fitted, rfl⟩, finite⟩
        case isFalse => cases found
    case h_2 => cases found
  · rintro ⟨⟨process, fitted, rfl⟩, finite⟩
    rw [fitted]
    exact if_pos finite

theorem value?_eq_none_iff {logs : List K} :
    value? data logs = none ↔ ∀ value, ¬ Attains data (.ofLogs logs) value := by
  rw [Option.eq_none_iff_forall_ne_some]
  exact forall_congr' fun value => not_congr value?_eq_some_iff

theorem isNaN_of_value? [OrderedScalar K] [LinearScalar K] {logs : List K} {value : K}
    (valued : value? data logs = some value) : Scalar.isNaN value = false :=
  LinearScalar.isNaN_of_isFinite (value?_eq_some_iff.1 valued).finite

/-! ## The best start -/

/-- The best of some points: none where no point has a value, or else one of the points
with its value, which no other value exceeds. -/
def BestOf (data : Observations K) (points : List (List K)) :
    Option (Scored K) → Prop
  | none => ∀ logs ∈ points, value? data logs = none
  | some best =>
      best.1 ∈ points ∧ Reached data best ∧
        ∀ logs ∈ points, ∀ value, value? data logs = some value → value ≤ best.2

section Best

variable [OrderedScalar K] [LinearScalar K] {points : List (List K)}

omit [OrderedScalar K] [LinearScalar K] in
/-- What no value exceeds, before one more point and at this point. -/
theorem atMost_append {logs : List K} {top : K}
    (before : ∀ other ∈ points, ∀ value, value? data other = some value → value ≤ top)
    (last : ∀ value, value? data logs = some value → value ≤ top) :
    ∀ other ∈ points ++ [logs], ∀ value,
      value? data other = some value → value ≤ top := by
  intro other member value found
  rcases List.mem_append.1 member with old | new
  · exact before other old value found
  · rw [List.mem_singleton.1 new] at found
    exact last value found

theorem BestOf.better {best : Option (Scored K)} (bestOf : BestOf data points best)
    (logs : List K) :
    BestOf data (points ++ [logs]) (better data best logs) := by
  cases valued : value? data logs with
  | none =>
      -- A point without a value changes nothing.
      simp only [RestartSearch.better, valued]
      cases best with
      | none =>
          intro other member
          rcases List.mem_append.1 member with old | new
          · exact bestOf other old
          · rw [List.mem_singleton.1 new]
            exact valued
      | some best =>
          obtain ⟨inPoints, reached, largest⟩ := bestOf
          refine ⟨List.mem_append_left _ inPoints, reached, atMost_append largest ?_⟩
          intro value found
          rw [valued] at found
          cases found
  | some likelihood =>
      have number := isNaN_of_value? valued
      have isLast : logs ∈ points ++ [logs] := by simp
      have atMostOf : ∀ top : K, likelihood ≤ top → ∀ value,
          value? data logs = some value → value ≤ top := by
        intro top below value found
        rw [valued] at found
        cases found
        exact below
      cases best with
      | none =>
          simp only [RestartSearch.better, valued]
          refine ⟨isLast, valued,
            atMost_append ?_ (atMostOf likelihood (LinearScalar.le_refl number))⟩
          intro other old value found
          rw [bestOf other old] at found
          cases found
      | some best =>
          obtain ⟨inPoints, reached, largest⟩ := bestOf
          have bestNumber := isNaN_of_value? reached
          simp only [RestartSearch.better, valued]
          by_cases improved : best.2 < likelihood
          · have above := LinearScalar.le_of_lt bestNumber number improved
            rw [if_pos improved]
            refine ⟨isLast, valued,
              atMost_append ?_ (atMostOf likelihood (LinearScalar.le_refl number))⟩
            intro other old value found
            exact OrderedScalar.le_trans (largest other old value found) above
          · have below := (LinearScalar.le_iff_not_lt number bestNumber).2 improved
            rw [if_neg improved]
            exact ⟨List.mem_append_left _ inPoints, reached,
              atMost_append largest (atMostOf best.2 below)⟩

theorem BestOf.foldl {best : Option (Scored K)} (bestOf : BestOf data points best)
    (more : List (List K)) :
    BestOf data (points ++ more) (more.foldl (RestartSearch.better data) best) := by
  induction more generalizing points best with
  | nil =>
      rw [List.append_nil]
      exact bestOf
  | cons logs more inductionHypothesis =>
      rw [List.append_cons, List.foldl_cons]
      exact inductionHypothesis (bestOf.better logs)

end Best

/-! ## Refinement -/

section Ascent

variable [OrderedScalar K] [LinearScalar K] {best : Scored K}

theorem le_moveCoordinate (reached : Reached data best) (step : K)
    (coordinate : Nat × K × K) :
    best.2 ≤ (moveCoordinate data step best coordinate).2 := by
  obtain ⟨index, low, high⟩ := coordinate
  have number := isNaN_of_value? reached
  rcases moveCoordinate_cases data step best index low high with
    kept | ⟨_, value, valued, above, moved⟩
  · rw [kept]
    exact LinearScalar.le_refl number
  · rw [moved]
    exact LinearScalar.le_of_lt number (isNaN_of_value? valued) above

theorem le_sweep (reached : Reached data best) (box : List (K × K)) (step : K) :
    Reached data (sweep data box step best) ∧
      best.2 ≤ (sweep data box step best).2 := by
  rw [sweep]
  refine List.foldlRecOn (motive := fun next => Reached data next ∧ best.2 ≤ next.2) _ _
    ⟨reached, LinearScalar.le_refl (isNaN_of_value? reached)⟩ ?_
  rintro next ⟨reachedNext, above⟩ entry _
  exact ⟨moveCoordinate_reached reachedNext step _,
    OrderedScalar.le_trans above (le_moveCoordinate reachedNext step _)⟩

theorem le_refine (reached : Reached data best) (box : List (K × K)) (sweeps : Nat)
    (step : K) : best.2 ≤ (refine data box sweeps step best).2 := by
  induction sweeps generalizing step best with
  | zero => exact LinearScalar.le_refl (isNaN_of_value? reached)
  | succ sweeps inductionHypothesis =>
      obtain ⟨reachedNext, above⟩ := le_sweep reached box step
      exact OrderedScalar.le_trans above (inductionHypothesis reachedNext _)

omit [OrderedScalar K] [LinearScalar K] in
/-- More sweeps continue where fewer end. -/
theorem exists_refine_add (data : Observations K) (box : List (K × K))
    (sweeps more : Nat) (step : K) (best : Scored K) :
    ∃ later,
      refine data box (sweeps + more) step best =
        refine data box more later (refine data box sweeps step best) := by
  induction sweeps generalizing step best with
  | zero => exact ⟨step, by rw [Nat.zero_add, refine]⟩
  | succ sweeps inductionHypothesis =>
      rw [Nat.add_right_comm]
      exact inductionHypothesis _ _

end Ascent

/-! ## The search -/

instance : ExactLogarithm Extended where
  exp_log := by
    intro x positive
    obtain ⟨zero, place, same, found, below⟩ := positive
    cases same
    rcases x with _ | ⟨_ | _⟩ | value
    · cases found
    · rfl
    · cases found
      exact absurd below not_lt_bot
    · cases found
      have positive : 0 < value := EReal.coe_pos.1 below
      rw [Extended.log_finite positive, Extended.exp_finite, Real.exp_log positive]
  standard_pos := by
    simp only [Extended.zero_eq, Extended.one_eq, Extended.ofScientific_eq,
      Extended.finite_lt]
    norm_num

/-- The parameters that the search starts from. -/
def candidates (search : RestartSearch K) (dimension : Nat) (key : Key) :
    List (KernelParameters K) :=
  .standard dimension ::
    (Generator.times (drawStart (search.bounds.box dimension))
      (search.restarts - 1) key.generator).1.map .ofLogs

theorem candidates_eq [ExactLogarithm K] (search : RestartSearch K) (dimension : Nat)
    (key : Key) :
    search.candidates dimension key = (search.starts dimension key).map .ofLogs := by
  rw [starts, List.map_cons, KernelParameters.ofLogs_toLogs_standard]
  rfl

/-- The best start with its value. -/
def bestStart (search : RestartSearch K) (data : Observations K) (key : Key) :
    Option (Scored K) :=
  (search.starts data.dimension key).foldl (better data) none

/-- Where a search ends that refines a start. -/
def refined (search : RestartSearch K) (data : Observations K) (best : Scored K) :
    Scored K :=
  refine data (search.bounds.box data.dimension) search.sweeps 1 best

theorem tune_of_bestStart_none {search : RestartSearch K} {key : Key}
    (observed : 0 < data.numValid) (found : search.bestStart data key = none) :
    search.tune data key = .error .nonFiniteLikelihood := by
  rw [bestStart] at found
  rw [tune, if_neg (Nat.pos_iff_ne_zero.1 observed), found]

theorem tune_of_bestStart {search : RestartSearch K} {key : Key} {best : Scored K}
    (observed : 0 < data.numValid) (found : search.bestStart data key = some best) :
    search.tune data key = .ok (.ofLogs (search.refined data best).1) := by
  rw [bestStart] at found
  rw [tune, if_neg (Nat.pos_iff_ne_zero.1 observed), found]
  rfl

theorem reached_refined {best : Scored K} (reached : Reached data best)
    (search : RestartSearch K) : Reached data (search.refined data best) :=
  refine_reached reached _ search.sweeps 1

theorem refined_le_refined [OrderedScalar K] [LinearScalar K] {best : Scored K}
    (reached : Reached data best) (search : RestartSearch K) {sweeps : Nat}
    (more : search.sweeps ≤ sweeps) :
    (search.refined data best).2 ≤
      (({ search with sweeps } : RestartSearch K).refined data best).2 := by
  obtain ⟨extra, rfl⟩ := Nat.exists_eq_add_of_le more
  obtain ⟨later, continued⟩ :=
    exists_refine_add data (search.bounds.box data.dimension) search.sweeps
      extra 1 best
  have same :
      ({ search with sweeps := search.sweeps + extra } : RestartSearch K).refined data
          best =
        refine data (search.bounds.box data.dimension) extra later
          (search.refined data best) := continued
  rw [same]
  exact le_refine (reached_refined reached search) _ _ _

theorem bestOf_bestStart [OrderedScalar K] [LinearScalar K] (search : RestartSearch K)
    (data : Observations K) (key : Key) :
    BestOf data (search.starts data.dimension key) (search.bestStart data key) := by
  have nothing : BestOf data [] none := by
    intro logs member
    cases member
  exact nothing.foldl (search.starts data.dimension key)

/-- With observed data, the search fails just where no parameters that it starts from
have a finite likelihood, and says so. Otherwise the parameters found have a finite
likelihood that is at least that of all parameters that it starts from, and that is not
undercut with more sweeps. -/
theorem tune_loses_no_ground [OrderedScalar K] [LinearScalar K] [ExactLogarithm K]
    (search : RestartSearch K) {data : Observations K} (observed : 0 < data.numValid)
    (key : Key) :
    let candidates := search.candidates data.dimension key
    ((∃ failure, search.tune data key = .error failure) ↔
        ∀ parameters ∈ candidates, ∀ value, ¬ Attains data parameters value) ∧
      (∀ failure, search.tune data key = .error failure →
        failure = .nonFiniteLikelihood) ∧
      ∀ parameters, search.tune data key = .ok parameters →
        ∃ value,
          Attains data parameters value ∧
            (∀ candidate ∈ candidates, ∀ other,
              Attains data candidate other → other ≤ value) ∧
            ∀ sweeps, search.sweeps ≤ sweeps →
              ∃ later laterValue,
                ({ search with sweeps } : RestartSearch K).tune data key = .ok later ∧
                  Attains data later laterValue ∧ value ≤ laterValue := by
  intro candidates
  have bestOf := search.bestOf_bestStart data key
  have same : candidates = (search.starts data.dimension key).map .ofLogs :=
    candidates_eq search data.dimension key
  cases found : search.bestStart data key with
  | none =>
      rw [found] at bestOf
      rw [tune_of_bestStart_none observed found, same]
      refine ⟨⟨fun _ => ?_, fun _ => ⟨_, rfl⟩⟩, by rintro _ ⟨⟩; rfl, by simp⟩
      intro parameters member
      obtain ⟨logs, inStarts, rfl⟩ := List.mem_map.1 member
      exact value?_eq_none_iff.1 (bestOf logs inStarts)
  | some best =>
      rw [found] at bestOf
      obtain ⟨inStarts, reached, largest⟩ := bestOf
      have attained : ∀ search : RestartSearch K,
          Attains data (.ofLogs (search.refined data best).1)
            (search.refined data best).2 :=
        fun search => value?_eq_some_iff.1 (reached_refined reached search)
      rw [tune_of_bestStart observed found]
      refine ⟨⟨by simp, fun none => ?_⟩, by simp, ?_⟩
      · refine absurd (value?_eq_some_iff.1 reached) (none _ ?_ best.2)
        rw [same]
        exact List.mem_map_of_mem inStarts
      · rintro _ ⟨⟩
        refine ⟨_, attained search, fun candidate member other attains => ?_,
          fun sweeps more => ?_⟩
        · rw [same] at member
          obtain ⟨logs, inStarts, rfl⟩ := List.mem_map.1 member
          exact OrderedScalar.le_trans
            (largest logs inStarts other (value?_eq_some_iff.2 attains))
            (le_refine reached _ _ _)
        · -- The starts do not depend on the number of sweeps.
          have foundAgain :
              ({ search with sweeps } : RestartSearch K).bestStart data key =
                some best := found
          exact ⟨_, _, tune_of_bestStart observed foundAgain, attained _,
            refined_le_refined reached search more⟩

section FewRows

/-- One observed row whose label is no number. -/
noncomputable def unreadable : Observations Extended :=
  .ofPoints [[0]] [.notANumber] 1

/-- Two rows with opposite labels. -/
noncomputable def opposed : Observations ℝ :=
  .ofPoints [[0], [1]] [1, -1] 1

theorem exists_factor_unreadable {parameters : KernelParameters Extended}
    {factor : LowerHalf Extended}
    (found : GaussianProcess.factor? unreadable parameters = some factor) :
    ∃ root, factor = [⟨root, []⟩] := by
  obtain ⟨jitter, _, success⟩ := List.exists_of_findSome?_eq_some found
  change LowerHalf.cholesky? [⟨_, []⟩] = some factor at success
  rw [LowerHalf.cholesky?] at success
  split at success
  case isTrue =>
      simp only [List.map_nil, LowerHalf.eliminate, LowerHalf.cholesky?,
        Option.map_some, Option.some.injEq] at success
      exact ⟨_, success.symm⟩
  case isFalse => cases success

theorem not_attains_unreadable (parameters : KernelParameters Extended)
    (value : Extended) : ¬ Attains unreadable parameters value := by
  rintro ⟨⟨process, fitted, rfl⟩, finite⟩
  have someRows : ¬ unreadable.isEmpty = true := nofun
  rw [GaussianProcess.fit] at fitted
  split at fitted
  case h_1 => cases fitted
  case h_2 =>
      rw [if_neg someRows] at fitted
      split at fitted
      case h_1 => cases fitted
      case h_2 factor found =>
          obtain ⟨root, rfl⟩ := exists_factor_unreadable found
          cases fitted
          -- The label goes into the likelihood, which is then no number either.
          have labels : GaussianProcess.labels unreadable = [.notANumber] := rfl
          simp only [GaussianProcess.logLikelihood, labels, LowerHalf.solve,
            LowerHalf.solveLower, LowerHalf.solveUpper, Scalar.dot, Scalar.sum,
            List.zipWith_cons_cons, List.foldl_cons, List.zipWith_nil_left,
            List.foldl_nil, Extended.notANumber_mul, Extended.mul_notANumber,
            Extended.add_notANumber, Extended.notANumber_sub] at finite
          cases finite

theorem regular_opposed : opposed.Regular := by
  refine ⟨rfl, rfl, fun point member => ?_⟩
  simp only [opposed, Observations.ofPoints, List.mem_cons, List.not_mem_nil,
    or_false] at member
  rcases member with rfl | rfl <;> rfl

theorem tune_loses_no_ground_of_few_rows :
    0 < unreadable.numValid ∧
      (standard : RestartSearch Extended).tune unreadable ⟨0⟩ =
        .error .nonFiniteLikelihood ∧
      0 < opposed.numValid ∧
      ∃ parameters value,
        (standard : RestartSearch ℝ).tune opposed ⟨0⟩ = .ok parameters ∧
          Attains opposed parameters value ∧
          ∀ other, Attains opposed (.standard 1) other → other ≤ value := by
  have observedUnreadable : 0 < unreadable.numValid := by decide
  have observed : 0 < opposed.numValid := by decide
  obtain ⟨fails, cause, _⟩ :=
    tune_loses_no_ground (standard : RestartSearch Extended) observedUnreadable ⟨0⟩
  obtain ⟨failure, failed⟩ :=
    fails.2 fun parameters _ value => not_attains_unreadable parameters value
  obtain ⟨parameters, tuned, _⟩ :=
    exists_tune standard regular_opposed.regularFiller regular_opposed.row_length ⟨0⟩
  obtain ⟨value, attains, largest, _⟩ :=
    (tune_loses_no_ground standard observed ⟨0⟩).2.2 parameters tuned
  rw [cause failure failed] at failed
  exact ⟨observedUnreadable, failed, observed, parameters, value, tuned, attains,
    largest _ List.mem_cons_self⟩

end FewRows

end RestartSearch

end BatchBayes
