import BatchBayes.Proofs.Random.Draws
import BatchBayes.Proofs.Random.Uniform
import BatchBayes.Proofs.Surrogate.Ascent
/-!
Where the search for kernel parameters can end. Drawn starts lie in the search box and
moved coordinates are kept in it, but the search also starts from the standard
parameters, wherever the box is. So each parameter that is found lies within its bounds
or is a standard one.
-/

namespace BatchBayes

/-! ## Bounds -/

namespace LogBounds

/-- The logarithm of a value lies between two ends. -/
def Within (ends : ℝ × ℝ) (value : ℝ) : Prop :=
  ends.1 ≤ Real.log value ∧ Real.log value ≤ ends.2

/-- The ends of each parameter are in order. -/
structure Ordered (bounds : LogBounds ℝ) : Prop where
  amplitude : bounds.amplitude.1 ≤ bounds.amplitude.2
  lengthscale : bounds.lengthscale.1 ≤ bounds.lengthscale.2
  noise : bounds.noise.1 ≤ bounds.noise.2

/-- Every parameter lies within its bounds. -/
structure Hold (bounds : LogBounds ℝ) (parameters : KernelParameters ℝ) : Prop where
  amplitude : Within bounds.amplitude parameters.amplitude
  lengthscales : ∀ lengthscale ∈ parameters.lengthscales,
    Within bounds.lengthscale lengthscale
  noise : Within bounds.noise parameters.noise

/-- Every parameter lies within its bounds or is a standard one. -/
structure HoldOrStandard (bounds : LogBounds ℝ) (dimension : Nat)
    (parameters : KernelParameters ℝ) : Prop where
  amplitude : Within bounds.amplitude parameters.amplitude ∨
    parameters.amplitude = (KernelParameters.standard dimension).amplitude
  lengthscales : ∀ lengthscale ∈ parameters.lengthscales,
    Within bounds.lengthscale lengthscale ∨
      lengthscale ∈ (KernelParameters.standard dimension).lengthscales
  noise : Within bounds.noise parameters.noise ∨
    parameters.noise = (KernelParameters.standard dimension).noise

theorem Ordered.of_mem_box {bounds : LogBounds ℝ} (ordered : bounds.Ordered)
    {dimension : Nat} {ends : ℝ × ℝ} (member : ends ∈ bounds.box dimension) :
    ends.1 ≤ ends.2 := by
  rcases List.mem_cons.1 member with rfl | later
  · exact ordered.amplitude
  · rcases List.mem_append.1 later with middle | last
    · rw [List.eq_of_mem_replicate middle]
      exact ordered.lengthscale
    · rw [List.mem_singleton.1 last]
      exact ordered.noise

theorem length_box (bounds : LogBounds ℝ) (dimension : Nat) :
    (bounds.box dimension).length = dimension + 2 := by
  simp [box]

theorem HoldOrStandard.hold {bounds : LogBounds ℝ} {dimension : Nat}
    {parameters : KernelParameters ℝ} (holds : bounds.HoldOrStandard dimension parameters)
    (standard : bounds.Hold (.standard dimension)) : bounds.Hold parameters := by
  refine ⟨?_, fun lengthscale member => ?_, ?_⟩
  · rcases holds.amplitude with within | same
    · exact within
    · rw [same]
      exact standard.amplitude
  · rcases holds.lengthscales lengthscale member with within | isStandard
    · exact within
    · exact standard.lengthscales lengthscale isStandard
  · rcases holds.noise with within | same
    · exact within
    · rw [same]
      exact standard.noise

end LogBounds

namespace RestartSearch

variable {search : RestartSearch ℝ} {data : Observations ℝ}

/-! ## Coordinates -/

/-- There is a coordinate for each bounds, and it lies within them or is that of the
standard parameters. -/
structure Placed (bounds : LogBounds ℝ) (dimension : Nat) (logs : List ℝ) : Prop where
  length : logs.length = dimension + 2
  each : ∀ (index : Nat) (ends : ℝ × ℝ) (log : ℝ),
    (bounds.box dimension)[index]? = some ends → logs[index]? = some log →
      (ends.1 ≤ log ∧ log ≤ ends.2) ∨
        (KernelParameters.standard dimension : KernelParameters ℝ).toLogs[index]? =
          some log

variable {bounds : LogBounds ℝ} {dimension : Nat} {logs : List ℝ}

theorem placed_standard (bounds : LogBounds ℝ) (dimension : Nat) :
    Placed bounds dimension (KernelParameters.standard dimension).toLogs :=
  ⟨by simp [KernelParameters.toLogs, KernelParameters.standard],
    fun _ _ _ _ found => .inr found⟩

theorem placed_drawStart (ordered : bounds.Ordered) (generator : Generator) :
    Placed bounds dimension (drawStart (bounds.box dimension) generator).1 := by
  refine ⟨?_, fun index ends log entry found => ?_⟩
  · rw [drawStart, Generator.length_forEach, LogBounds.length_box]
  · obtain ⟨drawn, before, same, rfl⟩ := Generator.exists_of_getElem?_forEach found
    obtain rfl := Option.some.inj (entry.symm.trans same)
    exact .inl (Generator.between_mem
      (ordered.of_mem_box (List.mem_of_getElem? entry)) before)

theorem placed_of_mem_starts (ordered : search.bounds.Ordered) {key : Key}
    (member : logs ∈ search.starts dimension key) :
    Placed search.bounds dimension logs := by
  rcases List.mem_cons.1 member with rfl | drawn
  · exact placed_standard _ _
  · obtain ⟨before, rfl⟩ := Generator.exists_of_mem_times drawn
    exact placed_drawStart ordered before

theorem Placed.set (placed : Placed bounds dimension logs) (ordered : bounds.Ordered)
    {index : Nat} {low high : ℝ}
    (entry : (bounds.box dimension)[index]? = some (low, high)) (value : ℝ) :
    Placed bounds dimension (logs.set index (Scalar.clamp value low high)) := by
  refine ⟨by rw [List.length_set, placed.length], fun other ends log found at_ => ?_⟩
  by_cases same : index = other
  · subst same
    obtain rfl := Option.some.inj (entry.symm.trans found)
    have bound := (List.getElem?_eq_some_iff.1 at_).1
    rw [List.length_set] at bound
    rw [List.getElem?_set_self bound] at at_
    cases at_
    exact .inl (Scalar.clamp_mem (ordered.of_mem_box (List.mem_of_getElem? entry)) value)
  · rw [List.getElem?_set_ne same] at at_
    exact placed.each other ends log found at_

/-! ## Refinement -/

theorem Placed.moveCoordinate {best : Scored ℝ} (placed : Placed bounds dimension best.1)
    (ordered : bounds.Ordered) {index : Nat} {low high : ℝ}
    (entry : (bounds.box dimension)[index]? = some (low, high)) (step : ℝ) :
    Placed bounds dimension
      (RestartSearch.moveCoordinate data step best (index, low, high)).1 := by
  rcases moveCoordinate_cases data step best index low high with
    kept | ⟨coordinate, _, _, _, moved⟩
  · rw [kept]
    exact placed
  · rw [moved]
    exact placed.set ordered entry coordinate

theorem Placed.sweep {best : Scored ℝ} (placed : Placed bounds dimension best.1)
    (ordered : bounds.Ordered) (step : ℝ) :
    Placed bounds dimension
      (RestartSearch.sweep data (bounds.box dimension) step best).1 := by
  rw [RestartSearch.sweep]
  refine List.foldlRecOn (motive := fun next : Scored ℝ => Placed bounds dimension next.1)
    _ _ placed ?_
  rintro next placedNext ⟨⟨low, high⟩, index⟩ member
  exact placedNext.moveCoordinate ordered (List.mem_zipIdx_iff_getElem?.1 member) step

theorem Placed.refine {best : Scored ℝ} (placed : Placed bounds dimension best.1)
    (ordered : bounds.Ordered) (sweeps : Nat) (step : ℝ) :
    Placed bounds dimension
      (RestartSearch.refine data (bounds.box dimension) sweeps step best).1 := by
  induction sweeps generalizing step best with
  | zero => exact placed
  | succ sweeps inductionHypothesis =>
      exact inductionHypothesis (placed.sweep ordered step) _

/-! ## Parameters -/

theorem exists_of_length {logs : List ℝ} (length : logs.length = dimension + 2) :
    ∃ first middle last,
      logs = first :: (middle ++ [last]) ∧ middle.length = dimension := by
  cases logs with
  | nil => cases length
  | cons first rest =>
      have nonempty : rest ≠ [] := by
        rintro rfl
        simp at length
      refine ⟨first, rest.dropLast, rest.getLast nonempty, ?_, ?_⟩
      · rw [List.dropLast_append_getLast]
      · rw [List.length_dropLast]
        simp at length
        omega

theorem Placed.holdOrStandard (placed : Placed bounds dimension logs) :
    bounds.HoldOrStandard dimension (.ofLogs logs) ∧
      (KernelParameters.ofLogs logs).lengthscales.length = dimension := by
  obtain ⟨first, middle, last, rfl, length⟩ := exists_of_length placed.length
  rw [KernelParameters.ofLogs_eq]
  -- A logarithm within its bounds, or that of a standard parameter.
  have back : ∀ {ends : ℝ × ℝ} {log standard : ℝ}, 0 < standard →
      (ends.1 ≤ log ∧ log ≤ ends.2) ∨ Real.log standard = log →
        LogBounds.Within ends (Real.exp log) ∨ Real.exp log = standard := by
    intro ends log standard positive placed
    rcases placed with within | rfl
    · left
      rwa [LogBounds.Within, Real.log_exp]
    · exact .inr (Real.exp_log positive)
  have noise : (0 : ℝ) < 1e-4 := by norm_num
  refine ⟨⟨back one_pos ?_, fun lengthscale member => ?_, back noise ?_⟩,
    by rw [List.length_map, length]⟩
  · exact (placed.each 0 bounds.amplitude first rfl rfl).imp_right Option.some.inj
  · obtain ⟨log, inMiddle, rfl⟩ := List.mem_map.1 member
    obtain ⟨index, below, rfl⟩ := List.mem_iff_getElem.1 inMiddle
    have each := placed.each (index + 1) bounds.lengthscale middle[index]
    have placedLog :
        (bounds.lengthscale.1 ≤ middle[index] ∧ middle[index] ≤ bounds.lengthscale.2) ∨
          Real.log 0.5 = middle[index] := by
      simpa [LogBounds.box, KernelParameters.toLogs, KernelParameters.standard,
        List.getElem?_append_left, below, ← length] using each
    refine (back (by norm_num) placedLog).imp_right fun same => ?_
    exact List.mem_replicate.2 ⟨by omega, same⟩
  · have each := placed.each (dimension + 1) bounds.noise last
    simpa [LogBounds.box, KernelParameters.toLogs, KernelParameters.standard,
      List.getElem?_append_right, length] using each

/-! ## The search -/

/-- Each parameter that the search finds lies within its bounds or is a standard one,
wherever the bounds are, and there is one lengthscale for each feature. Where the
standard parameters lie within the bounds, so do all that it finds. -/
theorem tune_within_bounds_or_standard (search : RestartSearch ℝ)
    (ordered : search.bounds.Ordered) {data : Observations ℝ} {key : Key}
    {parameters : KernelParameters ℝ}
    (tuned : search.tune data key = .ok parameters) :
    search.bounds.HoldOrStandard data.dimension parameters ∧
      parameters.lengthscales.length = data.dimension ∧
      (search.bounds.Hold (.standard data.dimension) →
        search.bounds.Hold parameters) := by
  have found : ∃ logs,
      Placed search.bounds data.dimension logs ∧ parameters = .ofLogs logs := by
    rcases Nat.eq_zero_or_pos data.numValid with none | observed
    · rw [tune, if_pos none] at tuned
      cases tuned
      exact ⟨_, placed_standard _ _, (KernelParameters.ofLogs_toLogs_standard _).symm⟩
    · have bestOf := search.bestOf_bestStart data key
      cases start : search.bestStart data key with
      | none =>
          rw [tune_of_bestStart_none observed start] at tuned
          cases tuned
      | some best =>
          rw [tune_of_bestStart observed start] at tuned
          cases tuned
          rw [start] at bestOf
          have placed := placed_of_mem_starts ordered bestOf.1
          exact ⟨_, placed.refine ordered search.sweeps 1, rfl⟩
  obtain ⟨logs, placed, rfl⟩ := found
  obtain ⟨holds, lengths⟩ := placed.holdOrStandard
  exact ⟨holds, lengths, holds.hold⟩

section Opposed

theorem ordered_standard : (LogBounds.standard : LogBounds ℝ).Ordered := by
  refine ⟨?_, ?_, ?_⟩ <;> exact Real.log_le_log (by norm_num) (by norm_num)

theorem hold_standard (dimension : Nat) :
    (LogBounds.standard : LogBounds ℝ).Hold (.standard dimension) := by
  refine ⟨⟨?_, ?_⟩, fun lengthscale member => ?_, ⟨?_, ?_⟩⟩
  · exact Real.log_le_log (by norm_num) (by norm_num [KernelParameters.standard])
  · exact Real.log_le_log one_pos (by norm_num [KernelParameters.standard])
  · rw [List.eq_of_mem_replicate member]
    exact ⟨Real.log_le_log (by norm_num) (by norm_num),
      Real.log_le_log (by norm_num) (by norm_num)⟩
  · exact Real.log_le_log (by norm_num) (by norm_num [KernelParameters.standard])
  · exact Real.log_le_log (by norm_num [KernelParameters.standard])
      (by norm_num [KernelParameters.standard])

theorem tune_within_bounds_or_standard_opposed :
    (standard : RestartSearch ℝ).bounds.Ordered ∧
      ∃ parameters,
        (standard : RestartSearch ℝ).tune opposed ⟨0⟩ = .ok parameters ∧
          (standard : RestartSearch ℝ).bounds.Hold parameters := by
  obtain ⟨parameters, tuned, _⟩ :=
    exists_tune standard regular_opposed.regularFiller regular_opposed.row_length ⟨0⟩
  obtain ⟨_, _, hold⟩ :=
    tune_within_bounds_or_standard standard ordered_standard tuned
  exact ⟨ordered_standard, parameters, tuned, hold (hold_standard _)⟩

/-- A search box that is one point, and not that of the standard parameters. -/
noncomputable def pointBox : RestartSearch ℝ :=
  ⟨1, 0, ⟨(1, 1), (0, 0), (-1, -1)⟩⟩

/-- The standard parameters are the only start, and they lie outside the box. -/
theorem standard_start_leaves_box :
    pointBox.bounds.Ordered ∧ 0 < opposed.numValid ∧
      pointBox.tune opposed ⟨0⟩ = .ok (.standard 1) ∧
      ¬ pointBox.bounds.Hold (.standard 1) := by
  have observed : 0 < opposed.numValid := by decide
  refine ⟨⟨le_rfl, le_rfl, le_rfl⟩, observed, ?_, fun hold => ?_⟩
  · have bestOf := pointBox.bestOf_bestStart opposed ⟨0⟩
    obtain ⟨parameters, tuned, _⟩ :=
      exists_tune pointBox regular_opposed.regularFiller regular_opposed.row_length ⟨0⟩
    cases start : pointBox.bestStart opposed ⟨0⟩ with
    | none =>
        rw [tune_of_bestStart_none observed start] at tuned
        cases tuned
    | some best =>
        rw [start] at bestOf
        have same : best.1 = (KernelParameters.standard 1).toLogs :=
          List.mem_singleton.1 bestOf.1
        rw [tune_of_bestStart observed start, refined, pointBox, refine, same,
          KernelParameters.ofLogs_toLogs_standard]
  · have above := hold.amplitude.1
    norm_num [pointBox, KernelParameters.standard] at above

end Opposed

end RestartSearch

end BatchBayes
