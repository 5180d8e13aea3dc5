import Mathlib
import BatchBayes.Proofs.Designer.Complete
import BatchBayes.Proofs.Designer.History
import BatchBayes.Proofs.Random.Uniform
/-!
Which suggestions of a batch are chosen by the upper confidence bound. The drawn
strategy decides, and in an interleaved batch the history of the run: the first
suggestion is one of them just where a trial was completed for the first time since
the last batch.
-/

namespace BatchBayes

/-- The flag that a suggestion carries in a namespace. -/
def Suggestion.upperBound? {K : Type} (suggestion : Suggestion K) (space : String) :
    Option Bool :=
  (suggestion.annotations.find? space "use_ucb").bind Decision.flag?

section Draw

variable {K : Type} [Scalar K] {coefficients : Coefficients K}

theorem Strategy.draw_of_certain_upperBound
    (units : ∀ key : Key, ¬ (key.unit : K) < 0 ∧ (key.unit : K) < 1)
    (certain : coefficients.upperBoundChance = 1) (key : Key) :
    draw coefficients key = allUpperBound := by
  rw [draw, certain]
  dsimp only
  rw [if_pos (units _).2]

theorem Strategy.draw_of_certain_exploration
    (units : ∀ key : Key, ¬ (key.unit : K) < 0 ∧ (key.unit : K) < 1)
    (never : coefficients.upperBoundChance = 0)
    (certain : coefficients.explorationChance = 1) (key : Key) :
    draw coefficients key = allExploration := by
  rw [draw, never, certain]
  dsimp only
  rw [if_neg (units _).1, if_pos (units _).2]

end Draw

namespace Designer

variable {K : Type} [Scalar K] [DecimalText K]

/-! ## Suggestions -/

theorem upperBound?_of_suggestionOf {designer : Designer K} {slot : Slot K}
    {suggestion : Suggestion K}
    (success : designer.suggestionOf slot = .ok suggestion) :
    suggestion.upperBound? designer.configuration.annotationSpace =
      some slot.decision.upperBound := by
  rw [suggestionOf] at success
  split at success
  case h_1 => cases success
  case h_2 =>
      obtain rfl := Except.ok.inj success
      exact slot.decision.flag?_write _ _

/-- The suggestions of a batch carry the flags of its plan. -/
theorem upperBound?_of_suggest {designer : Designer K}
    (seeded : designer.isSeeding = false) {count : Nat}
    {suggestions : List (Suggestion K)}
    (success : (designer.suggest count).1 = .ok suggestions) :
    count ≠ 0 ∧
      suggestions.map (·.upperBound? designer.configuration.annotationSpace) =
        ((designer.nextPlan count).flatMap SlotGroup.flags).map some := by
  obtain ⟨positive, slots, last, filled, made⟩ := slots_of_suggest seeded success
  refine ⟨positive, ?_⟩
  have flags :
      slots.map (·.decision.upperBound) =
        (designer.nextPlan count).flatMap SlotGroup.flags := by
    rw [nextSlots] at filled
    split at filled
    case h_1 => cases filled
    case h_2 => exact (Chooser.placed_of_fill filled).2
  rw [← flags, List.map_map]
  rw [mapM_eq_ok_iff] at made
  refine (map_eq_of_forall₂ made fun slot suggestion each => ?_).symm
  exact (upperBound?_of_suggestionOf each).symm

/-! ## Runs -/

theorem configuration_afterAll (designer : Designer K) (calls : List (Call K)) :
    (designer.afterAll calls).configuration = designer.configuration := by
  induction calls generalizing designer with
  | nil => rfl
  | cons call calls inductionHypothesis =>
      change ((designer.after call).afterAll calls).configuration = _
      rw [inductionHypothesis, (designer.after_setup call).2.2]

/-- Over a whole run, whatever was called and whichever calls failed, the strategy
of a batch decides which of its suggestions are flagged. The first suggestion of an
interleaved batch is flagged just where a trial was completed for the first time
since the last batch. Certain chances leave one strategy only. -/
theorem upper_bounds_of_run [NormalSource K] {problem : Problem K}
    {configuration : Configuration K} {start : Designer K} {calls : List (Call K)}
    {count : Nat} {suggestions : List (Suggestion K)}
    (created : create problem configuration = .ok start)
    (seeded : (start.afterAll calls).isSeeding = false)
    (success : ((start.afterAll calls).suggest count).1 = .ok suggestions) :
    ∃ flags : List Bool,
      suggestions.map (·.upperBound? configuration.annotationSpace) =
        flags.map some ∧
      ((start.afterAll calls).nextStrategy = .allUpperBound →
        ∀ flag ∈ flags, flag = true) ∧
      ((start.afterAll calls).nextStrategy = .allExploration →
        ∀ flag ∈ flags, flag = false) ∧
      ((start.afterAll calls).nextStrategy = .interleaved →
        ∃ first rest,
          flags = first :: rest ∧ (first = true ↔ start.NewlyCompleted calls) ∧
            ∀ flag ∈ rest, flag = false) ∧
      ((∀ key : Key, ¬ (key.unit : K) < 0 ∧ (key.unit : K) < 1) →
        (configuration.coefficients.upperBoundChance = 1 →
          ∀ flag ∈ flags, flag = true) ∧
        (configuration.coefficients.upperBoundChance = 0 →
          configuration.coefficients.explorationChance = 1 →
            ∀ flag ∈ flags, flag = false)) := by
  obtain ⟨_, settings, empty, _⟩ := create_eq_ok created
  obtain ⟨positive, carried⟩ := upperBound?_of_suggest seeded success
  have configured : (start.afterAll calls).configuration = configuration := by
    rw [configuration_afterAll, settings]
  have upperBound :
      (start.afterAll calls).nextStrategy = .allUpperBound →
        ∀ flag ∈ ((start.afterAll calls).nextPlan count).flatMap SlotGroup.flags,
          flag = true := by
    intro drawn flag member
    rw [nextPlan, drawn, Strategy.flatMap_flags_plan] at member
    exact List.eq_of_mem_replicate member
  have exploration :
      (start.afterAll calls).nextStrategy = .allExploration →
        ∀ flag ∈ ((start.afterAll calls).nextPlan count).flatMap SlotGroup.flags,
          flag = false := by
    intro drawn flag member
    rw [nextPlan, drawn, Strategy.flatMap_flags_plan] at member
    exact List.eq_of_mem_replicate member
  rw [configured] at carried
  refine ⟨_, carried, upperBound, exploration, fun drawn => ?_, fun units => ⟨?_, ?_⟩⟩
  · obtain ⟨rest, rfl⟩ := Nat.exists_eq_add_one_of_ne_zero positive
    refine ⟨(start.afterAll calls).ledger.hasUnseen, List.replicate rest false, ?_,
      hasUnseen_iff empty calls, fun flag => List.eq_of_mem_replicate⟩
    rw [nextPlan, drawn, Strategy.flatMap_flags_plan, List.replicate_succ]
    rfl
  · intro certain
    apply upperBound
    rw [nextStrategy, configured]
    exact Strategy.draw_of_certain_upperBound units certain _
  · intro never certain
    apply exploration
    rw [nextStrategy, configured]
    exact Strategy.draw_of_certain_exploration units never certain _

theorem upper_bounds_of_run_after_update :
    ∃ (start : Designer ℝ) (calls : List (Call ℝ))
      (suggestions : List (Suggestion ℝ)) (flags : List Bool),
      create unitProblem .standard = .ok start ∧
        (start.afterAll calls).isSeeding = false ∧
        ((start.afterAll calls).suggest 2).1 = .ok suggestions ∧
        (∀ key : Key, ¬ (key.unit : ℝ) < 0 ∧ (key.unit : ℝ) < 1) ∧
        start.NewlyCompleted calls ∧
        suggestions.map (·.upperBound? "gp_ucb_pe_bandit") = flags.map some ∧
        ((start.afterAll calls).nextStrategy = .interleaved →
          ∃ rest, flags = true :: rest ∧ ∀ flag ∈ rest, flag = false) := by
  obtain ⟨start, search, ensemble, created, updated, problem, _, tuner, kept⟩ :=
    exists_unit_update
  have reachable : (start.afterAll [.update [startTrial] []]).Reachable :=
    Reachable.called (.update [startTrial] []) (.created created)
  have seeded : (start.afterAll [.update [startTrial] []]).isSeeding = false :=
    (reachable.consistent.fresh ensemble kept).seeded
  have distinct :
      (start.afterAll [.update [startTrial] []]).problem.space.names.Nodup := by
    change (start.after (.update [startTrial] [])).problem.space.names.Nodup
    rw [problem]
    decide
  have new : start.NewlyCompleted [.update [startTrial] []] := by
    refine ⟨[], _, [], rfl, ⟨1, ?_, ?_⟩, trivial⟩
    · change 1 ∈ start.delivers (.update [startTrial] [])
      rw [delivers, updated]
      exact List.mem_singleton_self 1
    · exact List.not_mem_nil
  have units : ∀ key : Key, ¬ (key.unit : ℝ) < 0 ∧ (key.unit : ℝ) < 1 := by
    intro key
    exact ⟨not_lt.2 key.unit_real.1, key.unit_real.2⟩
  obtain ⟨slots, last, _, suggested⟩ :=
    exists_suggest reachable.consistent reachable.sound tuner distinct seeded
      (by decide : 2 ≠ 0)
  obtain ⟨flags, carried, _, _, interleaved, _⟩ :=
    upper_bounds_of_run created seeded suggested
  refine ⟨start, _, _, flags, created, seeded, suggested, units, new, carried,
    fun drawn => ?_⟩
  obtain ⟨first, rest, rfl, flagged, later⟩ := interleaved drawn
  exact ⟨rest, by rw [flagged.2 new], later⟩

end Designer

end BatchBayes
