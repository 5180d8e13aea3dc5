import BatchBayes.Proofs.Acquisition.Evolution
/-!
Two searches that differ in their budgets only. The larger budget goes on where the
smaller one ends: whether the smaller one ends in the first population, between two
generations or within one, the sets that it values are the first ones that the other
values, and what the other finds is worth at least as much.
-/

namespace BatchBayes

namespace Evolution

variable {K : Type} [Scalar K]

section Prefix

variable [NormalSource K] (evolution : Evolution K) (scorer : Scorer K)
  (domain : Domain K)

/-! ## One generation -/

/-- Fewer children are the first of more children. -/
theorem brood_prefix (state : Evolving K) {count more : Nat} (le : count ≤ more) :
    evolution.brood scorer domain state count <+:
      evolution.brood scorer domain state more := by
  obtain ⟨rest, split⟩ := (List.take_isPrefix_take (l := state.members)).2 (.inl le)
  rw [brood, brood, offspring, offspring, ← split, Generator.forEach_append,
    List.map_append]
  exact List.prefix_append _ _

theorem generation_suffix (state : Evolving K) {count more : Nat} (le : count ≤ more) :
    (evolution.generation scorer domain state count).history <:+
      (evolution.generation scorer domain state more).history := by
  obtain ⟨rest, split⟩ := brood_prefix evolution scorer domain state le
  rw [history_generation, history_generation, ← split, List.reverse_append,
    List.append_assoc]
  exact List.suffix_append _ _

theorem history_suffix_generation (state : Evolving K) (count : Nat) :
    state.history <:+ (evolution.generation scorer domain state count).history :=
  List.suffix_append _ _

/-! ## All generations -/

theorem history_suffix_generations (state : Evolving K) (sizes : List Nat) :
    state.history <:+
      (sizes.foldl (evolution.generation scorer domain) state).history := by
  induction sizes generalizing state with
  | nil => exact List.suffix_refl _
  | cons count sizes inductionHypothesis =>
      exact (history_suffix_generation evolution scorer domain state count).trans
        (inductionHypothesis _)

/-- From the same population on, more sets continue fewer sets. -/
theorem generations_suffix (state : Evolving K) (populated : 0 < state.members.length)
    {left more : Nat} (le : left ≤ more) :
    ((generationSizes state.members.length left).foldl
        (evolution.generation scorer domain) state).history <:+
      ((generationSizes state.members.length more).foldl
        (evolution.generation scorer domain) state).history := by
  induction left using Nat.strong_induction_on generalizing state more with
  | _ left inductionHypothesis =>
      rcases Nat.eq_zero_or_pos left with rfl | positive
      · rw [generationSizes_zero]
        exact history_suffix_generations evolution scorer domain state _
      · rw [generationSizes_of_pos populated positive,
          generationSizes_of_pos populated (positive.trans_le le),
          List.foldl_cons, List.foldl_cons]
        rcases Nat.lt_or_ge left state.members.length with partly | fully
        · -- The smaller budget ends within this generation.
          rw [Nat.sub_eq_zero_of_le partly.le, generationSizes_zero]
          exact (generation_suffix evolution scorer domain state (by omega)).trans
            (history_suffix_generations evolution scorer domain _ _)
        · rw [Nat.min_eq_left fully, Nat.min_eq_left (fully.trans le)]
          have later :=
            inductionHypothesis (left - state.members.length) (by omega)
              (evolution.generation scorer domain state state.members.length)
              (by rwa [length_members_generation])
              (Nat.sub_le_sub_right le state.members.length)
          rwa [length_members_generation] at later

/-! ## Whole searches -/

omit [NormalSource K] in
/-- A smaller first population is the first part of a larger one. -/
theorem populate_suffix (size : Nat) {count more : Nat} (le : count ≤ more) (key : Key) :
    (evolution.populate scorer domain size count key).history <:+
      (evolution.populate scorer domain size more key).history := by
  obtain ⟨rest, rfl⟩ := Nat.exists_eq_add_of_le le
  rw [history_populate, history_populate, drawn, drawn, Generator.times_add,
    List.map_append, List.reverse_append]
  exact List.suffix_append _ _

/-- The search with that budget. -/
def allowing (evolution : Evolution K) (budget : Nat) : Evolution K :=
  { evolution with budget }

theorem run_allowing (budget size : Nat) (key : Key) :
    (evolution.allowing budget).run scorer domain size key =
      (generationSizes (min (max evolution.population 1) (max budget 1))
          (max budget 1 - min (max evolution.population 1) (max budget 1))).foldl
        (evolution.generation scorer domain)
        (evolution.populate scorer domain size
          (min (max evolution.population 1) (max budget 1)) key) := rfl

/-- The sets of the smaller budget come first, wherever it ends. -/
theorem run_suffix (size : Nat) (key : Key) {first second : Nat} (le : first ≤ second) :
    ((evolution.allowing first).run scorer domain size key).history <:+
      ((evolution.allowing second).run scorer domain size key).history := by
  rw [run_allowing, run_allowing]
  have budgets : max first 1 ≤ max second 1 := by omega
  have spends : 0 < max first 1 := by omega
  have populated : 0 < max evolution.population 1 := by omega
  generalize max first 1 = first, max second 1 = second,
    max evolution.population 1 = population at budgets spends populated ⊢
  rcases Nat.le_total first population with small | large
  · -- The smaller budget ends within the first population.
    rw [Nat.min_eq_right small, Nat.sub_self, generationSizes_zero]
    exact (populate_suffix evolution scorer domain size (by omega) key).trans
      (history_suffix_generations evolution scorer domain _ _)
  · rw [Nat.min_eq_left large, Nat.min_eq_left (large.trans budgets)]
    have members :=
      (length_populate evolution scorer domain size population key).1
    have continued :=
      generations_suffix evolution scorer domain
        (evolution.populate scorer domain size population key) (by rwa [members])
        (Nat.sub_le_sub_right budgets population)
    rwa [members] at continued

end Prefix

/-- A search with a larger budget values the sets of one with a smaller budget first, in
the same order, and finds nothing worse. -/
theorem larger_budget_continues [OrderedScalar K] [LinearScalar K] [NormalSource K]
    (evolution : Evolution K) (scorer : Scorer K) (domain : Domain K) {size : Nat}
    (positive : 0 < size) (key : Key) {first second : Nat} (le : first ≤ second) :
    (evolution.allowing first).evaluated scorer domain size key <+:
        (evolution.allowing second).evaluated scorer domain size key ∧
      ((evolution.allowing first).maximize scorer domain size key).score ≤
        ((evolution.allowing second).maximize scorer domain size key).score := by
  have suffix := run_suffix evolution scorer domain size key le
  refine ⟨(List.reverse_prefix.2 suffix).map _, ?_⟩
  have found :
      Elitist scorer ((evolution.allowing first).run scorer domain size key) :=
    elitist_run (evolution.allowing first) domain size key
  have best :
      Elitist scorer ((evolution.allowing second).run scorer domain size key) :=
    elitist_run (evolution.allowing second) domain size key
  rw [maximize_of_pos _ scorer domain positive, maximize_of_pos _ scorer domain positive]
  exact best.leader.2 _ (suffix.mem found.leader.1)

/-- The smaller budget does not fill the first population of three. -/
theorem larger_budget_continues_partialSearch :
    let total : Scorer ℝ := fun points => Scalar.sum points.flatten
    0 < 2 ∧ 2 ≤ 7 ∧
      (partialSearch.allowing 2).evaluated total mixedSpace.domain 2 ⟨0⟩ <+:
        (partialSearch.allowing 7).evaluated total mixedSpace.domain 2 ⟨0⟩ := by
  intro total
  have positive : 0 < 2 := by decide
  have le : 2 ≤ 7 := by decide
  exact ⟨positive, le,
    (larger_budget_continues partialSearch total mixedSpace.domain positive ⟨0⟩ le).1⟩

end Evolution

end BatchBayes
