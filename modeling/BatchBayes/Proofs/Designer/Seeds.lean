import Mathlib
import BatchBayes.Proofs.Designer.Feasible
import BatchBayes.Proofs.Seeding.Inside
/-!
Suggestions before there is a model. A seeder that answers every request with points of
the space never makes a suggestion fail. Over a space in which two ranges of one name
have nothing in common there is no such seeder.
-/

namespace BatchBayes

namespace Designer

section Seeds

variable {K : Type} [Scalar K] [DecimalText K] {designer : Designer K}

/-- A new designer seeds with the low-discrepancy sequence of its space. -/
theorem seeder_of_create [NormalSource K] {problem : Problem K}
    {configuration : Configuration K}
    (success : create problem configuration = .ok designer) :
    designer.problem = problem ∧
      designer.seeder =
        .quasiRandom problem.space (Key.ofSeed configuration.seed).split.2 ∧
      designer.seedRequests = [] := by
  rw [create] at success
  split at success
  case h_1 => cases success
  case h_2 =>
      split at success
      case h_1 => cases success
      case h_2 metric _ =>
          split at success
          case h_1 => cases success
          case h_2 =>
              generalize (Key.ofSeed configuration.seed).split = pair at success ⊢
              obtain ⟨kept, seedKey⟩ := pair
              cases success
              exact ⟨rfl, rfl, rfl⟩

theorem exists_suggestSeeds (serves : designer.seeder.Serves designer.problem.space)
    (count : Nat) :
    ∃ used kept,
      designer.suggestSeeds count =
        (.ok
            ((designer.seeder.answer designer.seedRequests ⟨count, used⟩).map
              .ofAssignment),
          { designer with
            key := kept
            seedRequests := ⟨count, used⟩ :: designer.seedRequests }) := by
  obtain ⟨used, kept, taken⟩ := designer.exists_nextKey
  obtain ⟨length, inside⟩ := serves designer.seedRequests ⟨count, used⟩
  refine ⟨used, kept, ?_⟩
  rw [suggestSeeds, taken]
  dsimp only
  rw [if_neg (not_not.2 length)]
  have stays :
      ({ designer with
          key := kept
          seedRequests := ⟨count, used⟩ :: designer.seedRequests } :
            Designer K).strayed?
        (designer.seeder.answer designer.seedRequests ⟨count, used⟩) = none := by
    rw [strayed?, List.findSome?_eq_none_iff]
    intro point member
    exact Option.isNone_iff_eq_none.1 (inside point member)
  rw [stays]

theorem suggest_of_isSeeding (seeding : designer.isSeeding = true) {count : Nat}
    (positive : count ≠ 0) : designer.suggest count = designer.suggestSeeds count := by
  rw [suggest, if_neg positive, if_pos seeding]

theorem suggestSeeds_of_strayed {count : Nat}
    (strays : ∀ request : SeedRequest,
      request.count = count →
      (designer.seeder.answer designer.seedRequests request).length = count ∧
        ∃ point ∈ designer.seeder.answer designer.seedRequests request,
          designer.problem.space.contains point = false) :
    ∃ message, (designer.suggestSeeds count).1 = .error (.seeding message) := by
  obtain ⟨used, kept, taken⟩ := designer.exists_nextKey
  obtain ⟨length, point, member, outside⟩ := strays ⟨count, used⟩ rfl
  rw [suggestSeeds, taken]
  dsimp only
  rw [if_neg (not_not.2 length)]
  split
  case h_1 => exact ⟨_, rfl⟩
  case h_2 stays =>
      rw [strayed?, List.findSome?_eq_none_iff] at stays
      have inside := stays point member
      rw [Space.contains, inside] at outside
      cases outside

end Seeds

/-! ## Coherent spaces -/

/-- Over a space without defect in which every range of a name holds the values of the
last one, the points of the low-discrepancy sequence and random points lie in the space,
whatever was asked for before. With such a seeder no suggestion of seeds fails. -/
theorem coherent_space_can_be_seeded {space : Space ℝ} (sound : space.defect? = none)
    (coherent : space.Coherent) :
    (∀ key, (Seeder.quasiRandom space key).Serves space) ∧
      (Seeder.random space).Serves space ∧
      ∀ designer : Designer ℝ,
        designer.problem.space = space →
        designer.isSeeding = true →
        ((∃ key, designer.seeder = .quasiRandom space key) ∨
          designer.seeder = .random space) →
        ∀ count, 1 ≤ count →
          ∃ suggestions,
            (designer.suggest count).1 = .ok suggestions ∧
              suggestions.length = count ∧
              ∀ suggestion ∈ suggestions,
                space.contains suggestion.assignment = true := by
  have quasiRandom := Seeder.quasiRandom_serves sound coherent
  have random := Seeder.random_serves sound coherent
  refine ⟨quasiRandom, random, ?_⟩
  rintro designer rfl seeding seeder count positive
  have serves : designer.seeder.Serves designer.problem.space := by
    rcases seeder with ⟨key, same⟩ | same
    · rw [same]
      exact quasiRandom key
    · rw [same]
      exact random
  obtain ⟨used, kept, suggested⟩ := exists_suggestSeeds serves count
  obtain ⟨length, inside⟩ := serves designer.seedRequests ⟨count, used⟩
  rw [suggest_of_isSeeding seeding (by omega), suggested]
  refine ⟨_, rfl, ?_, ?_⟩
  · rw [List.length_map, length]
  · intro suggestion member
    obtain ⟨point, inAnswer, rfl⟩ := List.mem_map.1 member
    exact inside point inAnswer

/-! ## Repeated names -/

section Repeated

theorem exists_create_standard (problem : Problem ℝ) {metric : Metric ℝ}
    (objective : problem.objective = .ok metric)
    (sound : problem.space.defect? = none) :
    ∃ designer key,
      create problem .standard = .ok designer ∧ designer.problem = problem ∧
        designer.seeder = .quasiRandom problem.space key ∧
        designer.isSeeding = true := by
  obtain ⟨designer, created, _, _, configuration, ledger, _⟩ :=
    exists_create Configuration.validate_standard objective sound
  obtain ⟨same, seeder, _⟩ := seeder_of_create created
  refine ⟨designer, _, created, same, seeder, ?_⟩
  rw [isSeeding, configuration, ledger]
  rfl

/-- Intervals of which two have one name, the later one inside the other. -/
noncomputable def nestedProblem : Problem ℝ :=
  ⟨⟨[⟨"x", .linear 0 1⟩, ⟨"n", .integer (-3) 3⟩, ⟨"x", .linear 0 0⟩]⟩,
    [⟨"y", .maximize, none, none⟩]⟩

theorem defect?_nestedProblem : nestedProblem.space.defect? = none := by
  have ordered : (-3 : Int64) ≤ 3 := by decide
  simp [nestedProblem, Space.defect?, Range.defect?, Range.isOrdered, ordered]

theorem coherent_nestedProblem : nestedProblem.space.Coherent := by
  intro parameter member range last value inside
  simp only [nestedProblem, List.mem_cons, List.not_mem_nil, or_false] at member
  rcases member with rfl | rfl | rfl
  · simp [nestedProblem, Space.rangeOf?] at last
    subst last
    cases value with
    | real value =>
        simp only [Range.contains, Scalar.within, Scalar.isFinite_real, Bool.true_and,
          Bool.and_eq_true, decide_eq_true_eq] at inside ⊢
        exact ⟨inside.1, inside.2.trans zero_le_one⟩
    | integer value => exact inside
    | label value => exact inside
  · simp [nestedProblem, Space.rangeOf?] at last
    rw [last]
    exact inside
  · simp [nestedProblem, Space.rangeOf?] at last
    rw [last]
    exact inside

theorem coherent_space_can_be_seeded_nested :
    nestedProblem.space.defect? = none ∧ nestedProblem.space.Coherent ∧
      ∃ designer suggestions,
        create nestedProblem .standard = .ok designer ∧
          (designer.suggest 3).1 = .ok suggestions ∧ suggestions.length = 3 ∧
          ∀ suggestion ∈ suggestions,
            nestedProblem.space.contains suggestion.assignment = true := by
  obtain ⟨designer, key, created, problem, seeder, seeding⟩ :=
    exists_create_standard nestedProblem rfl defect?_nestedProblem
  obtain ⟨suggestions, suggested, length, inside⟩ :=
    (coherent_space_can_be_seeded defect?_nestedProblem
      coherent_nestedProblem).2.2 designer (congrArg (·.space) problem) seeding
        (.inl ⟨key, seeder⟩) 3 (by decide)
  exact ⟨defect?_nestedProblem, coherent_nestedProblem, designer, suggestions, created,
    suggested, length, inside⟩

/-- Two intervals under one name that have no number in common. -/
noncomputable def conflictingProblem : Problem ℝ :=
  ⟨⟨[⟨"x", .linear 0 1⟩, ⟨"x", .linear 2.0 3.0⟩]⟩, [⟨"y", .maximize, none, none⟩]⟩

theorem contains_conflictingProblem (assignment : Assignment ℝ) :
    conflictingProblem.space.contains assignment = false := by
  rw [Bool.eq_false_iff, Ne, Space.contains_iff]
  intro inside
  obtain ⟨value, found, low⟩ :=
    inside ⟨"x", .linear 0 1⟩ (by simp [conflictingProblem])
  obtain ⟨other, same, high⟩ :=
    inside ⟨"x", .linear 2.0 3.0⟩ (by simp [conflictingProblem])
  obtain rfl := Option.some.inj (found.symm.trans same)
  cases value with
  | real value =>
      simp only [Range.contains, Scalar.within, Scalar.isFinite_real, Bool.true_and,
        Bool.and_eq_true, decide_eq_true_eq] at low high
      linarith
  | integer value => cases low
  | label value => cases low

/-- The check of a space looks at its ranges one by one. It accepts a space in which no
assignment lies, and there every seed strays. -/
theorem conflicting_space_cannot_be_seeded :
    conflictingProblem.space.defect? = none ∧
      (∀ key earlier request, 0 < request.count →
        ∃ point ∈
            (Seeder.quasiRandom conflictingProblem.space key).answer earlier request,
          conflictingProblem.space.contains point = false) ∧
      (∀ earlier request, 0 < request.count →
        ∃ point ∈ (Seeder.random conflictingProblem.space).answer earlier request,
          conflictingProblem.space.contains point = false) ∧
      ∃ designer,
        create conflictingProblem .standard = .ok designer ∧
          ∀ count, 1 ≤ count →
            ∃ message, (designer.suggest count).1 = .error (.seeding message) := by
  have sound : conflictingProblem.space.defect? = none := by
    simp [conflictingProblem, Space.defect?, Range.defect?, Range.isOrdered]
    norm_num
  have outside : ∀ points : List (Assignment ℝ), 0 < points.length →
      ∃ point ∈ points, conflictingProblem.space.contains point = false := by
    intro points positive
    exact ⟨points[0], List.getElem_mem positive, contains_conflictingProblem _⟩
  refine ⟨sound, ?_, ?_, ?_⟩
  · intro key earlier request positive
    exact outside _ (by rwa [Seeder.length_quasiRandom])
  · intro earlier request positive
    exact outside _ (by rwa [Seeder.length_random])
  · obtain ⟨designer, key, created, problem, seeder, seeding⟩ :=
      exists_create_standard conflictingProblem rfl sound
    refine ⟨designer, created, fun count positive => ?_⟩
    rw [suggest_of_isSeeding seeding (by omega)]
    apply suggestSeeds_of_strayed
    rintro request rfl
    rw [seeder, problem]
    refine ⟨Seeder.length_quasiRandom _ _ _ _, outside _ ?_⟩
    rw [Seeder.length_quasiRandom]
    exact positive

end Repeated

end Designer

end BatchBayes
