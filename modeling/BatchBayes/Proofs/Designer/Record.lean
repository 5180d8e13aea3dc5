import Mathlib
import BatchBayes.Proofs.Batch.Meaning
import BatchBayes.Proofs.Designer.Complete
import BatchBayes.Proofs.Space.Settled
/-!
The record of a suggestion and the point that is suggested. A record is made at a
feature vector, and the suggestion carries what the vector stands for. The model sees
the same vector again where it is settled, and otherwise one that agrees with it on
the settled blocks.
-/

namespace BatchBayes

/-! ## Slots -/

namespace Chooser

variable {K : Type} [Scalar K] {chooser : Chooser K} {ensemble last : Ensemble K}
  {slots : List (Slot K)}

/-- Single slots are filled with the first point that is found, where it lies in the
domain. -/
theorem features_of_fillGroups {point : List K} {groups : List (SlotGroup × Key)}
    (separate : ∀ entry ∈ groups, ∃ policy, entry.1 = .single policy)
    (found : ∀ scorer domain count key,
      (chooser.maximizer.maximize scorer domain count key).points.head? = some point)
    (inside : chooser.domain.contains point = true)
    (success : chooser.fillGroups ensemble groups = .ok (slots, last)) :
    ∀ slot ∈ slots, slot.features = point := by
  induction groups generalizing ensemble slots with
  | nil =>
      obtain ⟨rfl, rfl⟩ := Prod.mk.inj (Except.ok.inj success)
      exact fun slot member => (nomatch member)
  | cons head groups inductionHypothesis =>
      obtain ⟨group, key⟩ := head
      obtain ⟨policy, rfl⟩ := separate _ List.mem_cons_self
      obtain ⟨first, middle, rest, chosen, _, filled, rfl⟩ :=
        fillGroups_cons_eq_ok.1 success
      have later :=
        inductionHypothesis
          (fun entry member => separate entry (List.mem_cons_of_mem _ member)) filled
      intro slot member
      rcases List.mem_append.1 member with inFirst | inRest
      · rw [choose, single] at chosen
        dsimp only at chosen
        split at chosen
        case isTrue => cases chosen
        case isFalse =>
            obtain rfl := Except.ok.inj chosen
            obtain rfl := List.mem_singleton.1 inFirst
            dsimp only
            rw [found, inDomain, if_pos inside]
      · exact later slot inRest

end Chooser

namespace Designer

theorem Consistent.conditioned_of_ready {K : Type} [Scalar K] [DecimalText K]
    {designer : Designer K} (consistent : designer.Consistent)
    (seeded : designer.isSeeding = false) {ensemble : Ensemble K}
    (made : designer.ready.1 = .ok ensemble) : ensemble.Conditioned := by
  obtain ⟨_, _, _, key, fitted⟩ := consistent.fresh_of_ready seeded made
  exact Ensemble.conditioned_of_fit fitted

/-- The slots of a batch become pending, and their records are explained in turn by
the ensemble that the batch is chosen over. -/
theorem Consistent.explained_of_nextSlots {K : Type} [Scalar K] [DecimalText K]
    {designer : Designer K} (consistent : designer.Consistent)
    (seeded : designer.isSeeding = false) {count : Nat} {slots : List (Slot K)}
    {last : Ensemble K} (filled : designer.nextSlots count = .ok (slots, last)) :
    ∃ ensemble,
      designer.ready.1 = .ok ensemble ∧
        last.pending = ensemble.pending ++ slots.map (·.features) ∧
        ∃ parts,
          slots = parts.flatten ∧
            Chooser.ExplainedInTurn designer.configuration.coefficients ensemble
              (designer.nextPlan count) parts := by
  rw [nextSlots] at filled
  split at filled
  case h_1 => cases filled
  case h_2 ensemble made =>
      have conditioned := consistent.conditioned_of_ready seeded made
      obtain ⟨added, parts, flat, explained⟩ :=
        Chooser.fillGroups_spec conditioned filled
      rw [Chooser.map_fst_zip_children] at explained
      exact ⟨ensemble, made, (Ensemble.conditionOn_eq_ok added).2.2.1, parts, flat,
        explained⟩

variable {designer : Designer ℝ}

theorem accepts_of_nextSlots (sound : designer.problem.space.defect? = none)
    {count : Nat} {slots : List (Slot ℝ)} {last : Ensemble ℝ}
    (filled : designer.nextSlots count = .ok (slots, last)) :
    ∀ slot ∈ slots, designer.problem.space.accepts slot.features = true := by
  rw [nextSlots] at filled
  split at filled
  case h_1 => cases filled
  case h_2 ensemble _ =>
      have sampled : ∀ generator,
          designer.chooser.domain.contains
            (designer.chooser.domain.sample generator).1 = true :=
        Space.accepts_sample sound
      intro slot member
      obtain ⟨point, key, features⟩ := (Chooser.placed_of_fill filled).1 slot member
      rw [features]
      exact Chooser.contains_inDomain sampled point key

/-- Without joint exploration, a maximizer that always begins with one point of the
domain fills every slot with it. -/
theorem features_of_nextSlots {K : Type} [Scalar K] [DecimalText K]
    {designer : Designer K} {point : List K} {count : Nat} {slots : List (Slot K)}
    {last : Ensemble K}
    (separate : designer.configuration.coefficients.jointExploration = false)
    (found : ∀ scorer domain count key,
      (designer.maximizer.maximize scorer domain count key).points.head? = some point)
    (inside : designer.problem.space.accepts point = true)
    (filled : designer.nextSlots count = .ok (slots, last)) :
    ∀ slot ∈ slots, slot.features = point := by
  rw [nextSlots] at filled
  split at filled
  case h_1 => cases filled
  case h_2 ensemble _ =>
      rw [nextPlan, separate] at filled
      exact Chooser.features_of_fillGroups Chooser.single_of_mem_zip_plan found inside
        filled

/-- In exact arithmetic, past the seeds and where no two parameters have one name,
the suggestions of a batch are those of its slots, which hold vectors of the domain.
The vectors become pending, and the records are those of the predictions at them. A
suggestion is written as features again, and these are the vector of the record where
it is settled; otherwise its settled blocks are as they were. Where every range is
plain, all projected vectors are settled. -/
theorem record_of_settled_point (reachable : designer.Reachable)
    (distinct : designer.problem.space.names.Nodup)
    (seeded : designer.isSeeding = false) {count : Nat}
    {suggestions : List (Suggestion ℝ)}
    (success : (designer.suggest count).1 = .ok suggestions) :
    (∃ ensemble slots last,
      designer.ready.1 = .ok ensemble ∧
        designer.nextSlots count = .ok (slots, last) ∧
        suggestions = slots.map designer.suggestionFrom ∧
        last.pending = ensemble.pending ++ slots.map (·.features) ∧
        (∃ parts,
          slots = parts.flatten ∧
            Chooser.ExplainedInTurn designer.configuration.coefficients ensemble
              (designer.nextPlan count) parts) ∧
        ∀ slot ∈ slots,
          designer.problem.space.accepts slot.features = true ∧
            ∃ again,
              designer.problem.space.encode
                  (designer.suggestionFrom slot).assignment = .ok again ∧
                designer.problem.space.Restates slot.features again ∧
                (designer.problem.space.Settled slot.features →
                  again = slot.features)) ∧
    (∀ features,
      designer.problem.space.accepts features = true →
      designer.problem.space.Settled features →
        designer.problem.space.encode (designer.problem.space.decode features) =
          .ok features) ∧
    ((∀ parameter ∈ designer.problem.space.parameters, parameter.range.Plain) →
      ∀ features,
        features.length = designer.problem.space.dimension →
          designer.problem.space.Settled (designer.problem.space.project features)) := by
  have sound := reachable.sound
  have positive := (slots_of_suggest seeded success).1
  refine ⟨?_, fun features => Space.encode_decode_of_settled sound.space distinct,
    fun plain features => Space.settled_project sound.space plain⟩
  rcases sound.suggest_cases distinct seeded positive with
    ⟨error, _, failed⟩ | ⟨slots, last, filled, suggested⟩
  · rw [failed] at success
    cases success
  · rw [suggested] at success
    obtain rfl := Except.ok.inj success
    obtain ⟨ensemble, made, pending, explained⟩ :=
      reachable.consistent.explained_of_nextSlots seeded filled
    refine ⟨ensemble, slots, last, made, filled, rfl, pending, explained, ?_⟩
    intro slot member
    have accepted := accepts_of_nextSlots sound.space filled slot member
    obtain ⟨again, encoded, restates⟩ :=
      Space.exists_restated sound.space distinct accepted
    exact ⟨accepted, again, encoded, restates,
      restates.eq_of_settled (Space.length_of_accepts accepted)⟩

theorem record_of_settled_point_of_unitSpace :
    ∃ (designer : Designer ℝ) (suggestions : List (Suggestion ℝ)) (slot : Slot ℝ),
      designer.Reachable ∧ designer.problem.space.names.Nodup ∧
        designer.isSeeding = false ∧ (designer.suggest 1).1 = .ok suggestions ∧
        suggestions = [designer.suggestionFrom slot] ∧
        designer.problem.space.encode (designer.suggestionFrom slot).assignment =
          .ok slot.features := by
  obtain ⟨designer, reachable, space, _, ⟨search, tuner⟩, ensemble, kept⟩ :=
    exists_reachable_with_ensemble
  have distinct : designer.problem.space.names.Nodup := by
    rw [space]
    decide
  have seeded : designer.isSeeding = false :=
    (reachable.consistent.fresh ensemble kept).seeded
  obtain ⟨_, _, _, suggested⟩ :=
    exists_suggest reachable.consistent reachable.sound tuner distinct seeded
      (by decide : 1 ≠ 0)
  obtain ⟨⟨_, slots, last, _, filled, same, _, _, each⟩, _⟩ :=
    record_of_settled_point reachable distinct seeded suggested
  obtain ⟨slot, rfl⟩ := List.length_eq_one_iff.1 (slots_of_nextSlots filled).1
  have settled : designer.problem.space.Settled slot.features := by
    rw [space]
    intro entry member
    obtain rfl := List.mem_singleton.1 member
    exact .inl zero_lt_one
  obtain ⟨_, again, encoded, _, unchanged⟩ := each slot List.mem_cons_self
  rw [unchanged settled] at encoded
  exact ⟨designer, _, slot, reachable, distinct, seeded, suggested, same, encoded⟩

/-! ## Vectors that are not settled -/

/-- An interval without width, two integers, and a label that is there twice. -/
noncomputable def crowdedSpace : Space ℝ :=
  ⟨[⟨"x", .linear 1 1⟩, ⟨"k", .integer 0 1⟩, ⟨"c", .choice [.text "a", .text "a"]⟩]⟩

/-- A vector of the crowded space with no settled block. -/
noncomputable def crowdedPoint : List ℝ :=
  [0, 1 / 4, 0, 1]

noncomputable def crowdedMaximizer : Maximizer ℝ :=
  ⟨"fixed", fun _ _ _ _ => ⟨[crowdedPoint], 0, 1⟩⟩

noncomputable def crowdedProblem : Problem ℝ :=
  ⟨crowdedSpace, [⟨"y", .maximize, none, none⟩]⟩

theorem defect?_crowdedSpace : crowdedSpace.defect? = none := by
  simp [crowdedSpace, Space.defect?, Range.defect?_eq_none_iff]

theorem accepts_crowdedPoint : crowdedSpace.accepts crowdedPoint = true := by
  simp [crowdedSpace, crowdedPoint, Space.accepts, Space.dimension, Space.blocks,
    Range.width, Range.accepts, Scalar.within]
  norm_num

/-- A number of an interval without width comes back as the middle. -/
theorem restate_linear {name : String} {low high place : ℝ} (empty : ¬ low < high) :
    Space.restate (⟨name, .linear low high⟩, [place]) = .ok [0.5] := by
  change Except.ok [toUnit (ofUnit place low high) low high] = .ok [0.5]
  rw [toUnit, if_neg empty]

theorem restate_quarter :
    Space.restate (⟨"k", .integer 0 1⟩, [(1 / 4 : ℝ)]) = .ok [0] := by
  have place : ofUnit (1 / 4 : ℝ) 0 1 = 1 / 4 := by
    rw [ofUnit_eq (by norm_num) (by norm_num) (by norm_num)]
    norm_num
  have nearest : Scalar.round (1 / 4 : ℝ) = 0 := by
    change (if (0 : ℝ) ≤ 1 / 4 then ⌊(1 / 4 : ℝ) + 1 / 2⌋ else _) = 0
    rw [if_pos (by norm_num), Int.floor_eq_iff]
    norm_num
  have value : (Range.integer 0 1).decode [(1 / 4 : ℝ)] = .integer 0 := by
    change
      Value.integer
          (Int64.ofInt (max 0
            (min (Scalar.round (ofUnit (1 / 4 : ℝ) ((0 : Int) : ℝ) ((1 : Int) : ℝ)))
              1))) = .integer 0
    rw [Int.cast_zero, Int.cast_one, place, nearest]
    rfl
  rw [Space.restate, value]
  change Except.ok [toUnit ((0 : Int) : ℝ) ((0 : Int) : ℝ) ((1 : Int) : ℝ)] = .ok [0]
  rw [Int.cast_zero, Int.cast_one, toUnit, if_pos one_pos,
    Scalar.clamp_of_mem (by norm_num) (by norm_num)]
  norm_num

theorem restate_second_label :
    Space.restate (⟨"c", .choice [.text "a", .text "a"]⟩, [(0 : ℝ), 1]) =
      .ok [1, 0] := by
  have later : indexOfLargest [(0 : ℝ), 1] = 1 := by
    simp [indexOfLargest, largestStep]
  have first : oneHot 2 0 = [(1 : ℝ), 0] := by
    simp [oneHot_succ_zero]
  rw [Space.restate, Range.decode, later]
  change Except.ok (oneHot 2 0) = .ok [(1 : ℝ), 0]
  rw [first]

theorem encode_decode_crowdedPoint :
    crowdedSpace.encode (crowdedSpace.decode crowdedPoint) = .ok [0.5, 0, 1, 0] := by
  have cut :
      Space.blocks crowdedSpace.parameters crowdedPoint =
        [(⟨"x", .linear 1 1⟩, [0]), (⟨"k", .integer 0 1⟩, [1 / 4]),
          (⟨"c", .choice [.text "a", .text "a"]⟩, [0, 1])] := rfl
  have parts :
      (Space.blocks crowdedSpace.parameters crowdedPoint).mapM Space.restate =
        .ok [[0.5], [0], [1, 0]] := by
    rw [cut, mapM_eq_ok_iff]
    exact .cons (restate_linear (lt_irrefl 1))
      (.cons restate_quarter (.cons restate_second_label .nil))
  rw [Space.encode_decode_eq (by decide), parts]
  rfl

theorem exists_crowded_designer :
    ∃ (designer : Designer ℝ) (search : RestartSearch ℝ),
      designer.Reachable ∧ designer.problem.space = crowdedSpace ∧
        designer.maximizer = crowdedMaximizer ∧ designer.configuration = .standard ∧
        designer.tuner = search.tune ∧ designer.isSeeding = false := by
  have distinct : crowdedSpace.names.Nodup := by decide
  have objective :
      crowdedProblem.objective = .ok ⟨"y", .maximize, none, none⟩ := rfl
  let trial : Trial ℝ :=
    (Trial.start 1 (crowdedSpace.decode crowdedPoint) default).complete
      (Table.empty.insert "y" 1) default
  have inside : crowdedSpace.violation? trial.assignment = none :=
    Space.violation?_decode defect?_crowdedSpace distinct
      (Space.length_of_accepts accepts_crowdedPoint)
  obtain ⟨start, search, ensemble, created, _, problem, configuration, tuner, kept⟩ :=
    exists_first_update Configuration.validate_standard objective
      defect?_crowdedSpace (by decide : (1 : UInt64).toNat ≤ 1)
      (rfl : trial.isCompleted = true) inside
  have reachable :
      ((start.after (.update [trial] [])).after
        (.replaceMaximizer crowdedMaximizer)).Reachable :=
    .called _ (.called _ (.created created))
  exact ⟨_, search, reachable, congrArg (·.space) problem, rfl, configuration, tuner,
    (reachable.consistent.fresh ensemble kept).seeded⟩

/-- A suggestion of the crowded space whose features are not those that its record was
made at: each block comes back as another one. -/
theorem record_of_unsettled_point :
    ∃ (designer : Designer ℝ) (ensemble last : Ensemble ℝ) (slot : Slot ℝ),
      designer.Reachable ∧ designer.problem.space = crowdedSpace ∧
        crowdedSpace.defect? = none ∧ crowdedSpace.names.Nodup ∧
        designer.isSeeding = false ∧
        designer.ready.1 = .ok ensemble ∧
        designer.nextSlots 1 = .ok ([slot], last) ∧
        (designer.suggest 1).1 = .ok [designer.suggestionFrom slot] ∧
        slot.features = [0, 1 / 4, 0, 1] ∧
        crowdedSpace.accepts slot.features = true ∧
        last.pending = ensemble.pending ++ [slot.features] ∧
        crowdedSpace.encode (designer.suggestionFrom slot).assignment =
          .ok [0.5, 0, 1, 0] ∧
        crowdedSpace.encode (designer.suggestionFrom slot).assignment ≠
          .ok slot.features := by
  have distinct : crowdedSpace.names.Nodup := by decide
  obtain ⟨designer, search, reachable, space, maximizer, configuration, tuner, seeded⟩ :=
    exists_crowded_designer
  obtain ⟨slots, last, filled, suggested⟩ :=
    exists_suggest reachable.consistent reachable.sound tuner (space ▸ distinct) seeded
      (by decide : 1 ≠ 0)
  obtain ⟨slot, rfl⟩ := List.length_eq_one_iff.1 (slots_of_nextSlots filled).1
  obtain ⟨ensemble, made, pending, _⟩ :=
    reachable.consistent.explained_of_nextSlots seeded filled
  have features : slot.features = crowdedPoint := by
    have separate :
        designer.configuration.coefficients.jointExploration = false := by
      rw [configuration]
      rfl
    have found : ∀ scorer domain count key,
        (designer.maximizer.maximize scorer domain count key).points.head? =
          some crowdedPoint := by
      rw [maximizer]
      exact fun _ _ _ _ => rfl
    exact features_of_nextSlots separate found (space ▸ accepts_crowdedPoint) filled
      slot List.mem_cons_self
  have again :
      crowdedSpace.encode (designer.suggestionFrom slot).assignment =
        .ok [0.5, 0, 1, 0] := by
    rw [suggestionFrom, space, features]
    exact encode_decode_crowdedPoint
  refine ⟨designer, ensemble, last, slot, reachable, space, defect?_crowdedSpace,
    distinct, seeded, made, filled, suggested, features, ?_, pending, again, ?_⟩
  · rw [features]
    exact accepts_crowdedPoint
  · rw [again, features, crowdedPoint]
    intro same
    have first := (List.cons.inj (Except.ok.inj same)).1
    norm_num at first

end Designer

end BatchBayes
