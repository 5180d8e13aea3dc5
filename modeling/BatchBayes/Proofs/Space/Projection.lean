import BatchBayes.Proofs.Extended
import BatchBayes.Proofs.Space.Settled
/-!
Projection of feature vectors, whatever their coordinates are. The blocks that it returns
are accepted and come back unchanged when they are projected again, and where all
coordinates are finite they stand for the values that the vector stands for.
-/

namespace BatchBayes

/-! ## Exact coordinates -/

section Coordinates

variable (place value low high : ℝ)

theorem toUnit_finite :
    toUnit (Extended.finite value) (.finite low) (.finite high) =
      .finite (toUnit value low high) := by
  by_cases proper : low < high
  · rw [toUnit, toUnit, if_pos proper, if_pos (Extended.finite_lt _ _ |>.2 proper),
      Extended.finite_sub, Extended.finite_sub,
      Extended.finite_div _ (sub_pos.2 proper).ne', Extended.zero_eq, Extended.one_eq,
      Extended.clamp_finite]
  · rw [toUnit, toUnit, if_neg proper, if_neg (mt (Extended.finite_lt _ _).1 proper),
      Extended.ofScientific_eq]

theorem ofUnit_finite :
    ofUnit (Extended.finite place) (.finite low) (.finite high) =
      .finite (ofUnit place low high) := by
  by_cases proper : low < high
  · rw [ofUnit, ofUnit, if_pos proper, if_pos (Extended.finite_lt _ _ |>.2 proper),
      Extended.zero_eq, Extended.one_eq, Extended.clamp_finite, Extended.finite_sub,
      Extended.finite_mul, Extended.finite_add, Extended.clamp_finite]
  · rw [ofUnit, ofUnit, if_neg proper, if_neg (mt (Extended.finite_lt _ _).1 proper)]

/-- Clamping a coordinate first does not change where it lies. -/
theorem ofUnit_clamp (low high : Extended) :
    ofUnit (.finite (Scalar.clamp place 0 1)) low high =
      ofUnit (.finite place) low high := by
  obtain ⟨above, below⟩ := Scalar.clamp_mem zero_le_one place
  rw [ofUnit, ofUnit, Extended.zero_eq, Extended.one_eq, Extended.clamp_finite,
    Extended.clamp_finite, Scalar.clamp_of_mem above below]

end Coordinates

theorem oneHot_finite (width index : Nat) :
    (oneHot width index : List Extended) = (oneHot width index).map .finite := by
  rw [oneHot, oneHot, List.map_map]
  refine List.map_congr_left fun place _ => ?_
  rw [Function.comp_apply]
  split <;> rfl

theorem foldl_largestStep_finite (values : List ℝ) (best : Nat) (bestValue : ℝ)
    (index : Nat) :
    ((values.map Extended.finite).foldl largestStep
        (best, .finite bestValue, index)).1 =
      (values.foldl largestStep (best, bestValue, index)).1 := by
  induction values generalizing best bestValue index with
  | nil => rfl
  | cons value values inductionHypothesis =>
      rw [List.map_cons, List.foldl_cons, List.foldl_cons, largestStep, largestStep]
      by_cases larger : bestValue < value
      · rw [if_pos larger, if_pos (Extended.finite_lt _ _ |>.2 larger),
          inductionHypothesis]
      · rw [if_neg larger, if_neg (mt (Extended.finite_lt _ _).1 larger),
          inductionHypothesis]

theorem indexOfLargest_oneHot_finite {width index : Nat} (below : index < width) :
    indexOfLargest (oneHot width index : List Extended) = index := by
  have largest := indexOfLargest_oneHot below
  rw [oneHot_finite]
  cases same : (oneHot width index : List ℝ) with
  | nil =>
      rw [same] at largest
      exact largest
  | cons first rest =>
      rw [same] at largest
      exact (foldl_largestStep_finite rest 0 first 1).trans largest

namespace Range

/-! ## Blocks that stand for a value -/

/-- Whether a block is one that projection returns. -/
def Snapped : Range Extended → List Extended → Prop
  | linear _ _, block => ∃ place : ℝ, 0 ≤ place ∧ place ≤ 1 ∧ block = [.finite place]
  | logarithmic _ _, block => ∃ place : ℝ, 0 ≤ place ∧ place ≤ 1 ∧ block = [.finite place]
  | integer low high, block =>
      ∃ number : Int,
        low.toInt ≤ number ∧ number ≤ high.toInt ∧
          block = [.finite (toUnit (number : ℝ) low.toInt high.toInt)]
  | choice labels, block =>
      ∃ index < labels.length, block = oneHot labels.length index

theorem clamped_finite (value : ℝ) :
    [if Scalar.isFinite (Extended.finite value) then
        Scalar.clamp (Extended.finite value) 0 1
      else 0.5] =
      [Extended.finite (Scalar.clamp value 0 1)] := by
  rw [if_pos (Extended.isFinite_finite value), Extended.zero_eq, Extended.one_eq,
    Extended.clamp_finite]

/-- What stands for a coordinate of a range with two ends is in the unit interval. -/
theorem exists_clamped (place : Extended) :
    ∃ value : ℝ,
      0 ≤ value ∧ value ≤ 1 ∧
        [if Scalar.isFinite place then Scalar.clamp place 0 1 else 0.5] =
          [Extended.finite value] := by
  by_cases isFinite : Scalar.isFinite place = true
  · obtain ⟨value, rfl⟩ := Extended.exists_finite isFinite
    obtain ⟨above, below⟩ := Scalar.clamp_mem zero_le_one value
    exact ⟨_, above, below, clamped_finite value⟩
  · refine ⟨0.5, by norm_num, by norm_num, ?_⟩
    rw [if_neg isFinite, Extended.ofScientific_eq]

theorem exists_finiteOrMiddle (place : Extended) :
    ∃ value : ℝ, finiteOrMiddle place = .finite value := by
  rw [finiteOrMiddle]
  split
  case isTrue isFinite => exact Extended.exists_finite isFinite
  case isFalse => exact ⟨0.5, rfl⟩

/-- The coordinate of an integer range that stands for the integer at a place. -/
theorem project_integer (low high : Int64) {place : Extended} {value : ℝ}
    (found : finiteOrMiddle place = .finite value) :
    (integer low high).project [place] =
      [.finite
        (toUnit ((Scalar.round (ofUnit value (low.toInt : ℝ) high.toInt) : Int) : ℝ)
          low.toInt high.toInt)] := by
  simp only [project, List.headD_cons, found, Extended.ofInt_eq, ofUnit_finite,
    Extended.round_finite, toUnit_finite]

variable {range : Range Extended} {block : List Extended}

theorem snapped_project (sound : range.defect? = none)
    (length : block.length = range.width) : range.Snapped (range.project block) := by
  cases range with
  | linear low high => exact exists_clamped (block.headD 0.5)
  | logarithmic low high => exact exists_clamped (block.headD 0.5)
  | integer low high =>
      have ordered : low ≤ high := by simpa [defect?] using sound
      obtain ⟨place, rfl⟩ := List.length_eq_one_iff.1 length
      obtain ⟨value, found⟩ := exists_finiteOrMiddle place
      obtain ⟨above, below⟩ := round_ofUnit_mem ordered value
      exact ⟨_, above, below, project_integer low high found⟩
  | choice labels =>
      obtain ⟨index, below, projected⟩ := exists_project_choice sound length
      exact ⟨index, below, projected⟩

theorem Snapped.accepts (snapped : range.Snapped block) :
    range.accepts block = true := by
  have single : ∀ place : ℝ, 0 ≤ place → place ≤ 1 →
      [Extended.finite place].all
        (fun place => Scalar.isFinite place && Scalar.within place 0 1) = true := by
    intro place above below
    simp [Scalar.within, Extended.zero_eq, Extended.one_eq, above, below]
  cases range with
  | linear low high =>
      obtain ⟨place, above, below, rfl⟩ := snapped
      exact single place above below
  | logarithmic low high =>
      obtain ⟨place, above, below, rfl⟩ := snapped
      exact single place above below
  | integer low high =>
      obtain ⟨number, _, _, rfl⟩ := snapped
      obtain ⟨above, below⟩ := toUnit_mem (number : ℝ) low.toInt high.toInt
      exact single _ above below
  | choice labels =>
      obtain ⟨index, below, rfl⟩ := snapped
      have binary := binary_oneHot labels.length index
      have count := countP_oneHot below
      simp only [Range.accepts, oneHot_finite, List.all_map, List.countP_map,
        Function.comp_def, Extended.zero_eq, Extended.one_eq, Extended.finite_beq,
        Bool.and_eq_true, List.all_eq_true, Bool.or_eq_true, beq_iff_eq]
      exact ⟨binary, count⟩

/-- A block that stands for a value comes back. -/
theorem Snapped.project_eq (snapped : range.Snapped block) :
    range.project block = block := by
  have single : ∀ place : ℝ, 0 ≤ place → place ≤ 1 →
      [if Scalar.isFinite (Extended.finite place) then
          Scalar.clamp (Extended.finite place) 0 1
        else 0.5] =
        [Extended.finite place] := by
    intro place above below
    rw [clamped_finite, Scalar.clamp_of_mem above below]
  cases range with
  | linear low high =>
      obtain ⟨place, above, below, rfl⟩ := snapped
      exact single place above below
  | logarithmic low high =>
      obtain ⟨place, above, below, rfl⟩ := snapped
      exact single place above below
  | integer low high =>
      obtain ⟨number, above, below, rfl⟩ := snapped
      rw [project_integer low high rfl, ofUnit_toUnit_intCast above below,
        Scalar.round_intCast]
  | choice labels =>
      obtain ⟨index, below, rfl⟩ := snapped
      have comparable :
          ((oneHot labels.length index).map fun value =>
              if Scalar.isFinite value then value else -Scalar.infinity) =
            (oneHot labels.length index : List Extended) := by
        rw [oneHot_finite, List.map_map]
        rfl
      rw [project, comparable, indexOfLargest_oneHot_finite below]

/-- A block of finite coordinates stands for the value of its projection. -/
theorem decode_project (sound : range.defect? = none)
    (length : block.length = range.width)
    (finite : ∀ place ∈ block, Scalar.isFinite place = true) :
    range.decode (range.project block) = range.decode block := by
  have exists_single : block.length = 1 → ∃ value : ℝ, block = [.finite value] := by
    intro single
    obtain ⟨place, rfl⟩ := List.length_eq_one_iff.1 single
    obtain ⟨value, rfl⟩ := Extended.exists_finite (finite place List.mem_cons_self)
    exact ⟨value, rfl⟩
  cases range with
  | linear low high =>
      obtain ⟨value, rfl⟩ := exists_single length
      have clamped :
          (linear low high).project [.finite value] =
            [.finite (Scalar.clamp value 0 1)] :=
        clamped_finite value
      rw [clamped, decode, decode, List.headD_cons, List.headD_cons, ofUnit_clamp]
  | logarithmic low high =>
      obtain ⟨value, rfl⟩ := exists_single length
      have clamped :
          (logarithmic low high).project [.finite value] =
            [.finite (Scalar.clamp value 0 1)] :=
        clamped_finite value
      rw [clamped, decode, decode, List.headD_cons, List.headD_cons, ofUnit_clamp]
  | integer low high =>
      have ordered : low ≤ high := by simpa [defect?] using sound
      obtain ⟨value, rfl⟩ := exists_single length
      obtain ⟨above, below⟩ := round_ofUnit_mem ordered value
      -- The place of the nearest integer leads back to it, and it is its own nearest.
      rw [project_integer low high rfl, decode, decode, List.headD_cons,
        List.headD_cons]
      simp only [Extended.ofInt_eq, ofUnit_finite, Extended.round_finite,
        ofUnit_toUnit_intCast above below, Scalar.round_intCast]
  | choice labels =>
      -- Among finite coordinates none is replaced, so the same one is the largest.
      have comparable :
          (block.map fun value =>
            if Scalar.isFinite value then value else -Scalar.infinity) = block := by
        refine (List.map_congr_left fun value member => ?_).trans (List.map_id block)
        exact if_pos (finite value member)
      have projected :
          (choice labels).project block =
            oneHot labels.length (indexOfLargest block) := by
        rw [project, comparable]
      rw [projected, decode, decode,
        indexOfLargest_oneHot_finite (indexOfLargest_lt_length sound length)]

end Range

/-! ## Feature vectors -/

namespace Space

variable {space : Space Extended} {features : List Extended}

theorem snapped_of_mem_blocks_project (sound : space.defect? = none)
    (length : features.length = space.dimension) :
    ∀ entry ∈ blocks space.parameters (space.project features),
      entry.1.range.Snapped entry.2 := by
  rw [blocks_project length]
  intro entry member
  obtain ⟨before, inBlocks, rfl⟩ := List.mem_map.1 member
  exact Range.snapped_project (defect?_eq_none sound before.1 (mem_of_mem_blocks inBlocks))
    (length_of_mem_blocks length before inBlocks)

/-- A projected vector is accepted, whatever its coordinates were. -/
theorem accepts_project_extended (sound : space.defect? = none)
    (length : features.length = space.dimension) :
    space.accepts (space.project features) = true :=
  accepts_iff.2 ⟨length_projected length, fun entry member =>
    (snapped_of_mem_blocks_project sound length entry member).accepts⟩

theorem project_project (sound : space.defect? = none)
    (length : features.length = space.dimension) :
    space.project (space.project features) = space.project features := by
  have again := length_projected length
  have unchanged :
      ((blocks space.parameters (space.project features)).map fun entry =>
          entry.1.range.project entry.2) =
        (blocks space.parameters (space.project features)).map (·.2) :=
    List.map_congr_left fun entry member =>
      (snapped_of_mem_blocks_project sound length entry member).project_eq
  rw [project_eq again, unchanged, flatten_blocks again]

theorem decode_project (sound : space.defect? = none)
    (length : features.length = space.dimension)
    (finite : ∀ place ∈ features, Scalar.isFinite place = true) :
    space.decode (space.project features) = space.decode features := by
  rw [decode, decode, blocks_project length, List.map_map]
  congr 1
  refine List.map_congr_left fun entry member => ?_
  have inBlock : ∀ place ∈ entry.2, Scalar.isFinite place = true := by
    intro place inBlock
    apply finite
    rw [← flatten_blocks length]
    exact List.mem_flatten_of_mem (List.mem_map_of_mem member) inBlock
  have same :=
    Range.decode_project (defect?_eq_none sound entry.1 (mem_of_mem_blocks member))
      (length_of_mem_blocks length entry member) inBlock
  exact congrArg (Prod.mk entry.1.name) same

/-- In a sound space, every vector of the right length is projected onto an accepted one,
even where its coordinates are not finite. Projecting again changes nothing, and where all
coordinates are finite, the projected vector stands for the same assignment as the vector.
Drawn vectors are accepted, whatever the state of the generator is. -/
theorem projected_vectors (sound : space.defect? = none) :
    (∀ features : List Extended, features.length = space.dimension →
      space.accepts (space.project features) = true ∧
        space.project (space.project features) = space.project features ∧
        ((∀ place ∈ features, Scalar.isFinite place = true) →
          space.decode (space.project features) = space.decode features)) ∧
      ∀ generator : Generator, space.accepts (space.sample generator).1 = true :=
  ⟨fun _ length =>
      ⟨accepts_project_extended sound length, project_project sound length,
        decode_project sound length⟩,
    fun generator => accepts_project_extended sound (length_drawn _ generator)⟩

/-- A range of each kind. The two ends of the linear one are equal, and so are two of the
labels. -/
noncomputable def ofEachKind : Space Extended :=
  ⟨[⟨"rate", .logarithmic 0.25 8.0⟩, ⟨"shift", .linear 2.0 2.0⟩, ⟨"depth", .integer 1 5⟩,
    ⟨"kernel", .choice [.text "rbf", .text "linear", .text "rbf"]⟩]⟩

/-- A vector without a finite coordinate, and one with coordinates beyond the unit
interval. -/
theorem projected_vectors_of_each_kind :
    let lost : List Extended :=
      [.notANumber, .infinite true, .infinite false, .notANumber, .notANumber,
        .infinite true]
    let outside : List Extended :=
      [.finite 3, .finite (-1), .finite 0.3, .finite 7, .finite 7, .finite 0]
    ofEachKind.defect? = none ∧
      lost.length = ofEachKind.dimension ∧
      ofEachKind.accepts (ofEachKind.project lost) = true ∧
      ofEachKind.project (ofEachKind.project lost) = ofEachKind.project lost ∧
      outside.length = ofEachKind.dimension ∧
      (∀ place ∈ outside, Scalar.isFinite place = true) ∧
      ofEachKind.decode (ofEachKind.project outside) = ofEachKind.decode outside ∧
      ofEachKind.accepts (ofEachKind.sample (Key.ofSeed 7).generator).1 = true := by
  intro lost outside
  have ordered : (1 : Int64) ≤ 5 := by decide
  have sound : ofEachKind.defect? = none := by
    simp [ofEachKind, defect?, Range.defect?, Range.isOrdered, Extended.zero_eq,
      Extended.ofScientific_eq, ordered]
    norm_num
  have finite : ∀ place ∈ outside, Scalar.isFinite place = true := by simp [outside]
  obtain ⟨each, drawn⟩ := projected_vectors sound
  obtain ⟨accepted, again, _⟩ := each lost rfl
  obtain ⟨_, _, same⟩ := each outside rfl
  exact ⟨sound, rfl, accepted, again, rfl, finite, same finite, drawn _⟩

end Space

end BatchBayes
