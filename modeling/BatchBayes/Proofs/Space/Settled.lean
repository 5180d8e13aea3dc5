import Mathlib
import BatchBayes.Proofs.Space.Dimension
import BatchBayes.Proofs.Space.Inside
import BatchBayes.Proofs.Space.OneHot
/-!
Feature vectors that come back unchanged when they are read as an assignment and
written as features again. Each block comes back by itself: a coordinate of a range
with two ends does, one of an integer range where it belongs to an integer, and a
choice where no earlier label is the same.
-/

namespace BatchBayes

/-! ## Coordinates -/

theorem toUnit_mem (value low high : ℝ) :
    0 ≤ toUnit value low high ∧ toUnit value low high ≤ 1 := by
  rw [toUnit]
  by_cases proper : low < high
  · rw [if_pos proper]
    exact Scalar.clamp_mem zero_le_one _
  · rw [if_neg proper]
    norm_num

theorem ofUnit_eq {place low high : ℝ} (proper : low < high) (above : 0 ≤ place)
    (below : place ≤ 1) : ofUnit place low high = low + place * (high - low) := by
  have width : 0 < high - low := sub_pos.2 proper
  rw [ofUnit, if_pos proper, Scalar.clamp_of_mem above below]
  apply Scalar.clamp_of_mem
  · nlinarith
  · nlinarith

theorem toUnit_ofUnit {place low high : ℝ} (proper : low < high) (above : 0 ≤ place)
    (below : place ≤ 1) : toUnit (ofUnit place low high) low high = place := by
  have width : high - low ≠ 0 := (sub_pos.2 proper).ne'
  have ratio : (low + place * (high - low) - low) / (high - low) = place := by
    field_simp
    ring
  rw [ofUnit_eq proper above below, toUnit, if_pos proper, ratio,
    Scalar.clamp_of_mem above below]

theorem ofUnit_toUnit {value low high : ℝ} (above : low ≤ value)
    (below : value ≤ high) : ofUnit (toUnit value low high) low high = value := by
  by_cases proper : low < high
  · have width : 0 < high - low := sub_pos.2 proper
    have nonneg : 0 ≤ (value - low) / (high - low) :=
      div_nonneg (sub_nonneg.2 above) width.le
    have atMost : (value - low) / (high - low) ≤ 1 := by
      rw [div_le_one width]
      linarith
    rw [toUnit, if_pos proper, Scalar.clamp_of_mem nonneg atMost,
      ofUnit_eq proper nonneg atMost, div_mul_cancel₀ _ width.ne']
    ring
  · rw [ofUnit, if_neg proper]
    linarith

/-- The place of an integer between two others leads back to it. -/
theorem ofUnit_toUnit_intCast {low high number : Int} (above : low ≤ number)
    (below : number ≤ high) :
    ofUnit (toUnit (number : ℝ) low high) (low : ℝ) high = number :=
  ofUnit_toUnit (by exact_mod_cast above) (by exact_mod_cast below)

/-! ## Ranges -/

namespace Range

/-- Whether a block comes back when its value is written as a block again. -/
def Settled : Range ℝ → List ℝ → Prop
  | linear low high, block => low < high ∨ block = [0.5]
  | logarithmic low high, block => low < high ∨ block = [0.5]
  | integer low high, block =>
      ∃ number : Int64,
        low ≤ number ∧ number ≤ high ∧
          block =
            [toUnit (Scalar.ofInt number.toInt) (Scalar.ofInt low.toInt)
              (Scalar.ofInt high.toInt)]
  | choice labels, block =>
      ∀ earlier < indexOfLargest block,
        (labels.getD earlier .null ==
          labels.getD (indexOfLargest block) .null) = false

theorem exists_place {range : Range ℝ} {block : List ℝ} (single : block.length = 1)
    (accepted : range.accepts block = true)
    (numeric : ∀ labels, range ≠ choice labels) :
    ∃ place, block = [place] ∧ 0 ≤ place ∧ place ≤ 1 := by
  obtain ⟨place, rfl⟩ := List.length_eq_one_iff.1 single
  refine ⟨place, rfl, ?_⟩
  cases range with
  | choice labels => exact absurd rfl (numeric labels)
  | linear low high => simpa [accepts, Scalar.within] using accepted
  | integer low high => simpa [accepts, Scalar.within] using accepted
  | logarithmic low high => simpa [accepts, Scalar.within] using accepted

theorem encode_decode_linear {low high place : ℝ} (above : 0 ≤ place)
    (below : place ≤ 1) (name : String)
    (settled : (linear low high).Settled [place]) :
    (linear low high).encode name ((linear low high).decode [place]) =
      .ok [place] := by
  change Except.ok [toUnit (ofUnit place low high) low high] = .ok [place]
  rcases settled with proper | middle
  · rw [toUnit_ofUnit proper above below]
  · obtain rfl := List.singleton_inj.1 middle
    by_cases proper : low < high
    · rw [toUnit_ofUnit proper above below]
    · rw [toUnit, if_neg proper]

theorem encode_decode_logarithmic {low high place : ℝ} (ordered : low ≤ high)
    (positive : 0 < low) (above : 0 ≤ place) (below : place ≤ 1) (name : String)
    (settled : (logarithmic low high).Settled [place]) :
    (logarithmic low high).encode name ((logarithmic low high).decode [place]) =
      .ok [place] := by
  have logs : Real.log low ≤ Real.log high := Real.log_le_log positive ordered
  have inside := ofUnit_mem logs place
  -- The exponential of a number between the logarithms needs no clamping.
  have number :
      Scalar.clamp (Real.exp (ofUnit place (Real.log low) (Real.log high))) low high =
        Real.exp (ofUnit place (Real.log low) (Real.log high)) := by
    apply Scalar.clamp_of_mem
    · rw [← Real.log_le_iff_le_exp positive]
      exact inside.1
    · rw [← Real.le_log_iff_exp_le (lt_of_lt_of_le positive ordered)]
      exact inside.2
  have decoded :
      (logarithmic low high).decode [place] =
        .real (Real.exp (ofUnit place (Real.log low) (Real.log high))) :=
    congrArg Value.real number
  rw [decoded, encode, if_neg (Real.exp_pos _).not_ge, Scalar.log_real,
    Scalar.log_real, Scalar.log_real, Real.log_exp]
  rcases settled with proper | middle
  · rw [toUnit_ofUnit (Real.log_lt_log positive proper) above below]
  · obtain rfl := List.singleton_inj.1 middle
    by_cases proper : Real.log low < Real.log high
    · rw [toUnit_ofUnit proper above below]
    · rw [toUnit, if_neg proper]

theorem encode_decode_integer {low high : Int64} {block : List ℝ} (name : String)
    (settled : (integer low high).Settled block) :
    (integer low high).encode name ((integer low high).decode block) = .ok block := by
  obtain ⟨number, above, below, rfl⟩ := settled
  rw [Int64.le_iff_toInt_le] at above below
  have place :
      ofUnit (toUnit (number.toInt : ℝ) low.toInt high.toInt) low.toInt high.toInt =
        number.toInt := ofUnit_toUnit_intCast above below
  have value :
      (integer low high).decode
          [toUnit (Scalar.ofInt number.toInt) (Scalar.ofInt low.toInt)
            (Scalar.ofInt high.toInt)] = (.integer number : Value ℝ) := by
    change
      Value.integer
          (Int64.ofInt (max low.toInt
            (min
              (Scalar.round
                (ofUnit (toUnit (number.toInt : ℝ) low.toInt high.toInt) low.toInt
                  high.toInt))
              high.toInt))) =
        .integer number
    rw [place, Scalar.round_intCast, min_eq_left below, max_eq_right above,
      Int64.ofInt_toInt]
  rw [value]
  rfl

theorem eq_oneHot {labels : List Json} {block : List ℝ}
    (length : block.length = labels.length)
    (accepted : (choice labels : Range ℝ).accepts block = true) :
    indexOfLargest block < labels.length ∧
      block = oneHot labels.length (indexOfLargest block) := by
  simp only [accepts, Bool.and_eq_true, List.all_eq_true, Bool.or_eq_true,
    beq_iff_eq] at accepted
  obtain ⟨index, below, same⟩ := exists_oneHot accepted.1 accepted.2
  rw [length] at below same
  have largest : indexOfLargest block = index := by
    rw [same, indexOfLargest_oneHot below]
  rw [largest]
  exact ⟨below, same⟩

theorem encode_decode_choice {labels : List Json} {block : List ℝ}
    (length : block.length = labels.length)
    (accepted : (choice labels : Range ℝ).accepts block = true) (name : String)
    (settled : (choice labels).Settled block) :
    (choice labels).encode name ((choice labels).decode block) = .ok block := by
  obtain ⟨below, same⟩ := eq_oneHot length accepted
  have first :
      labels.findIdx? (· == labels.getD (indexOfLargest block) .null) =
        some (indexOfLargest block) := by
    rw [List.findIdx?_eq_some_iff_getElem]
    refine ⟨below, ?_, fun earlier before => ?_⟩
    · rw [List.getD_eq_getElem labels .null below]
      exact Json.beq_self _
    · have different := settled earlier before
      rw [List.getD_eq_getElem labels .null (before.trans below)] at different
      rw [different]
      exact Bool.false_ne_true
  rw [decode, encode, first]
  exact congrArg Except.ok same.symm

/-- A settled block comes back. -/
theorem encode_decode {range : Range ℝ} (sound : range.defect? = none)
    {block : List ℝ} (length : block.length = range.width)
    (accepted : range.accepts block = true) (settled : range.Settled block)
    (name : String) : range.encode name (range.decode block) = .ok block := by
  rw [defect?_eq_none_iff] at sound
  cases range with
  | linear low high =>
      obtain ⟨place, rfl, above, below⟩ := exists_place length accepted nofun
      exact encode_decode_linear above below name settled
  | integer low high => exact encode_decode_integer name settled
  | logarithmic low high =>
      obtain ⟨place, rfl, above, below⟩ := exists_place length accepted nofun
      exact encode_decode_logarithmic sound.1 sound.2 above below name settled
  | choice labels => exact encode_decode_choice length accepted name settled

/-- Every block of a value is accepted. -/
theorem accepts_of_encode {range : Range ℝ} {name : String} {value : Value ℝ}
    {block : List ℝ} (success : range.encode name value = .ok block) :
    range.accepts block = true := by
  have single : ∀ {range : Range ℝ} (value low high : ℝ),
      (∀ labels, range ≠ choice labels) →
        range.accepts [toUnit value low high] = true := by
    intro range value low high numeric
    have inside := toUnit_mem value low high
    cases range with
    | choice labels => exact absurd rfl (numeric labels)
    | linear _ _ => simpa [accepts, Scalar.within] using inside
    | integer _ _ => simpa [accepts, Scalar.within] using inside
    | logarithmic _ _ => simpa [accepts, Scalar.within] using inside
  cases range <;> cases value <;> simp only [encode] at success
  case linear.real =>
      cases success
      exact single _ _ _ (by simp)
  case integer.integer =>
      cases success
      exact single _ _ _ (by simp)
  case logarithmic.real =>
      split at success
      case isTrue => cases success
      case isFalse =>
          cases success
          exact single _ _ _ (by simp)
  case choice.label labels chosen =>
      split at success
      case h_2 => cases success
      case h_1 index found =>
          cases success
          rw [List.findIdx?_eq_some_iff_getElem] at found
          simp only [accepts, Bool.and_eq_true, List.all_eq_true, Bool.or_eq_true,
            beq_iff_eq]
          exact ⟨binary_oneHot labels.length index, countP_oneHot found.1⟩
  all_goals cases success

/-! ### Projected blocks -/

theorem exists_project_choice {K : Type} [Scalar K] [DecimalText K]
    {labels : List Json} {block : List K}
    (sound : (choice labels : Range K).defect? = none)
    (length : block.length = labels.length) :
    ∃ index < labels.length,
      (choice labels).project block = oneHot labels.length index :=
  ⟨_, indexOfLargest_lt_length sound (by rw [List.length_map, length]), rfl⟩

/-- The integer nearest to a place between two integers lies between them. -/
theorem round_ofUnit_mem {low high : Int64} (ordered : low ≤ high) (place : ℝ) :
    low.toInt ≤ Scalar.round (ofUnit place (low.toInt : ℝ) high.toInt) ∧
      Scalar.round (ofUnit place (low.toInt : ℝ) high.toInt) ≤ high.toInt := by
  have orderedReal : (low.toInt : ℝ) ≤ high.toInt := by
    exact_mod_cast Int64.le_iff_toInt_le.1 ordered
  obtain ⟨above, below⟩ := ofUnit_mem orderedReal place
  exact Scalar.round_mem above below

theorem accepts_project {range : Range ℝ} (sound : range.defect? = none)
    {block : List ℝ} (length : block.length = range.width) :
    range.accepts (range.project block) = true := by
  cases range with
  | linear low high =>
      have inside := Scalar.clamp_mem zero_le_one (block.headD 0.5)
      simpa [project, accepts, Scalar.within] using inside
  | logarithmic low high =>
      have inside := Scalar.clamp_mem zero_le_one (block.headD 0.5)
      simpa [project, accepts, Scalar.within] using inside
  | integer low high =>
      simp only [project, accepts, List.all_cons, List.all_nil,
        Scalar.within, Bool.and_eq_true, decide_eq_true_eq, Scalar.isFinite_real,
        Bool.and_true, true_and]
      exact toUnit_mem _ _ _
  | choice labels =>
      obtain ⟨index, below, projected⟩ := exists_project_choice sound length
      rw [projected]
      simp only [accepts, Bool.and_eq_true, List.all_eq_true, Bool.or_eq_true,
        beq_iff_eq]
      exact ⟨binary_oneHot _ _, countP_oneHot below⟩

/-- Whether a range has two ends, or labels that all differ. -/
def Plain : Range ℝ → Prop
  | linear low high => low < high
  | logarithmic low high => low < high
  | integer _ _ => True
  | choice labels =>
      ∀ earlier later,
        earlier < later → later < labels.length →
          (labels.getD earlier .null == labels.getD later .null) = false

/-- A projected block of a plain range is settled. -/
theorem settled_project {range : Range ℝ} (sound : range.defect? = none)
    (plain : range.Plain) {block : List ℝ} (length : block.length = range.width) :
    range.Settled (range.project block) := by
  cases range with
  | linear low high => exact .inl plain
  | logarithmic low high => exact .inl plain
  | integer low high =>
      rw [defect?_eq_none_iff] at sound
      obtain ⟨aboveNearest, belowNearest⟩ :=
        round_ofUnit_mem sound (finiteOrMiddle (block.headD 0.5))
      have lowest := low.le_toInt
      have largest := high.toInt_lt
      have nearest :
          ∃ number : Int64,
            number.toInt =
              Scalar.round (ofUnit (finiteOrMiddle (block.headD 0.5))
                (low.toInt : ℝ) high.toInt) :=
        ⟨_, Int64.toInt_ofInt_of_le (by omega) (by omega)⟩
      obtain ⟨number, same⟩ := nearest
      refine ⟨number, ?_, ?_, ?_⟩
      · rw [Int64.le_iff_toInt_le, same]
        exact aboveNearest
      · rw [Int64.le_iff_toInt_le, same]
        exact belowNearest
      · rw [same]
        rfl
  | choice labels =>
      obtain ⟨index, below, projected⟩ := exists_project_choice sound length
      rw [projected]
      intro earlier before
      rw [indexOfLargest_oneHot below] at before ⊢
      exact plain earlier index before below

end Range

/-! ## Spaces -/

namespace Space

section Blocks

variable {K : Type}

theorem flatten_blocks {parameters : List (Parameter K)} {features : List K}
    (length : features.length = dimension ⟨parameters⟩) :
    ((blocks parameters features).map (·.2)).flatten = features := by
  induction parameters generalizing features with
  | nil => exact (List.length_eq_zero_iff.1 length).symm
  | cons parameter parameters inductionHypothesis =>
      have total :
          features.length = parameter.range.width + dimension ⟨parameters⟩ := length
      rw [blocks, List.map_cons, List.flatten_cons, inductionHypothesis]
      · exact List.take_append_drop _ features
      · rw [List.length_drop]
        omega

theorem blocks_flatten {parameters : List (Parameter K)} {parts : List (List K)}
    (lengths : List.Forall₂ (fun parameter part =>
      part.length = parameter.range.width) parameters parts) :
    blocks parameters parts.flatten = parameters.zip parts := by
  induction lengths with
  | nil => rfl
  | cons length _ inductionHypothesis =>
      rw [blocks, List.flatten_cons, List.take_left' length, List.drop_left' length,
        inductionHypothesis]
      rfl

/-- Parts that were made from blocks have the widths of the parameters. -/
theorem widths_of_parts {parameters : List (Parameter K)} {features : List K}
    {related : Parameter K × List K → List K → Prop} {parts : List (List K)}
    (pairs : List.Forall₂ related (blocks parameters features) parts)
    (lengths : ∀ entry part, related entry part →
      part.length = entry.1.range.width) :
    List.Forall₂ (fun parameter part => part.length = parameter.range.width)
      parameters parts := by
  have widths : List.Forall₂
      (fun parameter part => part.length = parameter.range.width)
      ((blocks parameters features).map (·.1)) parts := by
    rw [List.forall₂_map_left_iff]
    exact pairs.imp lengths
  rw [map_fst_blocks] at widths
  exact widths

/-- The blocks of parts that were made from blocks are these parts. -/
theorem blocks_of_parts {parameters : List (Parameter K)} {features : List K}
    {related : Parameter K × List K → List K → Prop} {parts : List (List K)}
    (pairs : List.Forall₂ related (blocks parameters features) parts)
    (lengths : ∀ entry part, related entry part →
      part.length = entry.1.range.width) :
    List.Forall₂ (fun before after => after.1 = before.1 ∧ related before after.2)
      (blocks parameters features) (blocks parameters parts.flatten) := by
  have cut :
      blocks parameters parts.flatten =
        ((blocks parameters features).map (·.1)).zip parts := by
    rw [map_fst_blocks]
    exact blocks_flatten (widths_of_parts pairs lengths)
  rw [cut]
  exact forall₂_zip_map pairs

end Blocks

section Project

variable {K : Type} [Scalar K] {space : Space K} {features : List K}

/-- A vector of the right length is projected block by block. -/
theorem project_eq (length : features.length = space.dimension) :
    space.project features =
      ((blocks space.parameters features).map fun entry =>
        entry.1.range.project entry.2).flatten := by
  rw [project, ← length, List.drop_length, List.append_nil, List.flatMap_def]

theorem blocks_project (length : features.length = space.dimension) :
    blocks space.parameters (space.project features) =
      (blocks space.parameters features).map fun entry =>
        (entry.1, entry.1.range.project entry.2) := by
  have pairs : List.Forall₂ (fun entry part => part = entry.1.range.project entry.2)
      (blocks space.parameters features)
      ((blocks space.parameters features).map fun entry =>
        entry.1.range.project entry.2) := by
    rw [List.forall₂_map_right_iff, List.forall₂_same]
    exact fun entry _ => rfl
  have lengths : ∀ (entry : Parameter K × List K) (part : List K),
      part = entry.1.range.project entry.2 → part.length = entry.1.range.width := by
    rintro entry part rfl
    exact Range.length_project entry.1.range entry.2
  rw [project_eq length, blocks_flatten (widths_of_parts pairs lengths)]
  nth_rewrite 1 [← map_fst_blocks space.parameters features]
  rw [List.zip_map']

end Project

/-- Whether every block of a vector comes back. -/
def Settled (space : Space ℝ) (features : List ℝ) : Prop :=
  ∀ entry ∈ blocks space.parameters features, entry.1.range.Settled entry.2

/-- The block that a block comes back as. -/
def restate {K : Type} [Scalar K] [DecimalText K] (entry : Parameter K × List K) :
    Except SpaceError (List K) :=
  entry.1.range.encode entry.1.name (entry.1.range.decode entry.2)

variable {space : Space ℝ} {features : List ℝ}

theorem encode_decode_eq (distinct : space.names.Nodup) (features : List ℝ) :
    space.encode (space.decode features) =
      ((blocks space.parameters features).mapM restate).map List.flatten := by
  have pairs : List.Forall₂
      (fun parameter entry =>
        encodeParameter (space.decode features) parameter = restate entry)
      ((blocks space.parameters features).map (·.1))
      (blocks space.parameters features) := by
    rw [List.forall₂_map_left_iff, List.forall₂_same]
    intro entry member
    rw [encodeParameter, find?_decode distinct member]
    rfl
  rw [map_fst_blocks] at pairs
  rw [encode, mapM_eq_of_forall₂ pairs]

/-- An accepted vector that has the settled blocks of another one. -/
structure Restates (space : Space ℝ) (features again : List ℝ) : Prop where
  accepted : space.accepts again = true
  blocks :
    List.Forall₂
      (fun before after =>
        after.1 = before.1 ∧ (before.1.range.Settled before.2 → after.2 = before.2))
      (Space.blocks space.parameters features) (Space.blocks space.parameters again)

theorem Restates.eq_of_settled {again : List ℝ} (restates : space.Restates features again)
    (length : features.length = space.dimension) (settled : space.Settled features) :
    again = features := by
  have same :
      Space.blocks space.parameters again = Space.blocks space.parameters features := by
    have pairs : List.Forall₂ (· = ·) (Space.blocks space.parameters features)
        (Space.blocks space.parameters again) :=
      forall₂_of_mem restates.blocks fun before member after facts =>
        (Prod.ext facts.1 (facts.2 (settled before member))).symm
    rw [List.forall₂_eq_eq_eq] at pairs
    exact pairs.symm
  rw [← flatten_blocks (length_of_accepts restates.accepted), same, flatten_blocks length]

/-- Every accepted vector comes back as an accepted vector, with its settled blocks
as they were. -/
theorem exists_restated (sound : space.defect? = none)
    (distinct : space.names.Nodup) (accepted : space.accepts features = true) :
    ∃ again,
      space.encode (space.decode features) = .ok again ∧
        space.Restates features again := by
  obtain ⟨length, acceptedBlocks⟩ := accepts_iff.1 accepted
  have each : ∀ entry ∈ blocks space.parameters features,
      ∃ part, restate entry = .ok part := by
    intro entry member
    have defectless := defect?_eq_none sound entry.1 (mem_of_mem_blocks member)
    exact Range.exists_encode defectless
      (Range.contains_decode defectless (length_of_mem_blocks length entry member))
      entry.1.name
  obtain ⟨parts, restated⟩ := exists_mapM_eq_ok each
  have success : space.encode (space.decode features) = .ok parts.flatten := by
    rw [encode_decode_eq distinct, restated]
    rfl
  rw [mapM_eq_ok_iff] at restated
  have pairs : List.Forall₂
      (fun before after => after.1 = before.1 ∧ restate before = .ok after.2)
      (blocks space.parameters features) (blocks space.parameters parts.flatten) :=
    blocks_of_parts restated fun entry part same => Range.length_encode same
  refine ⟨parts.flatten, success, ?_, ?_⟩
  · refine accepts_iff.2 ⟨length_encode success, ?_⟩
    rintro ⟨parameter, block⟩ member
    obtain ⟨entry, _, rfl, restated⟩ := exists_of_mem_of_forall₂ pairs member
    exact Range.accepts_of_encode restated
  · refine forall₂_of_mem pairs fun before member after same => ⟨same.1, fun settled => ?_⟩
    have unchanged :=
      Range.encode_decode (defect?_eq_none sound before.1 (mem_of_mem_blocks member))
        (length_of_mem_blocks length before member) (acceptedBlocks before member) settled
        before.1.name
    exact (Except.ok.inj (unchanged.symm.trans same.2)).symm

/-- Settled vectors come back. -/
theorem encode_decode_of_settled (sound : space.defect? = none)
    (distinct : space.names.Nodup) (accepted : space.accepts features = true)
    (settled : space.Settled features) :
    space.encode (space.decode features) = .ok features := by
  obtain ⟨again, encoded, restates⟩ := exists_restated sound distinct accepted
  rw [restates.eq_of_settled (length_of_accepts accepted) settled] at encoded
  exact encoded

/-! ## Projected vectors -/

/-- The blocks of a projected vector are the projected blocks. -/
theorem exists_of_mem_blocks_project (length : features.length = space.dimension)
    {parameter : Parameter ℝ} {block : List ℝ}
    (member : (parameter, block) ∈ blocks space.parameters (space.project features)) :
    ∃ before,
      (parameter, before) ∈ blocks space.parameters features ∧
        block = parameter.range.project before := by
  rw [blocks_project length] at member
  obtain ⟨entry, inBlocks, same⟩ := List.mem_map.1 member
  cases same
  exact ⟨entry.2, inBlocks, rfl⟩

theorem accepts_project (sound : space.defect? = none)
    (length : features.length = space.dimension) :
    space.accepts (space.project features) = true := by
  refine accepts_iff.2 ⟨length_projected length, ?_⟩
  rintro ⟨parameter, block⟩ member
  obtain ⟨before, inBlocks, rfl⟩ := exists_of_mem_blocks_project length member
  exact Range.accepts_project
    (defect?_eq_none sound parameter (mem_of_mem_blocks inBlocks))
    (length_of_mem_blocks length _ inBlocks)

/-- In a space of plain ranges every projected vector is settled. -/
theorem settled_project (sound : space.defect? = none)
    (plain : ∀ parameter ∈ space.parameters, parameter.range.Plain)
    (length : features.length = space.dimension) :
    space.Settled (space.project features) := by
  rintro ⟨parameter, block⟩ member
  obtain ⟨before, inBlocks, rfl⟩ := exists_of_mem_blocks_project length member
  have inSpace : parameter ∈ space.parameters := mem_of_mem_blocks inBlocks
  exact Range.settled_project (defect?_eq_none sound parameter inSpace)
    (plain parameter inSpace) (length_of_mem_blocks length _ inBlocks)

/-- A drawn vector is accepted. -/
theorem accepts_sample (sound : space.defect? = none) (generator : Generator) :
    space.accepts (space.sample generator).1 = true := by
  rw [sample]
  exact accepts_project sound (length_drawn space.parameters generator)

end Space

end BatchBayes
