import Mathlib
import BatchBayes.Proofs.Order
import BatchBayes.Proofs.Outcome
import BatchBayes.Proofs.Table
import BatchBayes.Space.Features
/-!
Feature vectors of the right length stand for assignments inside their space, and
the assignments inside a space have features. Both hold for every kind of range
that a sound space may have.
-/

namespace BatchBayes

/-! ## Labels -/

namespace Json

mutual

theorem same_refl : ∀ value : Json, same value value = true
  | .null => rfl
  | .bool value => by simp [same]
  | .integer value => by simp [same]
  | .real value => by simp [same, sameReal]
  | .text value => by simp [same]
  | .list items => by rw [same, sameItems_refl items]
  | .object fields => by rw [same, sameFields_refl fields]
  | .unreadable => rfl

theorem sameItems_refl : ∀ items : List Json, sameItems items items = true
  | [] => rfl
  | item :: items => by rw [sameItems, same_refl item, sameItems_refl items]; rfl

theorem sameFields_refl :
    ∀ fields : List (String × Json), sameFields fields fields = true
  | [] => rfl
  | (name, value) :: fields => by
      rw [sameFields, same_refl value, sameFields_refl fields]
      simp

end

theorem beq_self (value : Json) : (value == value) = true :=
  same_refl value

end Json

/-! ## The largest of a list -/

section Largest

variable {K : Type} [Scalar K]

theorem foldl_largestStep (values : List K) (best : Nat) (bestValue : K)
    {index : Nat} (below : best < index) :
    (values.foldl largestStep (best, bestValue, index)).1 < index + values.length := by
  induction values generalizing best bestValue index with
  | nil => exact below
  | cons value values inductionHypothesis =>
      rw [List.foldl_cons, largestStep, List.length_cons]
      split
      · have later := inductionHypothesis index value (Nat.lt_add_one index)
        omega
      · have later := inductionHypothesis best bestValue (Nat.lt_add_right 1 below)
        omega

theorem indexOfLargest_lt {values : List K} (nonempty : values ≠ []) :
    indexOfLargest values < values.length := by
  cases values with
  | nil => exact absurd rfl nonempty
  | cons first rest =>
      have below := foldl_largestStep rest 0 first Nat.zero_lt_one
      rw [indexOfLargest, List.length_cons]
      omega

end Largest

/-! ## Ranges -/

theorem ofUnit_mem {low high : ℝ} (ordered : low ≤ high) (place : ℝ) :
    low ≤ ofUnit place low high ∧ ofUnit place low high ≤ high := by
  rw [ofUnit]
  by_cases proper : low < high
  · rw [if_pos proper]
    exact Scalar.clamp_mem ordered _
  · rw [if_neg proper]
    exact ⟨le_rfl, ordered⟩

namespace Range

theorem isOrdered_real (low high : ℝ) : isOrdered low high = true ↔ low ≤ high := by
  simp [isOrdered]

/-- What a range needs to be without defect. -/
theorem defect?_eq_none_iff (range : Range ℝ) :
    range.defect? = none ↔
      match range with
      | linear low high => low ≤ high
      | integer low high => low ≤ high
      | logarithmic low high => low ≤ high ∧ 0 < low
      | choice labels => labels ≠ [] := by
  cases range with
  | linear low high => simp [defect?, isOrdered_real]
  | integer low high => simp [defect?]
  | logarithmic low high => simp [defect?, isOrdered_real]
  | choice labels => simp [defect?]

theorem toInt_nearest {low high : Int64} (ordered : low ≤ high) (nearest : Int) :
    low ≤ Int64.ofInt (max low.toInt (min nearest high.toInt)) ∧
      Int64.ofInt (max low.toInt (min nearest high.toInt)) ≤ high := by
  have order : low.toInt ≤ high.toInt := Int64.le_iff_toInt_le.1 ordered
  have above := low.le_toInt
  have below := high.toInt_lt
  rw [Int64.le_iff_toInt_le, Int64.le_iff_toInt_le,
    Int64.toInt_ofInt_of_le (by omega) (by omega)]
  omega

/-- Where there are labels, the largest coordinate is that of a label. -/
theorem indexOfLargest_lt_length {K : Type} [Scalar K] [DecimalText K]
    {labels : List Json} (sound : (choice labels : Range K).defect? = none)
    {block : List K} (length : block.length = labels.length) :
    indexOfLargest block < labels.length := by
  have some : labels ≠ [] := by simpa [defect?] using sound
  rw [← length]
  apply indexOfLargest_lt
  rintro rfl
  exact some (List.length_eq_zero_iff.1 length.symm)

/-- A block stands for a value of its range. -/
theorem contains_decode {range : Range ℝ} (sound : range.defect? = none)
    {block : List ℝ} (length : block.length = range.width) :
    range.contains (range.decode block) = true := by
  have ends := (defect?_eq_none_iff range).1 sound
  cases range with
  | linear low high =>
      have inside := ofUnit_mem ends (block.headD 0.5)
      rw [decode, contains]
      simpa [Scalar.within] using inside
  | integer low high =>
      have ordered : low ≤ high := ends
      rw [decode, contains]
      simpa using toInt_nearest ordered _
  | logarithmic low high =>
      have ordered : low ≤ high := ends.1
      rw [decode, contains]
      simp [Scalar.within_clamp ordered]
  | choice labels =>
      have index := indexOfLargest_lt_length sound length
      rw [decode, contains, List.any_eq_true]
      refine ⟨labels[indexOfLargest block], List.getElem_mem index, ?_⟩
      rw [List.getD_eq_getElem labels .null index]
      exact Json.beq_self _

/-- A value of a range has a block. -/
theorem exists_encode {K : Type} [Scalar K] [OrderedScalar K] [DecimalText K]
    {range : Range K} (sound : range.defect? = none)
    {value : Value K} (inside : range.contains value = true) (name : String) :
    ∃ block, range.encode name value = .ok block := by
  cases range <;> cases value <;> simp only [contains, Bool.false_eq_true] at inside
  case linear.real => exact ⟨_, rfl⟩
  case integer.integer => exact ⟨_, rfl⟩
  case logarithmic.real low high number =>
      have positive : ¬ low ≤ 0 := by
        rw [defect?, ite_eq_left_iff] at sound
        simp only [reduceCtorEq, imp_false, not_not, Bool.and_eq_true,
          decide_eq_true_eq] at sound
        exact sound.2
      have above : low ≤ number := by
        simp only [Scalar.within, Bool.and_eq_true, decide_eq_true_eq] at inside
        exact inside.2.1
      rw [encode, if_neg fun below => positive (OrderedScalar.le_trans above below)]
      exact ⟨_, rfl⟩
  case choice.label labels chosen =>
      rw [encode]
      cases found : labels.findIdx? (· == chosen) with
      | some index => exact ⟨_, rfl⟩
      | none =>
          rw [List.findIdx?_eq_none_iff] at found
          obtain ⟨label, member, same⟩ := List.any_eq_true.1 inside
          rw [found label member] at same
          cases same

end Range

/-! ## Spaces -/

namespace Space

section Blocks

variable {K : Type}

theorem map_fst_blocks (parameters : List (Parameter K)) (features : List K) :
    (blocks parameters features).map (·.1) = parameters := by
  induction parameters generalizing features with
  | nil => rfl
  | cons parameter parameters inductionHypothesis =>
      rw [blocks]
      simp [inductionHypothesis]

/-- The blocks of a vector of the right length have the widths of the
parameters. -/
theorem length_of_mem_blocks {parameters : List (Parameter K)} {features : List K}
    (length : features.length = dimension ⟨parameters⟩) :
    ∀ entry ∈ blocks parameters features, entry.2.length = entry.1.range.width := by
  induction parameters generalizing features with
  | nil =>
      intro entry member
      cases member
  | cons parameter parameters inductionHypothesis =>
      have total :
          features.length = parameter.range.width + dimension ⟨parameters⟩ := length
      rw [blocks]
      intro entry member
      rcases List.mem_cons.1 member with rfl | later
      · simp only [List.length_take]
        omega
      · refine inductionHypothesis ?_ entry later
        rw [List.length_drop]
        omega

theorem mem_of_mem_blocks {parameters : List (Parameter K)} {features : List K}
    {entry : Parameter K × List K} (member : entry ∈ blocks parameters features) :
    entry.1 ∈ parameters := by
  rw [← map_fst_blocks parameters features]
  exact List.mem_map_of_mem member

end Blocks

theorem defect?_eq_none {K : Type} [Scalar K] [DecimalText K] {space : Space K}
    (sound : space.defect? = none) :
    ∀ parameter ∈ space.parameters, parameter.range.defect? = none := by
  rw [defect?] at sound
  by_cases none : space.parameters.isEmpty
  · rw [if_pos none] at sound
    cases sound
  · rw [if_neg none, List.findSome?_eq_none_iff] at sound
    intro parameter member
    exact Option.map_eq_none_iff.1 (sound parameter member)

/-- What an assignment inside a space is. -/
theorem contains_iff {K : Type} [Scalar K] [DecimalText K] {space : Space K}
    {assignment : Assignment K} :
    space.contains assignment = true ↔
      ∀ parameter ∈ space.parameters, ∃ value,
        assignment.find? parameter.name = some value ∧
          parameter.range.contains value = true := by
  rw [contains, Option.isNone_iff_eq_none, violation?, List.findSome?_eq_none_iff]
  refine forall₂_congr fun parameter _ => ?_
  rw [Parameter.violation?]
  cases found : assignment.find? parameter.name with
  | none => simp
  | some value =>
      by_cases inside : parameter.range.contains value = true
      · simp [inside]
      · dsimp only
        rw [if_neg inside]
        constructor
        · intro none
          split at none <;> cases none
        · rintro ⟨other, same, contained⟩
          obtain rfl := Option.some.inj same
          exact absurd contained inside

/-- The value that a vector gives to each parameter, where the names differ. -/
theorem find?_decode {K : Type} [Scalar K] [DecimalText K] {space : Space K}
    (distinct : space.names.Nodup)
    {features : List K} {entry : Parameter K × List K}
    (member : entry ∈ blocks space.parameters features) :
    (space.decode features).find? entry.1.name =
      some (entry.1.range.decode entry.2) := by
  apply Table.find?_ofList_of_mem
  · rw [names, ← map_fst_blocks space.parameters features] at distinct
    rw [List.map_map] at distinct ⊢
    exact distinct
  · exact List.mem_map_of_mem member

/-- A vector of the right length stands for an assignment inside the space. -/
theorem violation?_decode {space : Space ℝ} (sound : space.defect? = none)
    (distinct : space.names.Nodup) {features : List ℝ}
    (length : features.length = space.dimension) :
    space.violation? (space.decode features) = none := by
  rw [violation?, List.findSome?_eq_none_iff]
  intro parameter member
  rw [← map_fst_blocks space.parameters features] at member
  obtain ⟨entry, inBlocks, rfl⟩ := List.mem_map.1 member
  have width := length_of_mem_blocks length entry inBlocks
  have inside :=
    Range.contains_decode
      (defect?_eq_none sound entry.1 (mem_of_mem_blocks inBlocks)) width
  rw [Parameter.violation?, find?_decode distinct inBlocks]
  dsimp only
  rw [if_pos inside]

/-- An assignment inside the space has features. -/
theorem exists_encode {K : Type} [Scalar K] [OrderedScalar K] [DecimalText K]
    {space : Space K} (sound : space.defect? = none)
    {assignment : Assignment K} (inside : space.violation? assignment = none) :
    ∃ features, space.encode assignment = .ok features := by
  rw [violation?, List.findSome?_eq_none_iff] at inside
  have each : ∀ parameter ∈ space.parameters,
      ∃ block, encodeParameter assignment parameter = .ok block := by
    intro parameter member
    have violation := inside parameter member
    rw [Parameter.violation?] at violation
    rw [encodeParameter]
    cases found : assignment.find? parameter.name with
    | none =>
        rw [found] at violation
        cases violation
    | some value =>
        rw [found] at violation
        dsimp only at violation ⊢
        by_cases contained : parameter.range.contains value
        · exact Range.exists_encode (defect?_eq_none sound parameter member)
            contained parameter.name
        · rw [if_neg contained] at violation
          split at violation <;> cases violation
  obtain ⟨parts, mapped⟩ := exists_mapM_eq_ok each
  exact ⟨parts.flatten, by rw [encode, mapped]; rfl⟩

end Space

end BatchBayes
