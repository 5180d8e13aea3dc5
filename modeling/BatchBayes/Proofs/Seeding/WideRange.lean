import Mathlib
import BatchBayes.Double
import BatchBayes.Proofs.Doubles.Signs
import BatchBayes.Proofs.Seeding.Stream
/-!
Grids over ranges of integers. A range has a small axis wherever the difference of its ends
is a 64-bit integer, and only there, so that a sound space has a grid just where all of its
ranges are narrow enough.
-/

namespace BatchBayes

/-! ## Differences of 64-bit integers -/

theorem toInt_ofNat_le (number : Nat) : (Int64.ofNat number).toInt ≤ number := by
  rw [Int64.toInt_ofNat', Int.bmod_def]
  change (if (number : Int) % 18446744073709551616 < _ then _ else _) ≤ _
  split <;> simp only [Int64.size] at * <;> omega

/-- The difference is exact, or else too small by the number of all such integers. -/
theorem toInt_sub_of_le {low high : Int64} (ordered : low ≤ high) :
    (high - low).toInt =
      if high.toInt - low.toInt < 2 ^ 63 then high.toInt - low.toInt
      else high.toInt - low.toInt - 2 ^ 64 := by
  have order : low.toInt ≤ high.toInt := Int64.le_iff_toInt_le.1 ordered
  have above := low.le_toInt
  have below := high.toInt_lt
  rw [Int64.toInt_sub, Int.bmod_def]
  split_ifs <;> omega

theorem toInt_sub_eq_iff {low high : Int64} (ordered : low ≤ high) :
    (high - low).toInt = high.toInt - low.toInt ↔ high.toInt - low.toInt < 2 ^ 63 := by
  rw [toInt_sub_of_le ordered]
  split_ifs <;> omega

theorem Range.le_of_sound {K : Type} [Scalar K] [DecimalText K] {low high : Int64}
    (sound : (integer low high : Range K).defect? = none) : low ≤ high := by
  simpa [defect?] using sound

namespace Seeder

/-! ## Axes -/

theorem length_integersBetween {K : Type} (low high : Int64) :
    (integersBetween low high : List (Value K)).length =
      (high.toInt - low.toInt + 1).toNat := by
  rw [integersBetween, List.length_map, List.length_range]

section Axes

variable {K : Type} [Scalar K]

theorem length_changesFrom_le (last : Value K) (values : List (Value K)) :
    (changesFrom last values).length ≤ values.length := by
  induction values generalizing last with
  | nil => exact le_rfl
  | cons value values inductionHypothesis =>
      rw [changesFrom]
      split
      · exact (inductionHypothesis last).trans (Nat.le_succ _)
      · exact Nat.succ_le_succ (inductionHypothesis value)

theorem length_dropRepeats_le (values : List (Value K)) :
    (dropRepeats values).length ≤ values.length := by
  cases values with
  | nil => exact le_rfl
  | cons first rest => exact Nat.succ_le_succ (length_changesFrom_le first rest)

theorem length_spacedValues_le (steps : Nat) (range : Range K) :
    (spacedValues steps range).length ≤ steps := by
  refine (length_dropRepeats_le _).trans_eq ?_
  rw [List.length_map, List.length_range]

theorem length_spacedValues_pos {steps : Nat} (positive : 0 < steps) (range : Range K) :
    0 < (spacedValues steps range).length := by
  obtain ⟨count, rfl⟩ := Nat.exists_eq_add_of_lt positive
  rw [spacedValues, List.range_succ_eq_map, List.map_cons, dropRepeats]
  exact Nat.succ_pos _

variable {low high : Int64}

theorem axis_integer_of_narrow (ordered : low ≤ high)
    (narrow : high.toInt - low.toInt < 2 ^ 63) (steps : Nat) :
    (axis steps (.integer low high) : List (Value K)) =
      if high.toInt - low.toInt < (Int64.ofNat steps).toInt then integersBetween low high
      else spacedValues steps (.integer low high) := by
  rw [axis]
  simp only [Int64.lt_iff_toInt_lt, toInt_sub_of_le ordered, if_pos narrow]

/-- The difference of the ends of a wide range comes out negative. -/
theorem axis_integer_of_wide (ordered : low ≤ high)
    (wide : 2 ^ 63 ≤ high.toInt - low.toInt) {steps : Nat} (few : steps < 2 ^ 63) :
    (axis steps (.integer low high) : List (Value K)) = integersBetween low high := by
  have above := low.le_toInt
  have below := high.toInt_lt
  rw [axis, if_pos]
  rw [Int64.lt_iff_toInt_lt, toInt_sub_of_le ordered, if_neg wide.not_gt,
    Int64.toInt_ofNat_of_lt few]
  omega

theorem length_axis_integer (ordered : low ≤ high)
    (narrow : high.toInt - low.toInt < 2 ^ 63) {steps : Nat} (positive : 0 < steps) :
    1 ≤ (axis steps (.integer low high) : List (Value K)).length ∧
      (axis steps (.integer low high) : List (Value K)).length ≤ steps := by
  have order : low.toInt ≤ high.toInt := Int64.le_iff_toInt_le.1 ordered
  rw [axis_integer_of_narrow ordered narrow]
  split
  case isTrue few =>
    have count := toInt_ofNat_le steps
    rw [length_integersBetween]
    omega
  case isFalse =>
    exact ⟨length_spacedValues_pos positive _, length_spacedValues_le steps _⟩

end Axes

theorem ofInt_offset_mem {low high : Int64} {offset : Int} (nonneg : 0 ≤ offset)
    (bounded : offset ≤ high.toInt - low.toInt) :
    low ≤ Int64.ofInt (low.toInt + offset) ∧ Int64.ofInt (low.toInt + offset) ≤ high := by
  have above := low.le_toInt
  have below := high.toInt_lt
  rw [Int64.le_iff_toInt_le, Int64.le_iff_toInt_le,
    Int64.toInt_ofInt_of_le (by omega) (by omega)]
  omega

/-- The coordinate that a value is taken at is not below zero. -/
theorem isUnsigned_place (coordinate : Float) :
    Doubles.IsUnsigned
      (if Scalar.isFinite coordinate then Scalar.clamp coordinate 0 1
        else 0.5).toModel.unpack := by
  rw [Scalar.clamp]
  split_ifs with finite below above
  · decide +kernel
  · decide +kernel
  · exact Doubles.isUnsigned_of_not_lt (by decide +kernel) (by decide +kernel) below
  · decide +kernel

/-- At every coordinate a range of integers has one of its own integers, also where products
are rounded. -/
theorem exists_valueAt_integer {low high : Int64} (ordered : low ≤ high)
    (coordinate : Float) :
    ∃ number,
      (Range.integer low high).valueAt coordinate = .integer number ∧
        low ≤ number ∧ number ≤ high := by
  have order : low.toInt ≤ high.toInt := Int64.le_iff_toInt_le.1 ordered
  have count : 0 ≤ high.toInt - low.toInt + 1 := by omega
  have floorNonneg :=
    Doubles.floor_nonneg
      (Doubles.isUnsigned_mul (isUnsigned_place coordinate) (Doubles.isUnsigned_ofInt count))
  exact ⟨_, rfl, ofInt_offset_mem (le_min floorNonneg (by omega)) (min_le_right _ _)⟩

theorem exists_of_mem_axis_integer {low high : Int64} (ordered : low ≤ high) {steps : Nat}
    {value : Value Float} (member : value ∈ axis steps (.integer low high)) :
    ∃ number, value = .integer number ∧ low ≤ number ∧ number ≤ high := by
  rw [axis] at member
  split at member
  · obtain ⟨offset, inRange, rfl⟩ := List.mem_map.1 member
    have bound := List.mem_range.1 inRange
    exact ⟨_, rfl, ofInt_offset_mem (Int.natCast_nonneg offset) (by omega)⟩
  · obtain ⟨index, _, rfl⟩ := List.mem_map.1 (mem_dropRepeats member)
    exact exists_valueAt_integer ordered _

/-! ## Grids -/

theorem isTooWide_iff {K : Type} [Scalar K] [DecimalText K] {range : Range K}
    (sound : range.defect? = none) :
    isTooWide range = true ↔
      ∃ low high, range = .integer low high ∧ 2 ^ 63 ≤ high.toInt - low.toInt := by
  cases range with
  | integer low high =>
      rw [isTooWide, bne_iff_ne, Ne, toInt_sub_eq_iff (Range.le_of_sound sound), not_lt]
      constructor
      · intro wide
        exact ⟨low, high, rfl, wide⟩
      · rintro ⟨_, _, same, wide⟩
        cases same
        exact wide
  | _ => simp [isTooWide]

theorem grid?_eq_none_iff {K : Type} [Scalar K] (space : Space K) (steps : Nat) :
    grid? space steps = none ↔
      ∃ parameter ∈ space.parameters, isTooWide parameter.range = true := by
  rw [grid?]
  split
  case isTrue wide => simpa using wide
  case isFalse narrow => simpa using narrow

/-- A sound space has a grid just where the difference of the ends of each range of integers
is less than `2 ^ 63`, which is where the difference is a 64-bit integer. Such a range has an
axis of at least one and at most as many integers as there are steps, and all of them lie in
the range. The difference of the ends of a wider range comes out as a negative number, and so
the range would have an axis of all its integers. -/
theorem grid_just_of_narrow_ranges {space : Space Float} (sound : space.defect? = none)
    (steps : Nat) :
    (grid? space steps = none ↔
      ∃ parameter ∈ space.parameters, ∃ low high,
        parameter.range = .integer low high ∧ 2 ^ 63 ≤ high.toInt - low.toInt) ∧
    (∀ made, grid? space steps = some made → made = grid space steps) ∧
    ∀ parameter ∈ space.parameters, ∀ low high,
      parameter.range = .integer low high →
      let extent := high.toInt - low.toInt
      let values := axis (max steps 2) parameter.range
      ((high - low).toInt = extent ↔ extent < 2 ^ 63) ∧
      (extent < 2 ^ 63 →
        1 ≤ values.length ∧ values.length ≤ max steps 2 ∧
          ∀ value ∈ values,
            ∃ number, value = .integer number ∧ low ≤ number ∧ number ≤ high) ∧
      (2 ^ 63 ≤ extent →
        (high - low).toInt = extent - 2 ^ 64 ∧
          (steps < 2 ^ 63 → (values.length : Int) = extent + 1)) := by
  have ranges := Space.defect?_eq_none sound
  refine ⟨?_, ?_, ?_⟩
  · rw [grid?_eq_none_iff]
    constructor
    · rintro ⟨parameter, member, wide⟩
      exact ⟨parameter, member, (isTooWide_iff (ranges parameter member)).1 wide⟩
    · rintro ⟨parameter, member, wide⟩
      exact ⟨parameter, member, (isTooWide_iff (ranges parameter member)).2 wide⟩
  · intro made success
    rw [grid?] at success
    split at success
    · cases success
    · exact (Option.some.inj success).symm
  · intro parameter member low high integers
    have ordered : low ≤ high := Range.le_of_sound (integers ▸ ranges parameter member)
    rw [integers]
    refine ⟨toInt_sub_eq_iff ordered, fun narrow => ?_, fun wide => ?_⟩
    · obtain ⟨least, most⟩ :=
        length_axis_integer (K := Float) ordered narrow (by omega : 0 < max steps 2)
      exact ⟨least, most, fun value onAxis => exists_of_mem_axis_integer ordered onAxis⟩
    · refine ⟨by rw [toInt_sub_of_le ordered, if_neg wide.not_gt], fun few => ?_⟩
      rw [axis_integer_of_wide ordered wide (by omega), length_integersBetween]
      omega

/-- Two ranges of integers, the one just narrow enough and the other one just too wide. -/
def borderSpace : Space Float :=
  ⟨[⟨"narrow", .integer 0 Int64.maxValue⟩, ⟨"wide", .integer (-1) Int64.maxValue⟩]⟩

theorem grid_just_of_narrow_ranges_of_borderSpace :
    borderSpace.defect? = none ∧ grid? borderSpace 3 = none ∧
      (axis 3 (.integer 0 Int64.maxValue) : List (Value Float)).length ≤ 3 ∧
        ((axis 3 (.integer (-1) Int64.maxValue) : List (Value Float)).length : Int) =
          2 ^ 63 + 1 := by
  have sound : borderSpace.defect? = none := by decide +kernel
  obtain ⟨missing, _, axes⟩ := grid_just_of_narrow_ranges sound 3
  have tooWide : 2 ^ 63 ≤ Int64.maxValue.toInt - Int64.toInt (-1) := by decide
  have narrow := (axes ⟨"narrow", _⟩ (by simp [borderSpace]) 0 Int64.maxValue rfl).2.1
  have wide := (axes ⟨"wide", _⟩ (by simp [borderSpace]) (-1) Int64.maxValue rfl).2.2
  refine ⟨sound, missing.2 ⟨⟨"wide", _⟩, by simp [borderSpace], _, _, rfl, tooWide⟩,
    (narrow (by decide)).2.1, ?_⟩
  exact ((wide tooWide).2 (by decide)).trans (by decide)

/-- All 64-bit integers. -/
def widestSpace : Space Float :=
  ⟨[⟨"n", .integer Int64.minValue Int64.maxValue⟩]⟩

theorem widest_range_has_no_grid :
    widestSpace.defect? = none ∧
      (Int64.maxValue - Int64.minValue).toInt ≠
        Int64.maxValue.toInt - Int64.minValue.toInt ∧
      (axis (max 2 2) (.integer Int64.minValue Int64.maxValue) : List (Value Float)).length =
        2 ^ 64 ∧
      grid? widestSpace 2 = none := by
  refine ⟨by decide +kernel, by decide, ?_, ?_⟩
  · rw [axis_integer_of_wide (by decide) (by decide) (by decide), length_integersBetween]
    rfl
  · rw [grid?_eq_none_iff]
    exact ⟨_, List.mem_singleton_self _, rfl⟩

end Seeder

end BatchBayes
