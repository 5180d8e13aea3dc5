import Mathlib
import BatchBayes.Proofs.Seeding.WideRange
/-!
The axes of a grid, exactly. An axis of evenly spaced values goes up from the low to the high
end with a value to each step, unless there are not as many integers, of which it then has
all.
-/

namespace BatchBayes

namespace Seeder

/-! ## Repeated values -/

section Repeats

variable {K α : Type} [Scalar K] {value : α → Value K}

theorem cons_changesFrom [DecidableEq α]
    (exact : ∀ first second, (value first).same (value second) = true ↔ first = second)
    (last : α) (keys : List α) :
    value last :: changesFrom (value last) (keys.map value) =
      (keys.destutter' (· ≠ ·) last).map value := by
  induction keys generalizing last with
  | nil => rfl
  | cons key keys inductionHypothesis =>
      rw [List.map_cons, changesFrom, List.destutter'_cons]
      by_cases same : last = key
      · rw [if_pos ((exact last key).2 same), if_neg (not_not.2 same), inductionHypothesis]
      · rw [if_neg fun equal => same ((exact last key).1 equal), if_pos same,
          inductionHypothesis, List.map_cons]

/-- Of keys in order, each one is kept once. -/
theorem dropRepeats_map [LinearOrder α]
    (exact : ∀ first second, (value first).same (value second) = true ↔ first = second)
    {keys : List α} (sorted : keys.Pairwise (· ≤ ·)) :
    dropRepeats (keys.map value) = keys.dedup.map value := by
  rw [← sorted.destutter_eq_dedup]
  cases keys with
  | nil => rfl
  | cons first rest => exact cons_changesFrom exact first rest

theorem spacedValues_eq {steps : Nat} {range : Range K} {key : Nat → α}
    (values : ∀ index < steps,
      range.valueAt (Scalar.ofNat index / Scalar.ofNat (steps - 1)) = value (key index)) :
    spacedValues steps range = dropRepeats (((List.range steps).map key).map value) := by
  rw [spacedValues, List.map_map]
  congr 1
  refine List.map_congr_left fun index member => ?_
  exact values index (List.mem_range.1 member)

end Repeats

theorem same_real_iff (first second : ℝ) :
    (Value.real first).same (Value.real second) = true ↔ first = second := by
  rw [Value.same]
  exact beq_iff_eq

/-! ## Ends -/

/-- Numbers that go up from one number to another. -/
structure Spans {α : Type} [LT α] (numbers : List α) (low high : α) (count : Nat) : Prop where
  increasing : numbers.Pairwise (· < ·)
  first : numbers.head? = some low
  last : numbers.getLast? = some high
  length : numbers.length = count

theorem spans_map_range {α : Type} [LT α] (key : Nat → α) (steps : Nat)
    (increasing : ∀ first second, first < second → second < steps + 1 →
      key first < key second) :
    Spans ((List.range (steps + 1)).map key) (key 0) (key steps) (steps + 1) := by
  refine ⟨?_, ?_, ?_, ?_⟩
  · rw [List.pairwise_map]
    refine List.pairwise_lt_range.imp_of_mem fun _ member below => ?_
    exact increasing _ _ below (List.mem_range.1 member)
  · simp [List.range_succ_eq_map]
  · simp [List.range_succ]
  · simp

theorem Spans.dedup_eq {α : Type} [LinearOrder α] {numbers : List α} {low high : α}
    {count : Nat} (spans : Spans numbers low high count) : numbers.dedup = numbers :=
  List.Nodup.dedup (spans.increasing.imp ne_of_lt)

/-! ## Numbers -/

/-- The evenly spaced coordinates. -/
noncomputable def coordinate (steps index : Nat) : ℝ :=
  (index : ℝ) / (steps : ℝ)

theorem coordinate_zero (steps : Nat) : coordinate steps 0 = 0 := by
  rw [coordinate, Nat.cast_zero, zero_div]

theorem coordinate_self {steps : Nat} (positive : 0 < steps) : coordinate steps steps = 1 :=
  div_self (by exact_mod_cast positive.ne')

theorem coordinate_lt {steps first second : Nat} (positive : 0 < steps)
    (below : first < second) : coordinate steps first < coordinate steps second := by
  rw [coordinate, coordinate]
  have wide : (0 : ℝ) < steps := by exact_mod_cast positive
  exact div_lt_div_of_pos_right (by exact_mod_cast below) wide

theorem coordinate_mem {steps index : Nat} (positive : 0 < steps) (bound : index ≤ steps) :
    0 ≤ coordinate steps index ∧ coordinate steps index ≤ 1 := by
  have wide : (0 : ℝ) < steps := by exact_mod_cast positive
  rw [coordinate, div_le_one wide]
  exact ⟨by positivity, by exact_mod_cast bound⟩

/-- Values that go up from end to end, or else are all the same. -/
theorem spaced_reals {steps : Nat} (positive : 0 < steps) {range : Range ℝ} {low high : ℝ}
    (number : ℝ → ℝ) (ordered : low ≤ high)
    (values : ∀ place, 0 ≤ place → place ≤ 1 → range.valueAt place = .real (number place))
    (first : number 0 = low) (last : number 1 = high)
    (increasing : low < high → StrictMono number)
    (constant : low = high → ∀ place, number place = low) :
    ∃ numbers : List ℝ,
      spacedValues (steps + 1) range = numbers.map .real ∧
        Spans numbers low high (if low = high then 1 else steps + 1) := by
  have spaced :
      spacedValues (steps + 1) range =
        dropRepeats
          (((List.range (steps + 1)).map fun index =>
            number (coordinate steps index)).map .real) := by
    refine spacedValues_eq fun index bound => ?_
    obtain ⟨nonneg, atMost⟩ := coordinate_mem positive (Nat.le_of_lt_succ bound)
    rw [Nat.add_sub_cancel, Scalar.ofNat_real, Scalar.ofNat_real]
    exact values _ nonneg atMost
  rw [spaced]
  rcases ordered.lt_or_eq with below | rfl
  · have spans :=
      spans_map_range (fun index => number (coordinate steps index)) steps
        fun _ _ smaller _ => increasing below (coordinate_lt positive smaller)
    rw [coordinate_zero, coordinate_self positive, first, last] at spans
    rw [dropRepeats_map same_real_iff (spans.increasing.imp le_of_lt), spans.dedup_eq,
      if_neg below.ne]
    exact ⟨_, rfl, spans⟩
  · have same :
        ((List.range (steps + 1)).map fun index => number (coordinate steps index)) =
          List.replicate (steps + 1) low := by
      simp [constant rfl]
    rw [same, dropRepeats_map same_real_iff (by simp [List.pairwise_replicate]),
      List.replicate_dedup (Nat.succ_ne_zero steps), if_pos rfl]
    exact ⟨[low], rfl, by simp, rfl, rfl, rfl⟩

/-- The number at a part of the way from one number to another. -/
def between (low high place : ℝ) : ℝ :=
  low + place * (high - low)

section Between

variable {low high : ℝ}

theorem between_zero (low high : ℝ) : between low high 0 = low := by
  rw [between, zero_mul, add_zero]

theorem between_one (low high : ℝ) : between low high 1 = high := by
  rw [between, one_mul, add_sub_cancel]

theorem between_self (low place : ℝ) : between low low place = low := by
  rw [between, sub_self, mul_zero, add_zero]

theorem between_mem (ordered : low ≤ high) {place : ℝ} (nonneg : 0 ≤ place)
    (atMost : place ≤ 1) :
    low ≤ between low high place ∧ between low high place ≤ high := by
  have length : 0 ≤ high - low := sub_nonneg.2 ordered
  have part := mul_le_of_le_one_left length atMost
  rw [between]
  exact ⟨le_add_of_nonneg_right (mul_nonneg nonneg length), by linarith⟩

theorem strictMono_between (below : low < high) : StrictMono (between low high) := by
  intro first second smaller
  have part := mul_lt_mul_of_pos_right smaller (sub_pos.2 below)
  rw [between, between]
  linarith

end Between

theorem spaced_linear {steps : Nat} (positive : 0 < steps) {low high : ℝ}
    (ordered : low ≤ high) :
    ∃ numbers : List ℝ,
      spacedValues (steps + 1) (.linear low high) = numbers.map .real ∧
        Spans numbers low high (if low = high then 1 else steps + 1) := by
  refine spaced_reals positive (between low high) ordered (fun place nonneg atMost => ?_)
    (between_zero low high) (between_one low high) strictMono_between ?_
  · obtain ⟨above, below⟩ := between_mem ordered nonneg atMost
    rw [Range.valueAt, Scalar.isFinite_real, if_pos rfl, Scalar.clamp_of_mem nonneg atMost]
    exact congrArg Value.real (Scalar.clamp_of_mem above below)
  · rintro rfl place
    exact between_self low place

theorem spaced_logarithmic {steps : Nat} (positive : 0 < steps) {low high : ℝ}
    (lowPositive : 0 < low) (ordered : low ≤ high) :
    ∃ numbers : List ℝ,
      spacedValues (steps + 1) (.logarithmic low high) = numbers.map .real ∧
        Spans numbers low high (if low = high then 1 else steps + 1) := by
  have highPositive : 0 < high := lowPositive.trans_le ordered
  have logs : Real.log low ≤ Real.log high := Real.log_le_log lowPositive ordered
  refine spaced_reals positive
    (fun place => Real.exp (between (Real.log low) (Real.log high) place)) ordered
    (fun place nonneg atMost => ?_) ?_ ?_ (fun below => ?_) ?_
  · obtain ⟨above, below⟩ := between_mem logs nonneg atMost
    rw [← Real.exp_le_exp, Real.exp_log lowPositive] at above
    rw [← Real.exp_le_exp, Real.exp_log highPositive] at below
    rw [Range.valueAt, Scalar.isFinite_real, if_pos rfl, Scalar.clamp_of_mem nonneg atMost]
    exact congrArg Value.real (Scalar.clamp_of_mem above below)
  · rw [between_zero, Real.exp_log lowPositive]
  · rw [between_one, Real.exp_log highPositive]
  · exact Real.exp_strictMono.comp (strictMono_between (Real.log_lt_log lowPositive below))
  · rintro rfl place
    rw [between_self, Real.exp_log lowPositive]

/-! ## Integers -/

/-- How far an evenly spaced integer is from the least one. -/
def offset (steps last index : Nat) : Nat :=
  min (index * (last + 1) / steps) last

section Offsets

variable {steps last : Nat}

theorem offset_zero (steps last : Nat) : offset steps last 0 = 0 := by
  simp [offset]

theorem offset_self (positive : 0 < steps) (last : Nat) : offset steps last steps = last := by
  rw [offset, Nat.mul_div_cancel_left _ positive]
  omega

theorem offset_mono (steps last : Nat) {first second : Nat} (smaller : first ≤ second) :
    offset steps last first ≤ offset steps last second := by
  have products := Nat.mul_le_mul_right (last + 1) smaller
  have quotients := Nat.div_le_div_right (c := steps) products
  rw [offset, offset]
  omega

/-- With more integers than steps, no two steps have the same one. -/
theorem offset_lt (positive : 0 < steps) (many : steps < last) {first second : Nat}
    (smaller : first < second) (bound : second ≤ steps) :
    offset steps last first < offset steps last second := by
  have products : first * (last + 1) + steps ≤ second * (last + 1) := by
    have next := Nat.mul_le_mul_right (last + 1) smaller
    rw [Nat.succ_mul] at next
    omega
  have quotients := Nat.div_le_div_right (c := steps) products
  rw [Nat.add_div_right _ positive] at quotients
  have notLast : first * (last + 1) / steps < last := by
    have next := Nat.mul_le_mul_right (last + 1) (Nat.succ_le_of_lt (smaller.trans_le bound))
    rw [Nat.succ_mul, Nat.mul_succ steps, Nat.mul_comm steps] at next
    rw [Nat.div_lt_iff_lt_mul positive]
    omega
  rw [offset, offset]
  omega

/-- With no more integers than steps, every integer has a step. -/
theorem exists_offset_eq (positive : 0 < steps) (few : last ≤ steps) {number : Nat}
    (bound : number ≤ last) : ∃ index ≤ steps, offset steps last index = number := by
  rcases few.eq_or_lt with rfl | fewer
  · refine ⟨number, bound, ?_⟩
    rw [offset, Nat.mul_succ, Nat.add_comm, Nat.add_mul_div_right _ _ positive]
    rcases bound.eq_or_lt with rfl | below
    · exact min_eq_right (Nat.le_add_left _ _)
    · rw [Nat.div_eq_of_lt below, Nat.zero_add, min_eq_left bound]
  · -- The first step at which the integer is reached.
    have index := Nat.div_add_mod (number * steps + last) (last + 1)
    have rest := Nat.mod_lt (number * steps + last) (by omega : 0 < last + 1)
    have products := Nat.mul_le_mul_right steps bound
    refine ⟨(number * steps + last) / (last + 1), ?_, ?_⟩
    · rw [← Nat.lt_succ_iff, Nat.div_lt_iff_lt_mul (Nat.succ_pos last), Nat.succ_mul,
        Nat.mul_succ, Nat.mul_comm steps]
      omega
    · rw [Nat.mul_comm] at index
      rw [offset, Nat.div_eq_of_lt_le (k := number), min_eq_left bound]
      · omega
      · rw [Nat.succ_mul]
        omega

end Offsets

section Integers

variable {low high : Int64}

/-- The number of integers above the least one. -/
def extent (low high : Int64) : Nat :=
  (high.toInt - low.toInt).toNat

theorem natCast_extent (ordered : low ≤ high) :
    ((extent low high : Nat) : Int) = high.toInt - low.toInt := by
  have order : low.toInt ≤ high.toInt := Int64.le_iff_toInt_le.1 ordered
  rw [extent]
  omega

/-- The integers of a range in order. -/
def integerAt (low high : Int64) (place : Fin (extent low high + 1)) : Int64 :=
  Int64.ofInt (low.toInt + (place.val : Int))

theorem toInt_integerAt (ordered : low ≤ high) (place : Fin (extent low high + 1)) :
    (integerAt low high place).toInt = low.toInt + place := by
  have last := natCast_extent ordered
  have above := low.le_toInt
  have below := high.toInt_lt
  have bound := place.isLt
  rw [integerAt, Int64.toInt_ofInt_of_le (by omega) (by omega)]

theorem integerAt_lt (ordered : low ≤ high) {first second : Fin (extent low high + 1)}
    (smaller : first < second) :
    integerAt low high first < integerAt low high second := by
  rw [Int64.lt_iff_toInt_lt, toInt_integerAt ordered, toInt_integerAt ordered]
  omega

theorem same_integerAt_iff (ordered : low ≤ high)
    (first second : Fin (extent low high + 1)) :
    (Value.integer (integerAt low high first) : Value ℝ).same
        (.integer (integerAt low high second)) = true ↔ first = second := by
  rw [Value.same, beq_iff_eq, ← Int64.toInt_inj, toInt_integerAt ordered,
    toInt_integerAt ordered]
  omega

theorem integersBetween_eq {K : Type} (low high : Int64) (ordered : low ≤ high) :
    (integersBetween low high : List (Value K)) =
      (List.finRange (extent low high + 1)).map fun place =>
        .integer (integerAt low high place) := by
  have last := natCast_extent ordered
  have count : (high.toInt - low.toInt + 1).toNat = extent low high + 1 := by omega
  rw [integersBetween, count, ← List.map_coe_finRange_eq_range, List.map_map]
  rfl

/-- The place of an evenly spaced integer. -/
def placeAt (low high : Int64) (steps index : Nat) : Fin (extent low high + 1) :=
  ⟨offset steps (extent low high) index, Nat.lt_succ_of_le (min_le_right _ _)⟩

theorem valueAt_integer (ordered : low ≤ high) {steps index : Nat} (positive : 0 < steps)
    (bound : index ≤ steps) :
    (Range.integer low high).valueAt (coordinate steps index) =
      .integer (integerAt low high (placeAt low high steps index)) := by
  obtain ⟨nonneg, atMost⟩ := coordinate_mem positive bound
  have floor :
      Scalar.floor (coordinate steps index * Scalar.ofInt (high.toInt - low.toInt + 1)) =
        ((index * (extent low high + 1) / steps : Nat) : Int) := by
    change ⌊(index : ℝ) / steps * ((high.toInt - low.toInt + 1 : Int) : ℝ)⌋ = _
    have product :
        (index : ℝ) / steps * ((high.toInt - low.toInt + 1 : Int) : ℝ) =
          ((index * (extent low high + 1) : Nat) : ℝ) / (steps : ℝ) := by
      rw [← natCast_extent ordered]
      push_cast
      ring
    rw [product, Int.floor_div_natCast, Int.floor_natCast]
    rfl
  rw [Range.valueAt, Scalar.isFinite_real, if_pos rfl, Scalar.clamp_of_mem nonneg atMost,
    floor, ← natCast_extent ordered, ← Nat.cast_min]
  rfl

theorem sorted_placeAt (low high : Int64) (steps : Nat) :
    ((List.range (steps + 1)).map (placeAt low high steps)).Pairwise (· ≤ ·) := by
  rw [List.pairwise_map]
  exact List.pairwise_le_range.imp fun smaller => offset_mono steps _ smaller

theorem spaced_integers (ordered : low ≤ high) {steps : Nat} (positive : 0 < steps) :
    (spacedValues (steps + 1) (.integer low high) : List (Value ℝ)) =
      ((List.range (steps + 1)).map (placeAt low high steps)).dedup.map fun place =>
        .integer (integerAt low high place) := by
  have spaced :
      (spacedValues (steps + 1) (.integer low high) : List (Value ℝ)) =
        dropRepeats
          (((List.range (steps + 1)).map (placeAt low high steps)).map fun place =>
            .integer (integerAt low high place)) := by
    refine spacedValues_eq fun index bound => ?_
    rw [Nat.add_sub_cancel, Scalar.ofNat_real, Scalar.ofNat_real]
    exact valueAt_integer ordered positive (Nat.le_of_lt_succ bound)
  rw [spaced, dropRepeats_map (same_integerAt_iff ordered) (sorted_placeAt low high steps)]

/-- Where there are no more integers than steps, the evenly spaced ones are all of them. -/
theorem spaced_integers_of_few (ordered : low ≤ high) {steps : Nat} (positive : 0 < steps)
    (few : extent low high ≤ steps) :
    (spacedValues (steps + 1) (.integer low high) : List (Value ℝ)) =
      integersBetween low high := by
  have increasing :
      ((List.range (steps + 1)).map (placeAt low high steps)).dedup.Pairwise (· < ·) :=
    (((sorted_placeAt low high steps).sublist (List.dedup_sublist _)).and
      (List.nodup_dedup _)).imp fun both => lt_of_le_of_ne both.1 both.2
  have all :
      ((List.range (steps + 1)).map (placeAt low high steps)).dedup =
        List.finRange (extent low high + 1) := by
    refine increasing.eq_of_mem_iff (List.pairwise_lt_finRange _) fun place => ?_
    obtain ⟨index, bound, same⟩ :=
      exists_offset_eq positive few (Nat.le_of_lt_succ place.isLt)
    rw [List.mem_dedup, List.mem_map]
    refine iff_of_true ⟨index, ?_, Fin.ext same⟩ (List.mem_finRange place)
    exact List.mem_range.2 (Nat.lt_succ_of_le bound)
  rw [spaced_integers ordered positive, all, integersBetween_eq low high ordered]

/-- Where there are more integers than steps, each step has another one. -/
theorem spaced_integers_of_many (ordered : low ≤ high) {steps : Nat} (positive : 0 < steps)
    (many : steps < extent low high) :
    ∃ numbers : List Int64,
      (spacedValues (steps + 1) (.integer low high) : List (Value ℝ)) =
          numbers.map .integer ∧
        Spans numbers low high (steps + 1) := by
  have places :=
    spans_map_range (placeAt low high steps) steps fun first second smaller bound =>
      offset_lt positive many smaller (Nat.le_of_lt_succ bound)
  have spans :=
    spans_map_range (fun index => integerAt low high (placeAt low high steps index)) steps
      fun first second smaller bound =>
        integerAt_lt ordered (offset_lt positive many smaller (Nat.le_of_lt_succ bound))
  have last := natCast_extent ordered
  have first : integerAt low high (placeAt low high steps 0) = low := by
    rw [← Int64.toInt_inj, toInt_integerAt ordered, placeAt]
    simp [offset_zero]
  have final : integerAt low high (placeAt low high steps steps) = high := by
    rw [← Int64.toInt_inj, toInt_integerAt ordered, placeAt]
    simp only [offset_self positive]
    omega
  rw [first, final] at spans
  refine ⟨_, ?_, spans⟩
  rw [spaced_integers ordered positive, places.dedup_eq, List.map_map, List.map_map]
  rfl

theorem exists_integersBetween {K : Type} (ordered : low ≤ high) :
    ∃ numbers : List Int64,
      (integersBetween low high : List (Value K)) = numbers.map .integer ∧
        numbers.Pairwise (· < ·) ∧
          ∀ number, number ∈ numbers ↔ low ≤ number ∧ number ≤ high := by
  have last := natCast_extent ordered
  refine ⟨(List.finRange (extent low high + 1)).map (integerAt low high), ?_, ?_,
    fun number => ?_⟩
  · rw [integersBetween_eq low high ordered, List.map_map]
    rfl
  · rw [List.pairwise_map]
    exact (List.pairwise_lt_finRange _).imp (integerAt_lt ordered)
  · rw [List.mem_map, Int64.le_iff_toInt_le, Int64.le_iff_toInt_le]
    constructor
    · rintro ⟨place, _, rfl⟩
      have bound := place.isLt
      rw [toInt_integerAt ordered]
      omega
    · rintro ⟨above, below⟩
      refine ⟨⟨(number.toInt - low.toInt).toNat, by omega⟩, List.mem_finRange _, ?_⟩
      rw [← Int64.toInt_inj, toInt_integerAt ordered]
      dsimp only
      omega

end Integers

/-! ## Axes -/

/-- What the axis of a range is: all labels, all integers where they are no more than the
steps, and otherwise values that go up from the low to the high end, one to a step. -/
def IsAxis (steps : Nat) (values : List (Value ℝ)) : Range ℝ → Prop
  | .linear low high | .logarithmic low high =>
      ∃ numbers : List ℝ,
        values = numbers.map .real ∧
          Spans numbers low high (if low = high then 1 else steps)
  | .integer low high =>
      ∃ numbers : List Int64,
        values = numbers.map .integer ∧ numbers.Pairwise (· < ·) ∧
          if high.toInt - low.toInt < steps then
            ∀ number, number ∈ numbers ↔ low ≤ number ∧ number ≤ high
          else Spans numbers low high steps
  | .choice labels => values = labels.map .label

theorem isAxis_axis {range : Range ℝ} (sound : range.defect? = none)
    (narrow : isTooWide range = false) {steps : Nat} (several : 2 ≤ steps) :
    IsAxis steps (axis steps range) range := by
  obtain ⟨before, rfl⟩ : ∃ before, steps = before + 1 := ⟨steps - 1, by omega⟩
  have positive : 0 < before := by omega
  have ends := sound
  rw [Range.defect?_eq_none_iff] at ends
  cases range with
  | linear low high => exact spaced_linear positive ends
  | logarithmic low high => exact spaced_logarithmic positive ends.2 ends.1
  | choice labels => rfl
  | integer low high =>
      have ordered : low ≤ high := ends
      have extentNarrow : high.toInt - low.toInt < 2 ^ 63 := by
        rw [← toInt_sub_eq_iff ordered]
        simpa [isTooWide] using narrow
      have last := natCast_extent ordered
      by_cases few : high.toInt - low.toInt < (before + 1 : Nat)
      · have all :
            (axis (before + 1) (.integer low high) : List (Value ℝ)) =
              integersBetween low high := by
          rw [axis_integer_of_narrow ordered extentNarrow,
            spaced_integers_of_few ordered positive (by omega), ite_self]
        obtain ⟨numbers, values, increasing, members⟩ :=
          exists_integersBetween (K := ℝ) ordered
        exact ⟨numbers, all.trans values, increasing, by rwa [if_pos few]⟩
      · have count := toInt_ofNat_le (before + 1)
        obtain ⟨numbers, values, spans⟩ :=
          spaced_integers_of_many ordered positive (by omega)
        refine ⟨numbers, ?_, spans.increasing, by rwa [if_neg few]⟩
        rw [axis_integer_of_narrow ordered extentNarrow, if_neg (by omega), values]

theorem pairwise_reals {numbers : List ℝ} (increasing : numbers.Pairwise (· < ·)) :
    (numbers.map Value.real).Pairwise fun first second => first.same second = false := by
  rw [List.pairwise_map]
  refine increasing.imp fun {first second} below => ?_
  rw [Bool.eq_false_iff, Ne, same_real_iff]
  exact below.ne

/-- The values of an axis differ, where labels do. -/
theorem IsAxis.pairwise {steps : Nat} {values : List (Value ℝ)} {range : Range ℝ}
    (isAxis : IsAxis steps values range)
    (labels : ∀ choices, range = .choice choices →
      choices.Pairwise fun first second => (first == second) = false) :
    values.Pairwise fun first second => first.same second = false := by
  cases range with
  | linear low high | logarithmic low high =>
      obtain ⟨numbers, rfl, spans⟩ := isAxis
      exact pairwise_reals spans.increasing
  | integer low high =>
      obtain ⟨numbers, rfl, increasing, _⟩ := isAxis
      rw [List.pairwise_map]
      refine increasing.imp fun {first second} below => ?_
      rw [Value.same, beq_eq_false_iff_ne]
      exact Int64.ne_of_lt below
  | choice choices =>
      obtain rfl := isAxis
      rw [List.pairwise_map]
      exact labels choices rfl

end Seeder

end BatchBayes
