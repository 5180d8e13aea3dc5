import BatchBayes.Proofs.Seeding.Axis
import BatchBayes.Proofs.Space.Recovery
/-!
Values by coordinate, exactly. A sound range has one of its own values at every coordinate,
finite or not. The values of a range with two ends go up from the low one to the high one, and
each integer and each label has a part of the unit interval, all parts being of one length.
-/

namespace BatchBayes

/-! ## Parts of the unit interval -/

/-- The part with the number `index`, of `count` parts of the unit interval that are of the
length `1 / count` each. The last part has the end of the interval. -/
def share (count index : Int) : Set ℝ :=
  if index + 1 = count then Set.Icc ((index : ℝ) / count) 1
  else Set.Ico ((index : ℝ) / count) (((index : ℝ) + 1) / count)

section Shares

variable {count index : Int}

theorem mem_share_iff (nonneg : 0 ≤ index) (bound : index < count) {place : ℝ}
    (atMost : place ≤ 1) :
    place ∈ share count index ↔ min ⌊place * count⌋ (count - 1) = index := by
  have positive : (0 : ℝ) < count := by exact_mod_cast nonneg.trans_lt bound
  rw [share]
  by_cases last : index + 1 = count
  · rw [if_pos last, Set.mem_Icc, and_iff_left atMost, div_le_iff₀ positive, ← Int.le_floor]
    omega
  · rw [if_neg last, Set.mem_Ico, div_le_iff₀ positive, lt_div_iff₀ positive,
      ← Int.floor_eq_iff]
    omega

theorem share_subset (nonneg : 0 ≤ index) (bound : index < count) :
    share count index ⊆ Set.Icc 0 1 := by
  have positive : (0 : ℝ) < count := by exact_mod_cast nonneg.trans_lt bound
  have startNonneg : 0 ≤ (index : ℝ) / count :=
    div_nonneg (by exact_mod_cast nonneg) positive.le
  have stop : ((index : ℝ) + 1) / count ≤ 1 := by
    rw [div_le_one positive]
    exact_mod_cast Int.add_one_le_of_lt bound
  intro place inside
  rw [share] at inside
  by_cases last : index + 1 = count
  · rw [if_pos last] at inside
    exact ⟨startNonneg.trans inside.1, inside.2⟩
  · rw [if_neg last] at inside
    exact ⟨startNonneg.trans inside.1, inside.2.le.trans stop⟩

/-- The places with a property that just those of one part have. -/
theorem setOf_eq_share (nonneg : 0 ≤ index) (bound : index < count) {property : ℝ → Prop}
    (same : ∀ place ∈ Set.Icc (0 : ℝ) 1, property place ↔ place ∈ share count index) :
    {place ∈ Set.Icc (0 : ℝ) 1 | property place} = share count index := by
  refine Set.Subset.antisymm ?_ ?_
  · rintro place ⟨inside, has⟩
    exact (same place inside).1 has
  · intro place inShare
    have inside := share_subset nonneg bound inShare
    exact ⟨inside, (same place inside).2 inShare⟩

theorem exists_mem_share (nonneg : 0 ≤ index) (bound : index < count) :
    ∃ place ∈ Set.Icc (0 : ℝ) 1, place ∈ share count index := by
  have positive : (0 : ℝ) < count := by exact_mod_cast nonneg.trans_lt bound
  have atMost : (index : ℝ) / count ≤ 1 := by
    rw [div_le_one positive]
    exact_mod_cast bound.le
  have start : (index : ℝ) / count ∈ share count index := by
    rw [mem_share_iff nonneg bound atMost, div_mul_cancel₀ _ positive.ne', Int.floor_intCast]
    omega
  exact ⟨_, share_subset nonneg bound start, start⟩

end Shares

/-- Of two numbers of one kind the first is not above the second. -/
inductive Value.AtMost {K : Type} [LE K] : Value K → Value K → Prop
  | real {first second : K} : first ≤ second → AtMost (.real first) (.real second)
  | integer {first second : Int64} :
      first ≤ second → AtMost (.integer first) (.integer second)

namespace Range

/-! ## Places -/

/-- The place in the unit interval that a coordinate stands for. -/
def placeOf {K : Type} [Scalar K] (coordinate : K) : K :=
  if Scalar.isFinite coordinate then Scalar.clamp coordinate 0 1 else 0.5

theorem exists_placeOf (coordinate : Extended) :
    ∃ place ∈ Set.Icc (0 : ℝ) 1, placeOf coordinate = .finite place := by
  obtain ⟨place, nonneg, atMost, same⟩ := exists_clamped coordinate
  exact ⟨place, ⟨nonneg, atMost⟩, List.head_eq_of_cons_eq same⟩

theorem placeOf_finite {place : ℝ} (inside : place ∈ Set.Icc (0 : ℝ) 1) :
    placeOf (Extended.finite place) = .finite place := by
  rw [placeOf, if_pos (Extended.isFinite_finite place), Extended.zero_eq, Extended.one_eq,
    Extended.clamp_finite, Scalar.clamp_of_mem inside.1 inside.2]

/-- A value is known from the place of its coordinate. -/
theorem valueAt_of_placeOf {coordinate : Extended} {place : ℝ}
    (inside : place ∈ Set.Icc (0 : ℝ) 1) (stands : placeOf coordinate = .finite place)
    (range : Range Extended) :
    range.valueAt coordinate = range.valueAt (.finite place) := by
  have same := stands.trans (placeOf_finite inside).symm
  rw [placeOf, placeOf] at same
  simp only [valueAt, same]

/-! ## Numbers -/

/-- The lowest and the highest value of a range of numbers. -/
def extremes? {K : Type} : Range K → Option (Value K × Value K)
  | linear low high => some (.real low, .real high)
  | logarithmic low high => some (.real low, .real high)
  | integer low high => some (.integer low, .integer high)
  | choice _ => none

/-- The numbers of a range by place: they go up without a gap from one end to the other. -/
structure Runs (range : Range Extended) (number : ℝ → ℝ) (low high : ℝ) : Prop where
  ends : range.extremes? = some (.real (.finite low), .real (.finite high))
  contains_iff : ∀ value, range.contains value = true ↔
    ∃ number : ℝ, value = .real (.finite number) ∧ low ≤ number ∧ number ≤ high
  valueAt : ∀ place ∈ Set.Icc (0 : ℝ) 1,
    range.valueAt (.finite place) = .real (.finite (number place))
  monotone : Monotone number
  continuous : Continuous number
  first : number 0 = low
  last : number 1 = high

namespace Runs

variable {range : Range Extended} {number : ℝ → ℝ} {low high : ℝ}

theorem contains_valueAt (runs : range.Runs number low high) {place : ℝ}
    (inside : place ∈ Set.Icc (0 : ℝ) 1) :
    range.contains (range.valueAt (.finite place)) = true := by
  rw [runs.valueAt place inside, runs.contains_iff, ← runs.first, ← runs.last]
  exact ⟨number place, rfl, runs.monotone inside.1, runs.monotone inside.2⟩

theorem exists_place (runs : range.Runs number low high) {value : ℝ} (above : low ≤ value)
    (below : value ≤ high) : ∃ place ∈ Set.Icc (0 : ℝ) 1, number place = value := by
  have reached := intermediate_value_Icc zero_le_one runs.continuous.continuousOn
  rw [runs.first, runs.last] at reached
  exact reached ⟨above, below⟩

end Runs

section Between

open Seeder

variable {low high : ℝ}

theorem monotone_between (ordered : low ≤ high) : Monotone (between low high) := by
  rcases ordered.lt_or_eq with below | rfl
  · exact (strictMono_between below).monotone
  · intro first second _
    rw [between_self, between_self]

theorem continuous_between (low high : ℝ) : Continuous (between low high) :=
  continuous_const.add (continuous_id.mul continuous_const)

theorem contains_linear_iff (low high : ℝ) (value : Value Extended) :
    (linear (.finite low) (.finite high)).contains value = true ↔
      ∃ number : ℝ, value = .real (.finite number) ∧ low ≤ number ∧ number ≤ high := by
  constructor
  · intro inside
    cases value with
    | real value =>
        obtain ⟨number, rfl, above, below⟩ := exists_finite_between inside
        exact ⟨number, rfl, above, below⟩
    | integer value => cases inside
    | label value => cases inside
  · rintro ⟨number, rfl, above, below⟩
    simp [contains, Scalar.within, above, below]

theorem contains_logarithmic {K : Type} [Scalar K] (low high : K) (value : Value K) :
    (logarithmic low high).contains value = (linear low high).contains value := by
  cases value <;> rfl

theorem runs_linear (ordered : low ≤ high) :
    (linear (.finite low) (.finite high)).Runs (between low high) low high where
  ends := rfl
  contains_iff := contains_linear_iff low high
  valueAt place inside := by
    obtain ⟨above, below⟩ := between_mem ordered inside.1 inside.2
    have unfolded : (linear (.finite low) (.finite high)).valueAt (.finite place) =
        .real (Scalar.clamp (Extended.finite low +
          placeOf (.finite place) * (Extended.finite high - .finite low))
          (.finite low) (.finite high)) := rfl
    rw [unfolded, placeOf_finite inside, Extended.finite_sub, Extended.finite_mul,
      Extended.finite_add, Extended.clamp_finite]
    exact congrArg (Value.real ∘ Extended.finite) (Scalar.clamp_of_mem above below)
  monotone := monotone_between ordered
  continuous := continuous_between low high
  first := between_zero low high
  last := between_one low high

theorem runs_logarithmic (positive : 0 < low) (ordered : low ≤ high) :
    (logarithmic (.finite low) (.finite high)).Runs
      (fun place => Real.exp (between (Real.log low) (Real.log high) place)) low high where
  ends := rfl
  contains_iff value := by
    rw [contains_logarithmic]
    exact contains_linear_iff low high value
  valueAt place inside := by
    have highPositive : 0 < high := positive.trans_le ordered
    obtain ⟨above, below⟩ :=
      between_mem (Real.log_le_log positive ordered) inside.1 inside.2
    rw [← Real.exp_le_exp, Real.exp_log positive] at above
    rw [← Real.exp_le_exp, Real.exp_log highPositive] at below
    have unfolded : (logarithmic (.finite low) (.finite high)).valueAt (.finite place) =
        .real (Scalar.clamp (Scalar.exp (Scalar.log (Extended.finite low) +
          placeOf (.finite place) *
            (Scalar.log (Extended.finite high) - Scalar.log (Extended.finite low))))
          (.finite low) (.finite high)) := rfl
    rw [unfolded, placeOf_finite inside, Extended.log_finite positive,
      Extended.log_finite highPositive, Extended.finite_sub, Extended.finite_mul,
      Extended.finite_add, Extended.exp_finite, Extended.clamp_finite]
    exact congrArg (Value.real ∘ Extended.finite) (Scalar.clamp_of_mem above below)
  monotone := Real.exp_monotone.comp (monotone_between (Real.log_le_log positive ordered))
  continuous := Real.continuous_exp.comp (continuous_between _ _)
  first := by rw [between_zero, Real.exp_log positive]
  last := by rw [between_one, Real.exp_log (positive.trans_le ordered)]

end Between

/-! ## Integers -/

/-- Whether an integer can be said in a number of bits, one of which is for the sign. -/
def FitsSigned (bits : Nat) (number : Int) : Prop :=
  -2 ^ (bits - 1) ≤ number ∧ number < 2 ^ (bits - 1)

theorem floor_placeOf_mul {place : ℝ} (inside : place ∈ Set.Icc (0 : ℝ) 1) (count : Int) :
    Scalar.floor (placeOf (Extended.finite place) * Scalar.ofInt count) =
      ⌊place * (count : ℝ)⌋ := by
  rw [placeOf_finite inside, Extended.ofInt_eq, Extended.finite_mul]
  rfl

theorem floor_placeOf_mem (coordinate : Extended) {count : Int} (nonneg : 0 ≤ count) :
    0 ≤ Scalar.floor (placeOf coordinate * Scalar.ofInt count) ∧
      Scalar.floor (placeOf coordinate * Scalar.ofInt count) ≤ count := by
  obtain ⟨place, inside, stands⟩ := exists_placeOf coordinate
  have countNonneg : (0 : ℝ) ≤ count := by exact_mod_cast nonneg
  rw [stands, ← placeOf_finite inside, floor_placeOf_mul inside]
  refine ⟨Int.floor_nonneg.2 (mul_nonneg inside.1 countNonneg), ?_⟩
  have bounded := Int.floor_mono (mul_le_of_le_one_left countNonneg inside.2)
  rwa [Int.floor_intCast] at bounded

section Integers

variable {low high : Int64}

/-- An integer of a range is the low end and as many more as there are whole parts before
the place; the end of the unit interval has the high end. Nothing on the way to it is too
large for 128 bits. -/
theorem valueAt_integer_steps (ordered : low ≤ high) (coordinate : Extended) :
    let last := high.toInt - low.toInt
    let whole := Scalar.floor (placeOf coordinate * Scalar.ofInt (last + 1))
    let result := low.toInt + min whole last
    (∀ step ∈ [last, last + 1, whole, min whole last, result], FitsSigned 128 step) ∧
      FitsSigned 64 result ∧
      (integer low high).valueAt coordinate = .integer (Int64.ofInt result) ∧
      (Int64.ofInt result).toInt = result := by
  intro last whole result
  have order : low.toInt ≤ high.toInt := Int64.le_iff_toInt_le.1 ordered
  have above := low.le_toInt
  have below := high.toInt_lt
  have lastNonneg : 0 ≤ last := Int.sub_nonneg.2 order
  obtain ⟨wholeNonneg, wholeAtMost⟩ :=
    floor_placeOf_mem coordinate (Int.add_nonneg lastNonneg Int.one_nonneg)
  have resultAbove : low.toInt ≤ result := by omega
  have resultBelow : result ≤ high.toInt := by omega
  refine ⟨?_, ⟨above.trans resultAbove, resultBelow.trans_lt below⟩, rfl,
    Int64.toInt_ofInt_of_le (above.trans resultAbove) (resultBelow.trans_lt below)⟩
  simp only [List.forall_mem_cons, List.not_mem_nil, IsEmpty.forall_iff, implies_true,
    and_true, FitsSigned]
  omega

theorem exists_valueAt_integer (ordered : low ≤ high) {place : ℝ}
    (inside : place ∈ Set.Icc (0 : ℝ) 1) :
    ∃ number,
      (integer low high).valueAt (Extended.finite place) = .integer number ∧
        number.toInt =
          low.toInt +
            min ⌊place * ((high.toInt - low.toInt + 1 : Int) : ℝ)⌋
              (high.toInt - low.toInt) := by
  obtain ⟨_, _, value, toInt⟩ := valueAt_integer_steps ordered (.finite place)
  rw [floor_placeOf_mul inside] at value toInt
  exact ⟨_, value, toInt⟩

/-- Each integer has a part of its own. -/
theorem valueAt_integer_eq_iff {number : Int64} (above : low ≤ number)
    (below : number ≤ high) {place : ℝ} (inside : place ∈ Set.Icc (0 : ℝ) 1) :
    (integer low high).valueAt (Extended.finite place) = .integer number ↔
      place ∈ share (high.toInt - low.toInt + 1) (number.toInt - low.toInt) := by
  obtain ⟨found, value, toInt⟩ := exists_valueAt_integer (Int64.le_trans above below) inside
  rw [Int64.le_iff_toInt_le] at above below
  rw [mem_share_iff (by omega) (by omega) inside.2, value, Value.integer.injEq,
    ← Int64.toInt_inj, toInt, add_sub_cancel_right]
  omega

theorem contains_valueAt_integer (ordered : low ≤ high) (coordinate : Extended) :
    (integer low high).contains ((integer low high).valueAt coordinate) = true := by
  have order : low.toInt ≤ high.toInt := Int64.le_iff_toInt_le.1 ordered
  have lengthNonneg : 0 ≤ high.toInt - low.toInt + 1 := by omega
  obtain ⟨wholeNonneg, _⟩ := floor_placeOf_mem coordinate lengthNonneg
  obtain ⟨_, _, value, toInt⟩ := valueAt_integer_steps ordered coordinate
  rw [value, contains, Bool.and_eq_true, decide_eq_true_iff, decide_eq_true_iff,
    Int64.le_iff_toInt_le, Int64.le_iff_toInt_le, toInt]
  omega

theorem valueAt_integer_ends (ordered : low ≤ high) :
    (integer low high).valueAt (Extended.finite 0) = .integer low ∧
      (integer low high).valueAt (Extended.finite 1) = .integer high := by
  have order : low.toInt ≤ high.toInt := Int64.le_iff_toInt_le.1 ordered
  constructor
  · rw [valueAt_integer_eq_iff (Int64.le_refl low) ordered (by simp),
      mem_share_iff (by omega) (by omega) zero_le_one, zero_mul, Int.floor_zero]
    omega
  · rw [valueAt_integer_eq_iff ordered (Int64.le_refl high) (by simp),
      mem_share_iff (by omega) (by omega) le_rfl, one_mul, Int.floor_intCast]
    omega

theorem valueAt_integer_mono (ordered : low ≤ high) {first second : ℝ}
    (inFirst : first ∈ Set.Icc (0 : ℝ) 1) (inSecond : second ∈ Set.Icc (0 : ℝ) 1)
    (order : first ≤ second) :
    ((integer low high).valueAt (Extended.finite first)).AtMost
      ((integer low high).valueAt (.finite second)) := by
  have ends : low.toInt ≤ high.toInt := Int64.le_iff_toInt_le.1 ordered
  have count : (0 : ℝ) ≤ ((high.toInt - low.toInt + 1 : Int) : ℝ) := by
    exact_mod_cast (by omega : 0 ≤ high.toInt - low.toInt + 1)
  have floors := Int.floor_mono (mul_le_mul_of_nonneg_right order count)
  obtain ⟨number, value, toInt⟩ := exists_valueAt_integer ordered inFirst
  obtain ⟨other, otherValue, otherToInt⟩ := exists_valueAt_integer ordered inSecond
  rw [value, otherValue]
  refine .integer (Int64.le_iff_toInt_le.2 ?_)
  omega

end Integers

/-! ## Labels -/

/-- The index of the label at a coordinate, of `count` labels. -/
def labelIndex {K : Type} [Scalar K] (count : Nat) (coordinate : K) : Nat :=
  min (Scalar.floor (placeOf coordinate * Scalar.ofNat count)).toNat (count - 1)

theorem valueAt_choice {K : Type} [Scalar K] (labels : List Json) (coordinate : K) :
    (choice labels).valueAt coordinate =
      .label (labels.getD (labelIndex labels.length coordinate) .null) := rfl

theorem labelIndex_lt {K : Type} [Scalar K] {count : Nat} (positive : 0 < count)
    (coordinate : K) : labelIndex count coordinate < count :=
  (min_le_right _ _).trans_lt (Nat.sub_lt positive one_pos)

theorem labelIndex_eq_iff {count index : Nat} (bound : index < count) {place : ℝ}
    (inside : place ∈ Set.Icc (0 : ℝ) 1) :
    labelIndex count (Extended.finite place) = index ↔ place ∈ share count index := by
  have floorNonneg := (floor_placeOf_mem (.finite place) (Int.natCast_nonneg count)).1
  have same : (Scalar.ofNat count : Extended) = Scalar.ofInt (count : Int) := rfl
  rw [mem_share_iff (Int.natCast_nonneg index) (by exact_mod_cast bound) inside.2, labelIndex,
    same, ← floor_placeOf_mul inside]
  omega

/-! ## Sound ranges -/

/-- What a sound range is a range of. -/
inductive RangesOver : Range Extended → Prop
  | numbers {range : Range Extended} {number : ℝ → ℝ} {low high : ℝ} :
      range.Runs number low high → RangesOver range
  | integers {low high : Int64} : low ≤ high → RangesOver (.integer low high)
  | labels {labels : List Json} : labels ≠ [] → RangesOver (.choice labels)

theorem rangesOver_of_sound {range : Range Extended} (sound : range.defect? = none) :
    range.RangesOver := by
  cases range with
  | linear low high =>
      have ordered : isOrdered low high = true := by simpa [defect?] using sound
      obtain ⟨low, high, rfl, rfl⟩ := exists_finite_ends ordered
      exact .numbers (runs_linear (by simpa [isOrdered] using ordered))
  | logarithmic low high =>
      have ordered : isOrdered low high = true ∧ ¬ low ≤ 0 := by
        simpa [defect?] using sound
      obtain ⟨low, high, rfl, rfl⟩ := exists_finite_ends ordered.1
      have positive : 0 < low := by simpa [Extended.zero_eq] using ordered.2
      exact .numbers (runs_logarithmic positive (by simpa [isOrdered] using ordered.1))
  | integer low high => exact .integers (Range.le_of_sound sound)
  | choice labels => exact .labels (by simpa [defect?] using sound)

namespace RangesOver

variable {range : Range Extended}

theorem contains_valueAt (kind : range.RangesOver) (coordinate : Extended) :
    range.contains (range.valueAt coordinate) = true := by
  cases kind with
  | numbers runs =>
      obtain ⟨place, inside, stands⟩ := exists_placeOf coordinate
      rw [valueAt_of_placeOf inside stands]
      exact runs.contains_valueAt inside
  | integers ordered => exact contains_valueAt_integer ordered coordinate
  | @labels labels nonempty =>
      have bound := labelIndex_lt (List.length_pos_iff.2 nonempty) coordinate
      rw [valueAt_choice, List.getD_eq_getElem labels .null bound, contains,
        List.any_eq_true]
      exact ⟨_, List.getElem_mem bound, Json.beq_self _⟩

/-- A label may be found as another one that is equal to it. -/
theorem exists_valueAt_same (kind : range.RangesOver) {value : Value Extended}
    (contained : range.contains value = true) :
    ∃ place ∈ Set.Icc (0 : ℝ) 1, (range.valueAt (.finite place)).same value = true := by
  cases kind with
  | numbers runs =>
      obtain ⟨number, rfl, above, below⟩ := (runs.contains_iff value).1 contained
      obtain ⟨place, inside, same⟩ := runs.exists_place above below
      refine ⟨place, inside, ?_⟩
      rw [runs.valueAt place inside, same, Value.same, Extended.finite_beq,
        beq_self_eq_true]
  | @integers low high ordered =>
      cases value with
      | real value => cases contained
      | label value => cases contained
      | integer number =>
          obtain ⟨above, below⟩ : low ≤ number ∧ number ≤ high := by
            simpa [contains] using contained
          have aboveInt := Int64.le_iff_toInt_le.1 above
          have belowInt := Int64.le_iff_toInt_le.1 below
          have nonneg : 0 ≤ number.toInt - low.toInt := by omega
          have bound : number.toInt - low.toInt < high.toInt - low.toInt + 1 := by omega
          obtain ⟨place, inside, inShare⟩ := exists_mem_share nonneg bound
          refine ⟨place, inside, ?_⟩
          rw [(valueAt_integer_eq_iff above below inside).2 inShare, Value.same,
            beq_self_eq_true]
  | @labels labels nonempty =>
      cases value with
      | real value => cases contained
      | integer value => cases contained
      | label chosen =>
          obtain ⟨label, member, same⟩ := List.any_eq_true.1 contained
          obtain ⟨index, bound, rfl⟩ := List.getElem_of_mem member
          have nonneg := Int.natCast_nonneg index
          have boundInt : (index : Int) < labels.length := by exact_mod_cast bound
          obtain ⟨place, inside, inShare⟩ := exists_mem_share nonneg boundInt
          refine ⟨place, inside, ?_⟩
          rw [valueAt_choice, (labelIndex_eq_iff bound inside).2 inShare,
            List.getD_eq_getElem labels .null bound, Value.same]
          exact same

theorem valueAt_ends (kind : range.RangesOver) {lowest highest : Value Extended}
    (ends : range.extremes? = some (lowest, highest)) :
    range.valueAt 0 = lowest ∧ range.valueAt 1 = highest := by
  rw [Extended.zero_eq, Extended.one_eq]
  cases kind with
  | numbers runs =>
      rw [runs.ends] at ends
      obtain ⟨rfl, rfl⟩ := Prod.mk.inj (Option.some.inj ends)
      rw [runs.valueAt 0 (by simp), runs.valueAt 1 (by simp), runs.first, runs.last]
      exact ⟨rfl, rfl⟩
  | integers ordered =>
      obtain ⟨rfl, rfl⟩ := Prod.mk.inj (Option.some.inj ends)
      exact valueAt_integer_ends ordered
  | labels nonempty => cases ends

theorem valueAt_mono (kind : range.RangesOver) (numeric : range.extremes?.isSome = true)
    {first second : ℝ} (inFirst : first ∈ Set.Icc (0 : ℝ) 1)
    (inSecond : second ∈ Set.Icc (0 : ℝ) 1) (order : first ≤ second) :
    (range.valueAt (.finite first)).AtMost (range.valueAt (.finite second)) := by
  cases kind with
  | numbers runs =>
      rw [runs.valueAt first inFirst, runs.valueAt second inSecond]
      exact .real ((Extended.finite_le _ _).2 (runs.monotone order))
  | integers ordered => exact valueAt_integer_mono ordered inFirst inSecond order
  | labels nonempty => cases numeric

end RangesOver

/-- In a sound range of any kind, the value at every coordinate, finite or not, is one of the
range, and every value of the range is the one at some place of the unit interval. Numbers and
integers go up with the place, from the low end at the first place to the high end at the last
one. Of a range of integers, all that is computed on the way to a value fits into 128 bits and
the value into 64, and each integer has just one part of the unit interval, all of them of
the length one over their number; so have the indices of the labels of a choice. -/
theorem valueAt_samples_range {range : Range Extended} (sound : range.defect? = none) :
    (∀ coordinate, range.contains (range.valueAt coordinate) = true) ∧
    (∀ value, range.contains value = true →
      ∃ place ∈ Set.Icc (0 : ℝ) 1, (range.valueAt (.finite place)).same value = true) ∧
    (∀ lowest highest, range.extremes? = some (lowest, highest) →
      range.valueAt 0 = lowest ∧ range.valueAt 1 = highest ∧
      ∀ first ∈ Set.Icc (0 : ℝ) 1, ∀ second ∈ Set.Icc (0 : ℝ) 1, first ≤ second →
        (range.valueAt (.finite first)).AtMost (range.valueAt (.finite second))) ∧
    (∀ low high, range = .integer low high →
      let last := high.toInt - low.toInt
      (∀ coordinate : Extended,
        let whole := Scalar.floor (placeOf coordinate * Scalar.ofInt (last + 1))
        let result := low.toInt + min whole last
        (∀ step ∈ [last, last + 1, whole, min whole last, result], FitsSigned 128 step) ∧
          FitsSigned 64 result ∧
          range.valueAt coordinate = .integer (Int64.ofInt result) ∧
          (Int64.ofInt result).toInt = result) ∧
      ∀ number, low ≤ number → number ≤ high →
        {place ∈ Set.Icc (0 : ℝ) 1 | range.valueAt (.finite place) = .integer number} =
          share (last + 1) (number.toInt - low.toInt)) ∧
    ∀ labels, range = .choice labels →
      (∀ coordinate, labelIndex labels.length coordinate < labels.length ∧
        range.valueAt coordinate =
          .label (labels.getD (labelIndex labels.length coordinate) .null)) ∧
      ∀ index < labels.length,
        {place ∈ Set.Icc (0 : ℝ) 1 |
            labelIndex labels.length (Extended.finite place) = index} =
          share labels.length index := by
  have kind := rangesOver_of_sound sound
  refine ⟨kind.contains_valueAt, fun value => kind.exists_valueAt_same, ?_, ?_, ?_⟩
  · intro lowest highest ends
    obtain ⟨first, last⟩ := kind.valueAt_ends ends
    have numeric : range.extremes?.isSome = true := by rw [ends, Option.isSome_some]
    exact ⟨first, last, fun _ inFirst _ inSecond => kind.valueAt_mono numeric inFirst inSecond⟩
  · rintro low high rfl last
    refine ⟨valueAt_integer_steps (Range.le_of_sound sound), fun number above below => ?_⟩
    have aboveInt := Int64.le_iff_toInt_le.1 above
    have belowInt := Int64.le_iff_toInt_le.1 below
    exact setOf_eq_share (by omega) (by omega) fun place inside =>
      valueAt_integer_eq_iff above below inside
  · rintro labels rfl
    have nonempty : labels ≠ [] := by simpa [defect?] using sound
    refine ⟨fun coordinate =>
      ⟨labelIndex_lt (List.length_pos_iff.2 nonempty) coordinate, rfl⟩, ?_⟩
    intro index bound
    exact setOf_eq_share (Int.natCast_nonneg index) (by exact_mod_cast bound)
      fun place inside => labelIndex_eq_iff bound inside

/-- The range of all integers of 64 bits, of which there are too many for one. -/
theorem valueAt_samples_range_of_all_integers :
    let range : Range Extended := .integer Int64.minValue Int64.maxValue
    range.defect? = none ∧ range.contains (range.valueAt .notANumber) = true ∧
      range.valueAt 0 = .integer Int64.minValue ∧
      range.valueAt 1 = .integer Int64.maxValue ∧
      {place ∈ Set.Icc (0 : ℝ) 1 | range.valueAt (.finite place) = .integer 0} =
        share (2 ^ 64) (2 ^ 63) := by
  intro range
  have sound : range.defect? = none := by rw [defect?, if_pos (by decide)]
  obtain ⟨within, _, ends, integers, _⟩ := valueAt_samples_range sound
  obtain ⟨first, last, _⟩ := ends (.integer Int64.minValue) (.integer Int64.maxValue) rfl
  obtain ⟨_, parts⟩ := integers Int64.minValue Int64.maxValue rfl
  exact ⟨sound, within .notANumber, first, last, parts 0 (by decide) (by decide)⟩

end Range

end BatchBayes
