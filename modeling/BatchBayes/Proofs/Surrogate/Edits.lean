import Mathlib.Order.Bounds.Basic
import BatchBayes.Double
import BatchBayes.Proofs.Surrogate.Rows
/-!
Data sets that are padded, stripped of filler and extended again and again. The
observed rows are the first ones and those that were added, in order; filler is
zeros behind them, and the rules of padding leave no more room than they must.
-/

namespace BatchBayes

/-! ## Capacities

Counts have no upper bound here. The laws hold of machine words as far as the
capacity fits into one.
-/

namespace PaddingRule

/-- The numbers of rows that a rule provides for. -/
def Admits : PaddingRule → Nat → Prop
  | .exact, _ => True
  | .multiplesOfTen, size => 10 ∣ size
  | .powersOfTwo, size => size = 0 ∨ size.isPowerOfTwo

/-- The next power of two is the double, so that a search by doubling passes
none of them over. -/
theorem double_le_of_lt {power larger : Nat} (isPower : power.isPowerOfTwo)
    (isLarger : larger.isPowerOfTwo) (less : power < larger) :
    power * 2 ≤ larger := by
  obtain ⟨exponent, rfl⟩ := isPower
  obtain ⟨largerExponent, rfl⟩ := isLarger
  rw [← Nat.pow_succ]
  exact Nat.pow_le_pow_right Nat.two_pos
    ((Nat.pow_lt_pow_iff_right Nat.one_lt_two).1 less)

-- The loop behind the next power of two has no public name.
open private Nat.nextPowerOfTwo.go from Init.Data.Nat.Power2.Basic

/-- Doubling a power of two with no sufficient one below it leads to the least
sufficient one. -/
theorem isLeast_doubling {count power : Nat} (positive : 0 < power)
    (isPower : power.isPowerOfTwo)
    (noneBelow : ∀ size, size.isPowerOfTwo → count ≤ size → power ≤ size) :
    IsLeast {size | size.isPowerOfTwo ∧ count ≤ size}
      (Nat.nextPowerOfTwo.go count power positive) := by
  fun_induction Nat.nextPowerOfTwo.go count power positive with
  | case1 power positive short inductionHypothesis =>
      refine inductionHypothesis
        (Nat.isPowerOfTwo_mul_two_of_isPowerOfTwo isPower) ?_
      intro size isSize holds
      exact double_le_of_lt isPower isSize (short.trans_le holds)
  | case2 power positive enough =>
      exact ⟨⟨isPower, not_lt.1 enough⟩,
        fun size ⟨isSize, holds⟩ => noneBelow size isSize holds⟩

theorem isLeast_nextPowerOfTwo (count : Nat) :
    IsLeast {size | size.isPowerOfTwo ∧ count ≤ size} count.nextPowerOfTwo :=
  isLeast_doubling Nat.one_pos Nat.isPowerOfTwo_one
    fun _ isPower _ => Nat.pos_of_isPowerOfTwo isPower

/-- A capacity is the least admissible number that the rows fit in. -/
theorem isLeast_capacity (rule : PaddingRule) (count : Nat) :
    IsLeast {size | rule.Admits size ∧ count ≤ size} (rule.capacity count) := by
  cases rule with
  | exact => exact ⟨⟨trivial, le_rfl⟩, fun _ ⟨_, holds⟩ => holds⟩
  | multiplesOfTen =>
      simp only [capacity, Admits]
      constructor
      · exact ⟨Nat.dvd_mul_left 10 _, by omega⟩
      · rintro size ⟨multiple, holds⟩
        omega
  | powersOfTwo =>
      rcases Nat.eq_zero_or_pos count with rfl | positive
      · exact ⟨⟨.inl rfl, le_rfl⟩, fun _ _ => Nat.zero_le _⟩
      · rw [capacity, if_neg positive.ne']
        obtain ⟨⟨isPower, holds⟩, least⟩ := isLeast_nextPowerOfTwo count
        refine ⟨⟨.inr isPower, holds⟩, ?_⟩
        rintro size ⟨rfl | isSize, enough⟩
        · exact absurd enough (not_le.2 positive)
        · exact least ⟨isSize, enough⟩

theorem monotone_capacity (rule : PaddingRule) : Monotone rule.capacity := by
  intro few many fewer
  obtain ⟨admitted, holds⟩ := (rule.isLeast_capacity many).1
  exact (rule.isLeast_capacity few).2 ⟨admitted, fewer.trans holds⟩

/-- Rows that fill a capacity need no more. -/
theorem capacity_capacity (rule : PaddingRule) (count : Nat) :
    rule.capacity (rule.capacity count) = rule.capacity count := by
  have full := rule.isLeast_capacity (rule.capacity count)
  exact le_antisymm (full.2 ⟨(rule.isLeast_capacity count).1.1, le_rfl⟩) full.1.2

end PaddingRule

namespace Observations

variable {K : Type} {data : Observations K}

/-! ## Columns -/

/-- The columns are of one length; the vectors in them may have any length. -/
structure Aligned (data : Observations K) : Prop where
  labels_length : data.labels.length = data.features.length
  mask_length : data.mask.length = data.features.length

theorem Aligned.numValid_eq (aligned : data.Aligned) :
    data.numValid = data.validRows.length :=
  numValid_eq_of_mask
    (rows_of_columns data aligned.labels_length aligned.mask_length).2.2

section Filler

variable [Scalar K] {missing : Nat}

/-- The columns hold the observed rows, and then only zeros for `missing` rows of
filler. -/
structure FillerLast (data : Observations K) (missing : Nat) : Prop where
  features_eq :
    data.features =
      data.validRows.map (·.features) ++
        List.replicate missing (List.replicate data.dimension 0)
  labels_eq :
    data.labels = data.validRows.map (·.label) ++ List.replicate missing 0
  mask_eq :
    data.mask =
      List.replicate data.validRows.length true ++ List.replicate missing false

namespace FillerLast

theorem size_eq (last : data.FillerLast missing) :
    data.size = data.validRows.length + missing := by
  rw [size, last.features_eq, List.length_append, List.length_map,
    List.length_replicate]

theorem aligned (last : data.FillerLast missing) : data.Aligned := by
  constructor
  · rw [last.labels_eq, last.features_eq]
    simp
  · rw [last.mask_eq, last.features_eq]
    simp

end FillerLast

theorem fillerLast_unpadded (data : Observations K) :
    data.unpadded.FillerLast 0 := by
  constructor
  · rw [validRows_unpadded, List.replicate_zero, List.append_nil]
    rfl
  · rw [validRows_unpadded, List.replicate_zero, List.append_nil]
    rfl
  · rw [validRows_unpadded]
    simp [unpadded, ofPoints]

theorem fillerLast_extend {points : List (List K)} {labels : List K}
    (lengths : labels.length = points.length) (data : Observations K) :
    (data.extend points labels).FillerLast 0 := by
  rw [← unpadded_extend lengths]
  exact fillerLast_unpadded _

theorem fillerLast_pad (data : Observations K) (padding : Padding) :
    (data.pad padding).FillerLast
      (padding data.validRows.length - data.validRows.length) := by
  constructor
  · rw [validRows_pad, dimension_pad, pad, size_unpadded]
    rfl
  · rw [validRows_pad, pad, size_unpadded]
    rfl
  · rw [validRows_pad, pad, size_unpadded]
    simp [unpadded, ofPoints]

theorem numValid_pad (aligned : data.Aligned) (padding : Padding) :
    (data.pad padding).numValid = data.numValid := by
  rw [(fillerLast_pad data padding).aligned.numValid_eq, validRows_pad,
    aligned.numValid_eq]

theorem size_pad (aligned : data.Aligned) (padding : Padding) :
    (data.pad padding).size = max (padding data.numValid) data.numValid := by
  rw [(fillerLast_pad data padding).size_eq, validRows_pad, aligned.numValid_eq]
  omega

end Filler

/-! ## Edits -/

/-- One edit of a data set. -/
inductive Edit (K : Type) where
  | pad (padding : Padding)
  | unpad
  /-- Add observed points, each with a label. -/
  | extend (points : List (List K)) (labels : List K)
      (lengths : labels.length = points.length)

/-- The observed rows that an edit adds. -/
def Edit.added : Edit K → List (Observation K)
  | .pad _ => []
  | .unpad => []
  | .extend points labels _ => newRows points labels

section Runs

variable [Scalar K]

def edit (data : Observations K) : Edit K → Observations K
  | .pad padding => data.pad padding
  | .unpad => data.unpadded
  | .extend points labels _ => data.extend points labels

/-- The data after edits, one made after another. -/
def after (data : Observations K) (edits : List (Edit K)) : Observations K :=
  edits.foldl edit data

theorem validRows_edit (data : Observations K) (next : Edit K) :
    (data.edit next).validRows = data.validRows ++ next.added := by
  cases next with
  | pad padding => rw [edit, validRows_pad, Edit.added, List.append_nil]
  | unpad => rw [edit, validRows_unpadded, Edit.added, List.append_nil]
  | extend points labels lengths =>
      rw [edit, validRows_extend lengths, Edit.added]

theorem dimension_edit (data : Observations K) (next : Edit K) :
    (data.edit next).dimension = data.dimension := by
  cases next <;> rfl

/-- Every edit leaves filler last, wherever it was before. -/
theorem exists_fillerLast_edit (data : Observations K) (next : Edit K) :
    ∃ missing, (data.edit next).FillerLast missing := by
  cases next with
  | pad padding => exact ⟨_, fillerLast_pad data padding⟩
  | unpad => exact ⟨0, fillerLast_unpadded data⟩
  | extend points labels lengths => exact ⟨0, fillerLast_extend lengths data⟩

theorem validRows_after (data : Observations K) (edits : List (Edit K)) :
    (data.after edits).validRows =
      data.validRows ++ edits.flatMap Edit.added := by
  induction edits generalizing data with
  | nil => exact (List.append_nil _).symm
  | cons next edits inductionHypothesis =>
      calc
        (data.after (next :: edits)).validRows
          = ((data.edit next).after edits).validRows := rfl
        _ = (data.validRows ++ next.added) ++ edits.flatMap Edit.added := by
          rw [inductionHypothesis, validRows_edit]
        _ = data.validRows ++ (next :: edits).flatMap Edit.added := by
          rw [List.append_assoc, List.flatMap_cons]

theorem dimension_after (data : Observations K) (edits : List (Edit K)) :
    (data.after edits).dimension = data.dimension := by
  induction edits generalizing data with
  | nil => rfl
  | cons next edits inductionHypothesis =>
      exact (inductionHypothesis (data.edit next)).trans (dimension_edit data next)

theorem exists_fillerLast_after (data : Observations K) {edits : List (Edit K)}
    (nonempty : edits ≠ []) : ∃ missing, (data.after edits).FillerLast missing := by
  -- Every edit starts from the observed rows, so the last one alone decides.
  rcases List.eq_nil_or_concat' edits with none | ⟨before, last, rfl⟩
  · exact absurd none nonempty
  · rw [after, List.foldl_append]
    exact exists_fillerLast_edit _ last

theorem Aligned.after (aligned : data.Aligned) (edits : List (Edit K)) :
    (data.after edits).Aligned := by
  by_cases none : edits = []
  · rw [none]
    exact aligned
  · obtain ⟨missing, last⟩ := exists_fillerLast_after data none
    exact last.aligned

/-- Padding never touches the observations: whatever data are padded, stripped of
filler and extended, their observed rows are the first ones and the added ones, in
order. The columns stay of one length, after any edit all filler is zeros behind the
observed rows, and padding makes as many rows as it asks for or as were observed. A
rule asks for the least admissible number. -/
theorem edits_keep_observations :
    (∀ (data : Observations K) (edits : List (Edit K)), data.Aligned →
      (data.after edits).Aligned ∧
        (data.after edits).dimension = data.dimension ∧
          (data.after edits).validRows =
            data.validRows ++ edits.flatMap Edit.added ∧
            (edits ≠ [] → ∃ missing, (data.after edits).FillerLast missing) ∧
              ∀ padding,
                let padded := (data.after edits).pad padding
                let observed := (data.after edits).numValid
                padded.size = max (padding observed) observed ∧
                  padded.numValid = observed ∧
                    padded.unpadded = (data.after edits).unpadded) ∧
    ∀ rule : PaddingRule,
      (∀ count,
        IsLeast {size | rule.Admits size ∧ count ≤ size} (rule.capacity count)) ∧
        Monotone rule.capacity ∧
          ∀ count, rule.capacity (rule.capacity count) = rule.capacity count := by
  constructor
  · intro data edits aligned
    have kept := aligned.after edits
    refine ⟨kept, dimension_after data edits, validRows_after data edits,
      exists_fillerLast_after data, fun padding => ⟨?_, ?_, ?_⟩⟩
    · exact size_pad kept padding
    · exact numValid_pad kept padding
    · exact unpadded_pad _ padding
  · intro rule
    exact ⟨rule.isLeast_capacity, rule.monotone_capacity, rule.capacity_capacity⟩

/-- Filler with values of its own stands between two observed points. The data are
padded by a policy that asks for too few rows, get one more point, and are padded to
a power of two; padding to tens after that makes ten rows. -/
theorem edits_keep_observations_around_filler :
    let data : Observations Float :=
      ⟨[[0.5], [7], [1]], [1, 9, 2], [true, false, true], 1⟩
    let edits : List (Edit Float) :=
      [.pad fun _ => 1, .extend [[3]] [4] rfl, .pad PaddingRule.powersOfTwo.capacity]
    data.Aligned ∧ edits ≠ [] ∧
      (data.after edits).validRows =
          [⟨[0.5], 1, true⟩, ⟨[1], 2, true⟩, ⟨[3], 4, true⟩] ∧
        (∃ missing, (data.after edits).FillerLast missing) ∧
          ((data.after edits).pad PaddingRule.multiplesOfTen.capacity).size = 10 := by
  intro data edits
  have aligned : data.Aligned := ⟨rfl, rfl⟩
  have nonempty : edits ≠ [] := List.cons_ne_nil _ _
  obtain ⟨columns, _, observed, filler, padded⟩ :=
    edits_keep_observations.1 data edits aligned
  refine ⟨aligned, nonempty, observed, filler nonempty, ?_⟩
  have count : (data.after edits).numValid = 3 := by
    rw [columns.numValid_eq, observed]
    rfl
  rw [(padded _).1, count]
  rfl

end Runs

end Observations

end BatchBayes
