import Mathlib
import BatchBayes.Proofs.Exact
import BatchBayes.Proofs.Loop
import BatchBayes.Seeding.Sequence
/-!
The radical inverse, exactly: the digits of an index behind the point in reverse order. Of as
many indices in a row as there are parts of the unit interval of one length, from a multiple
of their number on, each part has one.
-/

namespace BatchBayes

open Finset in
/-- The number with some digits behind the point. -/
noncomputable def behindPoint (base : Nat) (digits : List Nat) : ℝ :=
  ∑ place ∈ range digits.length, (digits.getD place 0 : ℝ) / (base : ℝ) ^ (place + 1)

theorem behindPoint_nil (base : Nat) : behindPoint base [] = 0 := rfl

theorem behindPoint_cons (base digit : Nat) (digits : List Nat) :
    behindPoint base (digit :: digits) = (digit + behindPoint base digits) / base := by
  rw [behindPoint, List.length_cons, Finset.sum_range_succ', add_comm, add_div, behindPoint,
    Finset.sum_div]
  congr 1
  · rw [List.getD_cons_zero, zero_add, pow_one]
  · refine Finset.sum_congr rfl fun place _ => ?_
    rw [List.getD_cons_succ, pow_succ, div_div]

section Base

variable {base : Nat}

theorem base_pos (proper : 2 ≤ base) : (0 : ℝ) < base := by
  exact_mod_cast Nat.zero_lt_of_lt proper

/-! ## Digits -/

namespace Reflection

theorem turn_eq_some_iff {K : Type} [Scalar K] {inverse : K} {digits later : Reflection K} :
    turn base inverse digits = some later ↔
      0 < digits.index ∧ later =
        { index := digits.index / base
          place := digits.place * inverse
          total := digits.total + Scalar.ofNat (digits.index % base) * digits.place } := by
  rw [turn, Option.ite_none_right_eq_some, Option.some.injEq, eq_comm (b := later)]

theorem ends {K : Type} [Scalar K] (proper : 2 ≤ base) (inverse : K) :
    Loop.Ends (turn base inverse) := by
  refine .of_decreasing Reflection.index ?_
  intro earlier later next
  obtain ⟨positive, rfl⟩ := turn_eq_some_iff.1 next
  exact Nat.div_lt_self positive proper

/-- The sum once the digits that are left are written behind the others. -/
noncomputable def whole (base : Nat) (digits : Reflection ℝ) : ℝ :=
  digits.total + digits.place * base * behindPoint base (Nat.digits base digits.index)

theorem whole_eq_of_turn (proper : 2 ≤ base) {digits later : Reflection ℝ}
    (next : turn base (1 / (base : ℝ)) digits = some later) :
    whole base later = whole base digits := by
  obtain ⟨positive, rfl⟩ := turn_eq_some_iff.1 next
  have nonzero := (base_pos proper).ne'
  rw [whole, whole, Nat.digits_def' proper positive, behindPoint_cons, Scalar.ofNat_real]
  field_simp
  ring

theorem total_run (proper : 2 ≤ base) (digits : Reflection ℝ) :
    (Loop.run (turn base (1 / (base : ℝ))) digits).total = whole base digits := by
  have loopEnds := ends proper (1 / (base : ℝ))
  have last := loopEnds.turn_run digits
  rw [turn, ite_eq_right_iff] at last
  have finished :
      (Loop.run (turn base (1 / (base : ℝ))) digits).index = 0 := by
    by_contra positive
    cases last (Nat.pos_of_ne_zero positive)
  rw [← loopEnds.run_invariant (whole base) (whole_eq_of_turn proper) digits, whole, finished,
    Nat.digits_zero, behindPoint_nil, mul_zero, add_zero]

end Reflection

theorem radicalInverse_eq (proper : 2 ≤ base) (index : Nat) :
    radicalInverse base index = behindPoint base (Nat.digits base index) := by
  have nonzero := (base_pos proper).ne'
  rw [radicalInverse, Scalar.ofNat_real, Reflection.total_run proper, Reflection.whole,
    zero_add, one_div_mul_cancel nonzero, one_mul]

theorem radicalInverse_zero (proper : 2 ≤ base) : (radicalInverse base 0 : ℝ) = 0 := by
  rw [radicalInverse_eq proper, Nat.digits_zero, behindPoint_nil]

/-- The lowest digit comes right behind the point. -/
theorem radicalInverse_step (proper : 2 ≤ base) (index : Nat) :
    (radicalInverse base index : ℝ) =
      ((index % base : Nat) + radicalInverse base (index / base)) / base := by
  rcases Nat.eq_zero_or_pos index with rfl | positive
  · rw [Nat.zero_div, Nat.zero_mod, radicalInverse_zero proper, Nat.cast_zero, zero_add,
      zero_div]
  · rw [radicalInverse_eq proper, Nat.digits_def' proper positive, behindPoint_cons,
      radicalInverse_eq proper]

theorem radicalInverse_mem (proper : 2 ≤ base) (index : Nat) :
    0 ≤ (radicalInverse base index : ℝ) ∧ (radicalInverse base index : ℝ) < 1 := by
  induction index using Nat.strong_induction_on with
  | _ index inductionHypothesis =>
      rcases Nat.eq_zero_or_pos index with rfl | positive
      · rw [radicalInverse_zero proper]
        exact ⟨le_rfl, one_pos⟩
      · obtain ⟨nonneg, below⟩ := inductionHypothesis _ (Nat.div_lt_self positive proper)
        have digit : ((index % base : Nat) : ℝ) + 1 ≤ base := by
          exact_mod_cast Nat.mod_lt index (Nat.zero_lt_of_lt proper)
        rw [radicalInverse_step proper, div_lt_one (base_pos proper)]
        exact ⟨by positivity, by linarith⟩

/-! ## Parts of the unit interval -/

/-- The number of the part that the radical inverse of an index lies in, where the unit
interval has `base ^ depth` parts of one length. -/
noncomputable def partOf (base depth index : Nat) : Nat :=
  ⌊(radicalInverse base index : ℝ) * (base : ℝ) ^ depth⌋₊

theorem partOf_eq_iff (proper : 2 ≤ base) (depth index part : Nat) :
    partOf base depth index = part ↔
      (part : ℝ) / (base : ℝ) ^ depth ≤ radicalInverse base index ∧
        radicalInverse base index < ((part : ℝ) + 1) / (base : ℝ) ^ depth := by
  have parts : (0 : ℝ) < (base : ℝ) ^ depth := pow_pos (base_pos proper) depth
  obtain ⟨nonneg, _⟩ := radicalInverse_mem proper index
  rw [partOf, Nat.floor_eq_iff (mul_nonneg nonneg parts.le), div_le_iff₀ parts,
    lt_div_iff₀ parts]

theorem partOf_zero (proper : 2 ≤ base) (index : Nat) : partOf base 0 index = 0 := by
  obtain ⟨nonneg, below⟩ := radicalInverse_mem proper index
  rw [partOf_eq_iff proper, pow_zero, Nat.cast_zero, zero_div, zero_add, div_one]
  exact ⟨nonneg, below⟩

theorem partOf_lt (proper : 2 ≤ base) (depth index : Nat) :
    partOf base depth index < base ^ depth := by
  have parts : (0 : ℝ) < (base : ℝ) ^ depth := pow_pos (base_pos proper) depth
  obtain ⟨nonneg, below⟩ := radicalInverse_mem proper index
  rw [partOf, Nat.floor_lt (mul_nonneg nonneg parts.le), Nat.cast_pow]
  exact mul_lt_of_lt_one_left parts below

/-- The lowest digit tells the part of the coarsest division, and the other digits the place
in it. -/
theorem partOf_succ (proper : 2 ≤ base) (depth index : Nat) :
    partOf base (depth + 1) index =
      partOf base depth (index / base) + base ^ depth * (index % base) := by
  have nonzero := (base_pos proper).ne'
  have parts : (0 : ℝ) < (base : ℝ) ^ depth := pow_pos (base_pos proper) depth
  obtain ⟨nonneg, _⟩ := radicalInverse_mem proper (index / base)
  have scaled :
      (radicalInverse base index : ℝ) * (base : ℝ) ^ (depth + 1) =
        radicalInverse base (index / base) * (base : ℝ) ^ depth +
          ((base ^ depth * (index % base) : Nat) : ℝ) := by
    rw [radicalInverse_step proper, pow_succ]
    push_cast
    field_simp
    ring
  rw [partOf, scaled, Nat.floor_add_natCast (mul_nonneg nonneg parts.le), partOf]

theorem partOf_succ_eq_iff (proper : 2 ≤ base) (depth index part : Nat) :
    partOf base (depth + 1) index = part ↔
      part / base ^ depth = index % base ∧
        part % base ^ depth = partOf base depth (index / base) := by
  have parts : 0 < base ^ depth := Nat.pow_pos (Nat.zero_lt_of_lt proper)
  rw [Nat.div_mod_unique parts, partOf_succ proper]
  exact (and_iff_left (partOf_lt proper depth (index / base))).symm

/-- Each part has one index of a block. -/
theorem existsUnique_partOf (proper : 2 ≤ base) (block : Nat) {depth part : Nat}
    (bound : part < base ^ depth) :
    ∃! index, index / base ^ depth = block ∧ partOf base depth index = part := by
  -- The lowest digit is known from the part, and the quotient has the rest of the part.
  induction depth generalizing part with
  | zero =>
      rw [pow_zero, Nat.lt_one_iff] at bound
      refine ⟨block, ⟨by rw [pow_zero, Nat.div_one], ?_⟩, ?_⟩
      · rw [partOf_zero proper, bound]
      · rintro index ⟨same, _⟩
        rwa [pow_zero, Nat.div_one] at same
  | succ depth inductionHypothesis =>
      have positive : 0 < base := Nat.zero_lt_of_lt proper
      have digit : part / base ^ depth < base := by
        rwa [Nat.div_lt_iff_lt_mul (Nat.pow_pos positive), Nat.mul_comm, ← Nat.pow_succ]
      have quotients : ∀ index : Nat,
          index / base ^ (depth + 1) = index / base / base ^ depth := by
        intro index
        rw [Nat.div_div_eq_div_mul, ← Nat.pow_succ']
      obtain ⟨quotient, ⟨inBlock, inPart⟩, unique⟩ :=
        inductionHypothesis (Nat.mod_lt part (Nat.pow_pos positive))
      have parts : (base * quotient + part / base ^ depth) / base = quotient ∧
          (base * quotient + part / base ^ depth) % base = part / base ^ depth := by
        rw [Nat.div_mod_unique positive]
        exact ⟨Nat.add_comm _ _, digit⟩
      refine ⟨base * quotient + part / base ^ depth, ⟨?_, ?_⟩, ?_⟩
      · rw [quotients, parts.1, inBlock]
      · rw [partOf_succ_eq_iff proper, parts.1, parts.2]
        exact ⟨rfl, inPart.symm⟩
      · rintro index ⟨indexInBlock, indexInPart⟩
        obtain ⟨lowest, others⟩ := (partOf_succ_eq_iff proper depth index part).1 indexInPart
        rw [quotients] at indexInBlock
        rw [← unique _ ⟨indexInBlock, others.symm⟩, lowest, Nat.div_add_mod]

theorem mem_block_iff (proper : 2 ≤ base) (depth block index : Nat) :
    index ∈ Set.Ico (block * base ^ depth) ((block + 1) * base ^ depth) ↔
      index / base ^ depth = block := by
  have positive : 0 < base ^ depth := Nat.pow_pos (Nat.zero_lt_of_lt proper)
  rw [Nat.div_eq_iff positive, Set.mem_Ico, Nat.succ_mul]
  omega

theorem radicalInverse_injective (proper : 2 ≤ base) :
    Function.Injective (radicalInverse base : Nat → ℝ) := by
  intro first second same
  -- The first block of some size has both of them, and they lie in the same part.
  have large := Nat.lt_pow_self (n := first + second) proper
  have samePart :
      partOf base (first + second) first = partOf base (first + second) second := by
    rw [partOf, same, partOf]
  obtain ⟨_, _, unique⟩ :=
    existsUnique_partOf proper 0 (partOf_lt proper (first + second) second)
  rw [unique first ⟨Nat.div_eq_of_lt (by omega), samePart⟩,
    unique second ⟨Nat.div_eq_of_lt (by omega), rfl⟩]

/-- To a base of at least two the loop over the digits of an index comes to an end, and the
radical inverse is the number that has them behind the point, the lowest one first. It is at
least zero and below one, and no two indices have the same. Where the unit interval has as many
parts of one length as a power of the base says, each index lies in one of them, and of as many
indices in a row, from a multiple of their number on, each part has exactly one. -/
theorem radicalInverse_stratified (proper : 2 ≤ base) :
    (∀ (K : Type) [Scalar K] (inverse : K), Loop.Ends (Reflection.turn base inverse)) ∧
    (∀ index,
      let digits := Nat.digits base index
      (radicalInverse base index : ℝ) =
        ∑ place ∈ Finset.range digits.length,
          (digits.getD place 0 : ℝ) / (base : ℝ) ^ (place + 1) ∧
      0 ≤ (radicalInverse base index : ℝ) ∧ (radicalInverse base index : ℝ) < 1) ∧
    Function.Injective (radicalInverse base : Nat → ℝ) ∧
    ∀ depth,
      let parts := base ^ depth
      let interval (part : Nat) : Set ℝ :=
        Set.Ico ((part : ℝ) / (parts : ℝ)) (((part : ℝ) + 1) / (parts : ℝ))
      (∀ index, ∃! part, part < parts ∧ radicalInverse base index ∈ interval part) ∧
      ∀ block, ∀ part < parts,
        ∃! index,
          index ∈ Set.Ico (block * parts) ((block + 1) * parts) ∧
            radicalInverse base index ∈ interval part := by
  refine ⟨fun K _ => Reflection.ends proper, fun index => ?_, radicalInverse_injective proper,
    fun depth => ?_⟩
  · exact ⟨radicalInverse_eq proper index, radicalInverse_mem proper index⟩
  · intro parts interval
    have inInterval : ∀ index part,
        radicalInverse base index ∈ interval part ↔ partOf base depth index = part := by
      intro index part
      rw [partOf_eq_iff proper, ← Nat.cast_pow, Set.mem_Ico]
    refine ⟨fun index => ?_, fun block part bound => ?_⟩
    · refine ⟨partOf base depth index, ⟨partOf_lt proper depth index, ?_⟩, ?_⟩
      · rw [inInterval]
      · rintro part ⟨_, inside⟩
        rw [← (inInterval index part).1 inside]
    · have inBlock := mem_block_iff proper depth block
      simp only [inInterval, parts, inBlock]
      exact existsUnique_partOf proper block bound

/-- The radical inverse of five to base three, and the second nine indices. -/
theorem radicalInverse_stratified_base_three :
    2 ≤ 3 ∧
      radicalInverse 3 5 = (7 / 9 : ℝ) ∧
      ∃! index,
        index ∈ Set.Ico (1 * 3 ^ 2) ((1 + 1) * 3 ^ 2) ∧
          (radicalInverse 3 index : ℝ) ∈
            Set.Ico (((4 : Nat) : ℝ) / ((3 ^ 2 : Nat) : ℝ))
              ((((4 : Nat) : ℝ) + 1) / ((3 ^ 2 : Nat) : ℝ)) := by
  have proper : 2 ≤ 3 := by decide
  obtain ⟨_, digits, _, strata⟩ := radicalInverse_stratified proper
  refine ⟨proper, ?_, (strata 2).2 1 4 (by decide)⟩
  obtain ⟨value, _⟩ := digits 5
  rw [value]
  norm_num [Finset.sum_range_succ]

end Base

end BatchBayes
