import Mathlib
import BatchBayes.Proofs.Exact
import BatchBayes.Space.Features
/-!
Blocks with a single one. They are the blocks that a choice accepts, and their
largest coordinate is the one.
-/

namespace BatchBayes

section Shape

variable {K : Type} [Scalar K]

theorem oneHot_succ_zero (width : Nat) :
    (oneHot (width + 1) 0 : List K) = 1 :: List.replicate width 0 := by
  rw [oneHot, List.range_succ_eq_map]
  simp [Function.comp_def, List.map_const']

theorem oneHot_succ_succ (width index : Nat) :
    (oneHot (width + 1) (index + 1) : List K) = 0 :: oneHot width index := by
  rw [oneHot, oneHot, List.range_succ_eq_map]
  simp [Function.comp_def]

end Shape

/-- A block of zeros and a single one has the one somewhere. -/
theorem exists_oneHot {block : List ℝ} (binary : ∀ value ∈ block, value = 0 ∨ value = 1)
    (single : block.countP (· == 1) = 1) :
    ∃ index < block.length, block = oneHot block.length index := by
  -- Behind a zero stands a shorter block of this kind, behind a one stand zeros.
  induction block with
  | nil => cases single
  | cons value block inductionHypothesis =>
      have rest : ∀ other ∈ block, other = 0 ∨ other = 1 := by
        intro other member
        exact binary other (List.mem_cons_of_mem value member)
      rw [List.countP_cons] at single
      rcases binary value List.mem_cons_self with rfl | rfl
      · have later : block.countP (· == 1) = 1 := by simpa using single
        obtain ⟨index, below, same⟩ := inductionHypothesis rest later
        refine ⟨index + 1, Nat.succ_lt_succ below, ?_⟩
        rw [List.length_cons, oneHot_succ_succ, ← same]
      · have none : block.countP (· == 1) = 0 := by simpa using single
        have zeros : block = List.replicate block.length 0 := by
          rw [List.eq_replicate_iff]
          refine ⟨rfl, fun other member => ?_⟩
          rw [List.countP_eq_zero] at none
          exact (rest other member).resolve_right (by simpa using none other member)
        refine ⟨0, Nat.succ_pos _, ?_⟩
        rw [List.length_cons, oneHot_succ_zero, ← zeros]

theorem binary_oneHot (width index : Nat) :
    ∀ value ∈ (oneHot width index : List ℝ), value = 0 ∨ value = 1 := by
  intro value member
  obtain ⟨place, _, rfl⟩ := List.mem_map.1 member
  by_cases same : place = index
  · exact .inr (if_pos same)
  · exact .inl (if_neg same)

theorem countP_oneHot {width index : Nat} (below : index < width) :
    (oneHot width index : List ℝ).countP (· == 1) = 1 := by
  induction width generalizing index with
  | zero => exact absurd below (Nat.not_lt_zero index)
  | succ width inductionHypothesis =>
      cases index with
      | zero =>
          rw [oneHot_succ_zero, List.countP_cons]
          simp [List.countP_replicate]
      | succ index =>
          rw [oneHot_succ_succ, List.countP_cons,
            inductionHypothesis (Nat.lt_of_succ_lt_succ below)]
          simp

/-! ## The largest coordinate -/

/-- Values that are not above the best one so far leave it the best. -/
theorem foldl_largestStep_of_le {values : List ℝ} {best index : Nat} {bestValue : ℝ}
    (atMost : ∀ value ∈ values, value ≤ bestValue) :
    (values.foldl largestStep (best, bestValue, index)).1 = best := by
  induction values generalizing index with
  | nil => rfl
  | cons value values inductionHypothesis =>
      rw [List.foldl_cons, largestStep,
        if_neg (atMost value List.mem_cons_self).not_gt]
      exact inductionHypothesis fun other member =>
        atMost other (List.mem_cons_of_mem value member)

theorem foldl_largestStep_oneHot {width index : Nat} (below : index < width)
    (best start : Nat) :
    ((oneHot width index : List ℝ).foldl largestStep (best, 0, start)).1 =
      start + index := by
  induction width generalizing index best start with
  | zero => exact absurd below (Nat.not_lt_zero index)
  | succ width inductionHypothesis =>
      cases index with
      | zero =>
          rw [oneHot_succ_zero, List.foldl_cons, largestStep, if_pos one_pos]
          apply foldl_largestStep_of_le
          intro value member
          rw [List.eq_of_mem_replicate member]
          exact zero_le_one
      | succ index =>
          rw [oneHot_succ_succ, List.foldl_cons, largestStep, if_neg (lt_irrefl 0),
            inductionHypothesis (Nat.lt_of_succ_lt_succ below)]
          omega

theorem indexOfLargest_oneHot {width index : Nat} (below : index < width) :
    indexOfLargest (oneHot width index : List ℝ) = index := by
  cases width with
  | zero => exact absurd below (Nat.not_lt_zero index)
  | succ width =>
      cases index with
      | zero =>
          rw [oneHot_succ_zero, indexOfLargest]
          apply foldl_largestStep_of_le
          intro value member
          rw [List.eq_of_mem_replicate member]
          exact zero_le_one
      | succ index =>
          rw [oneHot_succ_succ, indexOfLargest,
            foldl_largestStep_oneHot (Nat.lt_of_succ_lt_succ below), Nat.add_comm]

end BatchBayes
