import BatchBayes.Proofs.Batch.Filling
/-!
Batches of different sizes. The plan of a smaller batch begins that of a larger
one, and filling goes group by group, so that the larger batch begins with the
smaller one.
-/

namespace BatchBayes

/-! ## Plans -/

namespace Strategy

theorem explorationPlan_separate (count : Nat) :
    explorationPlan false count =
      List.replicate count (.single .exploration) := by
  cases count with
  | zero => rfl
  | succ count => rfl

theorem length_plan_separate (strategy : Strategy) (count : Nat) (fresh : Bool) :
    (strategy.plan count fresh false).length = count := by
  cases strategy with
  | allUpperBound => simp [plan]
  | allExploration => simp [plan, explorationPlan_separate]
  | interleaved =>
      cases count with
      | zero => simp [plan, explorationPlan_separate]
      | succ count => cases fresh <;> simp [plan, explorationPlan_separate]

/-- Without joint groups the plan of a larger batch begins with that of a smaller
one. -/
theorem plan_take (strategy : Strategy) (fresh : Bool) {few many : Nat}
    (fewer : few ≤ many) :
    (strategy.plan many fresh false).take few = strategy.plan few fresh false := by
  cases strategy with
  | allUpperBound => simp [plan, fewer]
  | allExploration => simp [plan, explorationPlan_separate, fewer]
  | interleaved =>
      cases few with
      | zero => simp [plan, explorationPlan_separate]
      | succ few =>
          cases many with
          | zero => omega
          | succ many =>
              have rest : few ≤ many := by omega
              cases fresh <;> simp [plan, explorationPlan_separate, rest]

/-- Without joint groups every group of a plan is a single slot. -/
theorem single_of_mem_plan {strategy : Strategy} {count : Nat} {fresh : Bool}
    {group : SlotGroup} (member : group ∈ strategy.plan count fresh false) :
    ∃ policy, group = .single policy := by
  cases strategy with
  | allUpperBound => exact ⟨_, List.eq_of_mem_replicate member⟩
  | allExploration =>
      rw [plan, explorationPlan_separate] at member
      exact ⟨_, List.eq_of_mem_replicate member⟩
  | interleaved =>
      rw [plan] at member
      split at member
      · rcases List.mem_cons.1 member with first | later
        · exact ⟨_, first⟩
        · rw [explorationPlan_separate] at later
          exact ⟨_, List.eq_of_mem_replicate later⟩
      · rw [explorationPlan_separate] at member
        exact ⟨_, List.eq_of_mem_replicate member⟩

end Strategy

/-! ## Filling -/

namespace Chooser

variable {K : Type} [Scalar K] {chooser : Chooser K} {ensemble last : Ensemble K}
  {slots : List (Slot K)}

/-- Filling more groups begins by filling the first ones. -/
theorem fillGroups_append_eq_ok {groups more : List (SlotGroup × Key)}
    (success : chooser.fillGroups ensemble (groups ++ more) = .ok (slots, last)) :
    ∃ first middle rest,
      chooser.fillGroups ensemble groups = .ok (first, middle) ∧
        slots = first ++ rest := by
  induction groups generalizing ensemble slots with
  | nil => exact ⟨[], ensemble, slots, rfl, rfl⟩
  | cons head groups inductionHypothesis =>
      obtain ⟨group, key⟩ := head
      rw [List.cons_append, fillGroups_cons_eq_ok] at success
      obtain ⟨chosen, middle, rest, choose, add, fill, rfl⟩ := success
      obtain ⟨first, final, remaining, filled, rfl⟩ := inductionHypothesis fill
      refine ⟨chosen ++ first, final, remaining, ?_, ?_⟩
      · exact fillGroups_cons_eq_ok.2
          ⟨chosen, middle, first, choose, add, filled, rfl⟩
      · rw [List.append_assoc]

theorem single_of_mem_zip_plan {strategy : Strategy} {count : Nat} {fresh : Bool}
    {keys : List Key} :
    ∀ entry ∈ (strategy.plan count fresh false).zip keys,
      ∃ policy, entry.1 = .single policy := by
  intro entry member
  exact Strategy.single_of_mem_plan (List.of_mem_zip member).1

/-- Without joint groups the slots of a smaller batch begin those of a larger
one. -/
theorem fill_take {strategy : Strategy} {fresh : Bool} {few many : Nat}
    (fewer : few ≤ many) {key : Key}
    (success :
      chooser.fill ensemble (strategy.plan many fresh false) key =
        .ok (slots, last)) :
    ∃ middle,
      chooser.fill ensemble (strategy.plan few fresh false) key =
        .ok (slots.take few, middle) := by
  have begins :
      ((strategy.plan many fresh false).zip (key.children many)).take few =
        (strategy.plan few fresh false).zip (key.children few) := by
    rw [List.zip_eq_zipWith, List.take_zipWith, strategy.plan_take fresh fewer,
      key.children_take fewer, List.zip_eq_zipWith]
  rw [fill, strategy.length_plan_separate, ← List.take_append_drop few
    ((strategy.plan many fresh false).zip (key.children many)), begins] at success
  obtain ⟨first, middle, rest, filled, rfl⟩ := fillGroups_append_eq_ok success
  have filledFew :
      chooser.fill ensemble (strategy.plan few fresh false) key =
        .ok (first, middle) := by
    rw [fill, strategy.length_plan_separate]
    exact filled
  refine ⟨middle, ?_⟩
  rw [filledFew, List.take_left' (length_fill filledFew)]

end Chooser

end BatchBayes
