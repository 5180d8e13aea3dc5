import BatchBayes.Proofs.Table
import BatchBayes.Study.Ledger
/-!
The books of a study. Completed trials are kept under their own ids, so that they
are listed by increasing id, and just the ids that were not known are counted.
-/

namespace BatchBayes

theorem mem_entries_insert {Key Item : Type} [Ord Key] [Std.TransOrd Key]
    [Std.LawfulEqOrd Key] {table : Table Key Item} {key : Key} {item : Item}
    {entry : Key × Item} (member : entry ∈ (table.insert key item).entries) :
    entry = (key, item) ∨ entry ∈ table.entries :=
  mem_insertEntry member

namespace Ledger

variable {K : Type} [Scalar K]

/-- Every completed trial is kept under its own id. -/
def Keyed (ledger : Ledger K) : Prop :=
  ∀ entry ∈ ledger.completed.entries, entry.2.id = entry.1

omit [Scalar K] in
theorem keyed_empty : (empty : Ledger K).Keyed := by
  intro entry member
  cases member

theorem Keyed.enter {ledger : Ledger K} (keyed : ledger.Keyed) (metric : Metric K)
    (added : Nat) (trial : Trial K) :
    (Ledger.enter metric (added, ledger) trial).2.Keyed := by
  rw [Ledger.enter]
  by_cases known : ledger.completed.contains trial.id
  · rw [if_pos known]
    exact keyed
  · rw [if_neg known]
    intro entry member
    rcases mem_entries_insert member with new | old
    · rw [new]
    · exact keyed entry old

theorem Keyed.foldl_enter {state : Nat × Ledger K} (keyed : state.2.Keyed)
    (metric : Metric K) (trials : List (Trial K)) :
    (trials.foldl (Ledger.enter metric) state).2.Keyed := by
  induction trials generalizing state with
  | nil => exact keyed
  | cons trial trials inductionHypothesis =>
      exact inductionHypothesis (keyed.enter metric state.1 trial)

theorem Keyed.record {ledger next : Ledger K} (keyed : ledger.Keyed)
    {metric : Metric K} {completed active : List (Trial K)} {added : Nat}
    (success : ledger.record metric completed active = .ok (added, next)) :
    next.Keyed := by
  rw [Ledger.record] at success
  split at success
  case h_1 => cases success
  case h_2 =>
      cases success
      exact keyed.foldl_enter metric completed

omit [Scalar K] in
/-- Completed trials are listed by increasing id. -/
theorem Keyed.pairwise_id_lt {ledger : Ledger K} (keyed : ledger.Keyed) :
    ledger.completed.items.Pairwise fun first second => first.id < second.id := by
  rw [Table.items, List.pairwise_map]
  refine ledger.completed.sorted.imp_of_mem fun {first second} inFirst inSecond below => ?_
  rw [keyed first inFirst, keyed second inSecond]
  exact Std.compare_eq_lt.1 below

/-! ## Deliveries -/

section Record

variable {metric : Metric K} {ledger : Ledger K} {completed active : List (Trial K)}

theorem record_of_completed (finished : ∀ trial ∈ completed, trial.isCompleted = true) :
    ledger.record metric completed active =
      .ok ((completed.foldl (enter metric) (0, ledger)).1,
        { (completed.foldl (enter metric) (0, ledger)).2 with active }) := by
  have none : completed.find? (fun trial => !trial.isCompleted) = none := by
    rw [List.find?_eq_none]
    intro trial member
    rw [finished trial member]
    decide
  rw [record, none]

theorem record_of_unfinished {trial : Trial K} (member : trial ∈ completed)
    (unfinished : trial.isCompleted = false) :
    ∃ id message,
      ledger.record metric completed active = .error (.invalidTrial id message) := by
  rw [record]
  cases found : completed.find? (fun trial => !trial.isCompleted) with
  | some first => exact ⟨_, _, rfl⟩
  | none =>
      rw [List.find?_eq_none] at found
      have finished := found trial member
      rw [unfinished] at finished
      exact absurd rfl finished

/-- A delivery is refused where a trial passed as completed has not completed; else
its trials are entered one by one. -/
theorem record_cases (metric : Metric K) (ledger : Ledger K)
    (completed active : List (Trial K)) :
    (∃ trial ∈ completed, trial.isCompleted = false) ∧
        (∃ id message,
          ledger.record metric completed active =
            .error (.invalidTrial id message)) ∨
      (∀ trial ∈ completed, trial.isCompleted = true) ∧
        ledger.record metric completed active =
          .ok ((completed.foldl (enter metric) (0, ledger)).1,
            { (completed.foldl (enter metric) (0, ledger)).2 with active }) := by
  by_cases finished : ∀ trial ∈ completed, trial.isCompleted = true
  · exact .inr ⟨finished, record_of_completed finished⟩
  · rw [not_forall] at finished
    obtain ⟨trial, unfinished⟩ := finished
    rw [Classical.not_imp, Bool.not_eq_true] at unfinished
    exact .inl ⟨⟨trial, unfinished⟩, record_of_unfinished unfinished.1 unfinished.2⟩

theorem invalidTrial_of_record {failure : Failure}
    (refused : ledger.record metric completed active = .error failure) :
    ∃ id message, failure = .invalidTrial id message := by
  rcases record_cases metric ledger completed active with
    ⟨_, id, message, same⟩ | ⟨_, same⟩
  · rw [same] at refused
    exact ⟨id, message, (Except.error.inj refused).symm⟩
  · rw [same] at refused
    cases refused

end Record

/-! ## Entering trials -/

section Enter

variable (metric : Metric K) (state : Nat × Ledger K)

theorem enter_of_known {trial : Trial K}
    (known : state.2.completed.contains trial.id = true) :
    enter metric state trial = state := by
  rw [enter]
  exact if_pos known

theorem numCompleted_enter {trial : Trial K}
    (new : state.2.completed.contains trial.id = false) :
    (enter metric state trial).2.numCompleted = state.2.numCompleted + 1 := by
  rw [enter, if_neg (by simp [new])]
  exact Table.size_insert new trial

theorem contains_enter (trial : Trial K) (id : UInt64) :
    (enter metric state trial).2.completed.contains id = true ↔
      state.2.completed.contains id = true ∨ id = trial.id := by
  by_cases known : state.2.completed.contains trial.id = true
  · rw [enter_of_known metric state known]
    refine ⟨.inl, ?_⟩
    rintro (old | rfl)
    · exact old
    · exact known
  · rw [enter, if_neg known, Table.contains_insert, or_comm]

theorem mem_items_enter {trial item : Trial K}
    (member : item ∈ (enter metric state trial).2.completed.items) :
    item ∈ state.2.completed.items ∨ item = trial := by
  by_cases known : state.2.completed.contains trial.id = true
  · rw [enter_of_known metric state known] at member
    exact .inl member
  · rw [enter, if_neg known] at member
    obtain ⟨entry, inEntries, rfl⟩ := List.mem_map.1 member
    rcases mem_entries_insert inEntries with rfl | old
    · exact .inr rfl
    · exact .inl (List.mem_map_of_mem old)

theorem seen_enter (trial : Trial K) :
    (enter metric state trial).2.seen = state.2.seen := by
  rw [enter]
  split <;> rfl

/-- The first delivery of an id counts. -/
theorem find?_enter (trial : Trial K) (id : UInt64) :
    (enter metric state trial).2.completed.find? id =
      (state.2.completed.find? id).or
        (if trial.id == id then some trial else none) := by
  by_cases known : state.2.completed.contains trial.id = true
  · rw [enter_of_known metric state known]
    by_cases same : trial.id = id
    · rw [same, Table.contains, Option.isSome_iff_exists] at known
      obtain ⟨item, found⟩ := known
      rw [found]
      rfl
    · rw [if_neg (by simpa using same), Option.or_none]
  · rw [enter, if_neg known]
    by_cases same : trial.id = id
    · rw [same, Table.contains, Option.not_isSome_iff_eq_none] at known
      rw [same, Table.find?_insert_self, known, if_pos (by simp), Option.none_or]
    · rw [Table.find?_insert_of_ne _ (Ne.symm same), if_neg (by simpa using same),
        Option.or_none]

theorem find?_foldl_enter (trials : List (Trial K)) (id : UInt64) :
    (trials.foldl (enter metric) state).2.completed.find? id =
      (state.2.completed.find? id).or (trials.find? (·.id == id)) := by
  induction trials generalizing state with
  | nil => exact Option.or_none.symm
  | cons trial trials inductionHypothesis =>
      rw [List.foldl_cons, inductionHypothesis, find?_enter, Option.or_assoc,
        List.find?_cons]
      cases trial.id == id with
      | true => rfl
      | false => rfl

theorem contains_foldl_enter (trials : List (Trial K)) (id : UInt64) :
    (trials.foldl (enter metric) state).2.completed.contains id = true ↔
      state.2.completed.contains id = true ∨ id ∈ trials.map (·.id) := by
  induction trials generalizing state with
  | nil => simp
  | cons trial trials inductionHypothesis =>
      rw [List.foldl_cons, inductionHypothesis, contains_enter, List.map_cons,
        List.mem_cons, or_assoc]

theorem mem_items_foldl_enter {trials : List (Trial K)} {item : Trial K}
    (member : item ∈ (trials.foldl (enter metric) state).2.completed.items) :
    item ∈ state.2.completed.items ∨ item ∈ trials := by
  induction trials generalizing state with
  | nil => exact .inl member
  | cons trial trials inductionHypothesis =>
      rcases inductionHypothesis (enter metric state trial) member with old | later
      · rcases mem_items_enter metric state old with known | rfl
        · exact .inl known
        · exact .inr List.mem_cons_self
      · exact .inr (List.mem_cons_of_mem _ later)

theorem seen_foldl_enter (trials : List (Trial K)) :
    (trials.foldl (enter metric) state).2.seen = state.2.seen := by
  induction trials generalizing state with
  | nil => rfl
  | cons trial trials inductionHypothesis =>
      rw [List.foldl_cons, inductionHypothesis, seen_enter]

theorem numCompleted_le_foldl_enter (trials : List (Trial K)) :
    state.2.numCompleted ≤ (trials.foldl (enter metric) state).2.numCompleted := by
  induction trials generalizing state with
  | nil => exact Nat.le_refl _
  | cons trial trials inductionHypothesis =>
      have later := inductionHypothesis (enter metric state trial)
      rw [List.foldl_cons]
      cases known : state.2.completed.contains trial.id with
      | true =>
          rw [enter_of_known metric state known] at later ⊢
          exact later
      | false =>
          rw [numCompleted_enter metric state known] at later
          omega

/-- The books grow just where an id was not known. -/
theorem numCompleted_lt_foldl_enter_iff (trials : List (Trial K)) :
    state.2.numCompleted < (trials.foldl (enter metric) state).2.numCompleted ↔
      ∃ id ∈ trials.map (·.id), state.2.completed.contains id = false := by
  induction trials generalizing state with
  | nil => simp
  | cons trial trials inductionHypothesis =>
      rw [List.foldl_cons]
      cases known : state.2.completed.contains trial.id with
      | true =>
          rw [enter_of_known metric state known, inductionHypothesis]
          simp [known]
      | false =>
          have grown :=
            numCompleted_le_foldl_enter metric (enter metric state trial) trials
          rw [numCompleted_enter metric state known] at grown
          refine ⟨fun _ => ⟨trial.id, List.mem_cons_self, known⟩, fun _ => ?_⟩
          omega

end Enter

/-- The books with more ids: they have grown just where one of the ids is new. -/
structure Grown (ledger next : Ledger K) (ids : List UInt64) : Prop where
  contains : ∀ id,
    next.completed.contains id = true ↔
      ledger.completed.contains id = true ∨ id ∈ ids
  seen : next.seen = ledger.seen
  grows : ledger.numCompleted ≤ next.numCompleted
  new :
    ledger.numCompleted < next.numCompleted ↔
      ∃ id ∈ ids, ledger.completed.contains id = false

omit [Scalar K] in
theorem Grown.refl (ledger : Ledger K) : Grown ledger ledger [] := by
  refine ⟨fun id => ?_, rfl, Nat.le_refl _, ?_⟩
  · simp
  · simp

/-- The books after a delivery. -/
structure Entered (ledger next : Ledger K) (completed active : List (Trial K)) :
    Prop extends Grown ledger next (completed.map (·.id)) where
  items : ∀ item ∈ next.completed.items,
    item ∈ ledger.completed.items ∨ item ∈ completed
  active : next.active = active

theorem entered_of_record {metric : Metric K} {ledger next : Ledger K}
    {completed active : List (Trial K)} {added : Nat}
    (success : ledger.record metric completed active = .ok (added, next)) :
    Entered ledger next completed active := by
  rw [record] at success
  split at success
  case h_1 => cases success
  case h_2 =>
      cases success
      have grown :
          Grown ledger (completed.foldl (enter metric) (0, ledger)).2
            (completed.map (·.id)) :=
        ⟨contains_foldl_enter metric (0, ledger) completed,
          seen_foldl_enter metric (0, ledger) completed,
          numCompleted_le_foldl_enter metric (0, ledger) completed,
          numCompleted_lt_foldl_enter_iff metric (0, ledger) completed⟩
      exact ⟨⟨grown.contains, grown.seen, grown.grows, grown.new⟩,
        fun item => mem_items_foldl_enter metric (0, ledger), rfl⟩

theorem foldl_enter_of_known (metric : Metric K) (state : Nat × Ledger K)
    {trials : List (Trial K)}
    (known : ∀ trial ∈ trials, state.2.completed.contains trial.id = true) :
    trials.foldl (enter metric) state = state := by
  induction trials with
  | nil => rfl
  | cons trial trials inductionHypothesis =>
      rw [List.foldl_cons,
        enter_of_known metric state (known trial List.mem_cons_self)]
      exact inductionHypothesis fun later member =>
        known later (List.mem_cons_of_mem _ member)

/-- A delivery that is repeated enters nothing. -/
theorem record_again {metric : Metric K} {ledger next : Ledger K}
    {completed active : List (Trial K)} {added : Nat}
    (success : ledger.record metric completed active = .ok (added, next)) :
    next.record metric completed active = .ok (0, next) := by
  have entered := entered_of_record success
  rcases record_cases metric ledger completed active with
    ⟨_, _, _, refused⟩ | ⟨finished, _⟩
  · rw [refused] at success
    cases success
  · have known : ∀ trial ∈ completed, next.completed.contains trial.id = true := by
      intro trial member
      exact (entered.contains trial.id).2 (.inr (List.mem_map_of_mem member))
    rw [record_of_completed finished, foldl_enter_of_known metric (0, next) known,
      ← entered.active]

end Ledger

end BatchBayes
