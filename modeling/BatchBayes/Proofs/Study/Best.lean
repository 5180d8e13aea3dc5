import BatchBayes.Proofs.Order
import BatchBayes.Proofs.Study.Ledger
/-!
The best trial of the books. It is missing where no completed trial has a usable
objective; else it has one, and no completed trial has a better one. Books with the same
completed trials thus have equal best values, whatever trial reached them.
-/

namespace BatchBayes

namespace Ledger

variable {K : Type} [Scalar K]

/-! ## Better values -/

section Improves

variable [OrderedScalar K] (goal : Goal)

theorem improves_self (value : K) : improves goal value value = false := by
  cases goal with
  | maximize => exact decide_eq_false (OrderedScalar.lt_irrefl value)
  | minimize => exact decide_eq_false (OrderedScalar.lt_irrefl value)

theorem improves_trans {first second third : K}
    (left : improves goal first second = true)
    (right : improves goal second third = true) : improves goal first third = true := by
  cases goal with
  | maximize =>
      exact decide_eq_true
        (OrderedScalar.lt_trans (of_decide_eq_true right) (of_decide_eq_true left))
  | minimize =>
      exact decide_eq_true
        (OrderedScalar.lt_trans (of_decide_eq_true left) (of_decide_eq_true right))

theorem beq_of_not_improves {first second : K}
    (firstFinite : Scalar.isFinite first = true)
    (secondFinite : Scalar.isFinite second = true)
    (left : improves goal first second = false)
    (right : improves goal second first = false) : (first == second) = true := by
  cases goal with
  | maximize =>
      exact OrderedScalar.beq_of_not_lt firstFinite secondFinite
        (of_decide_eq_false right) (of_decide_eq_false left)
  | minimize =>
      exact OrderedScalar.beq_of_not_lt firstFinite secondFinite
        (of_decide_eq_false left) (of_decide_eq_false right)

end Improves

theorem betterOf_of_unusable {metric : Metric K} {trial : Trial K}
    (unusable : trial.usableObjective? metric.name = none)
    (best : Option (UInt64 × K)) : betterOf metric best trial = best := by
  unfold betterOf
  rw [unusable]

theorem betterOf_none {metric : Metric K} {trial : Trial K} {value : K}
    (usable : trial.usableObjective? metric.name = some value) :
    betterOf metric none trial = some (trial.id, value) := by
  unfold betterOf
  rw [usable]

theorem betterOf_some {metric : Metric K} {trial : Trial K} {value : K}
    (usable : trial.usableObjective? metric.name = some value) (id : UInt64) (best : K) :
    betterOf metric (some (id, best)) trial =
      if improves metric.goal value best then some (trial.id, value)
      else some (id, best) := by
  unfold betterOf
  rw [usable]

/-! ## The best of the completed trials -/

/-- The trial of that id has that usable objective, and no other trial has a better
one. -/
structure Crowns (metric : Metric K) (completed : Table UInt64 (Trial K))
    (id : UInt64) (value : K) : Prop where
  reached : ∃ trial,
    completed.find? id = some trial ∧
      trial.usableObjective? metric.name = some value
  unbeaten : ∀ trial ∈ completed.items, ∀ other,
    trial.usableObjective? metric.name = some other →
      improves metric.goal other value = false

/-- The best entry of the books is the best of the completed trials. -/
def Crowned (metric : Metric K) (ledger : Ledger K) : Prop :=
  match ledger.best with
  | none => ∀ trial ∈ ledger.completed.items,
      trial.usableObjective? metric.name = none
  | some (id, value) => Crowns metric ledger.completed id value

theorem crowned_empty (metric : Metric K) : (empty : Ledger K).Crowned metric := by
  intro trial member
  cases member

section Insert

variable {metric : Metric K} {completed : Table UInt64 (Trial K)} {trial : Trial K}

omit [Scalar K] in
theorem mem_items_insert {item : Trial K}
    (member : item ∈ (completed.insert trial.id trial).items) :
    item ∈ completed.items ∨ item = trial := by
  obtain ⟨entry, inEntries, rfl⟩ := List.mem_map.1 member
  rcases mem_entries_insert inEntries with rfl | old
  · exact .inr rfl
  · exact .inl (List.mem_map_of_mem old)

/-- A value that the new trial does not beat stays the best. -/
theorem Crowns.insert {id : UInt64} {value : K}
    (crowns : Crowns metric completed id value)
    (new : completed.contains trial.id = false)
    (beaten : ∀ other, trial.usableObjective? metric.name = some other →
      improves metric.goal other value = false) :
    Crowns metric (completed.insert trial.id trial) id value := by
  obtain ⟨holder, found, reached⟩ := crowns.reached
  have other : id ≠ trial.id := by
    rintro rfl
    rw [Table.contains, found] at new
    cases new
  refine ⟨⟨holder, ?_, reached⟩, fun item member => ?_⟩
  · rw [Table.find?_insert_of_ne _ other, found]
  · rcases mem_items_insert member with old | rfl
    · exact crowns.unbeaten item old
    · exact beaten

/-- A new trial that no other beats is the best. -/
theorem crowns_insert_self [OrderedScalar K] {value : K}
    (usable : trial.usableObjective? metric.name = some value)
    (unbeaten : ∀ item ∈ completed.items, ∀ other,
      item.usableObjective? metric.name = some other →
        improves metric.goal other value = false) :
    Crowns metric (completed.insert trial.id trial) trial.id value := by
  refine ⟨⟨trial, Table.find?_insert_self _ _ _, usable⟩, fun item member => ?_⟩
  rcases mem_items_insert member with old | rfl
  · exact unbeaten item old
  · intro other same
    rw [usable] at same
    obtain rfl := Option.some.inj same
    exact improves_self metric.goal value

end Insert

variable [OrderedScalar K] {metric : Metric K} {ledger : Ledger K}

theorem Crowned.enter (crowned : ledger.Crowned metric) (added : Nat)
    (trial : Trial K) :
    (Ledger.enter metric (added, ledger) trial).2.Crowned metric := by
  cases known : ledger.completed.contains trial.id with
  | true =>
      rw [enter_of_known metric (added, ledger) known]
      exact crowned
  | false =>
      rw [Ledger.enter, if_neg (by simp [known])]
      rw [Crowned] at crowned ⊢
      dsimp only
      cases usable : trial.usableObjective? metric.name with
      | none =>
          rw [betterOf_of_unusable usable]
          cases best : ledger.best with
          | none =>
              rw [best] at crowned
              intro item member
              rcases mem_items_insert member with old | rfl
              · exact crowned item old
              · exact usable
          | some entry =>
              rw [best] at crowned
              refine crowned.insert known fun other same => ?_
              rw [usable] at same
              cases same
      | some value =>
          cases best : ledger.best with
          | none =>
              rw [best] at crowned
              rw [betterOf_none usable]
              refine crowns_insert_self usable fun item member other same => ?_
              rw [crowned item member] at same
              cases same
          | some entry =>
              rw [best] at crowned
              rw [betterOf_some usable]
              cases better : improves metric.goal value entry.2 with
              | true =>
                  -- What beats the new value would have beaten the one before it.
                  refine crowns_insert_self usable fun item member other same => ?_
                  cases beaten : improves metric.goal other value with
                  | false => rfl
                  | true =>
                      have above := improves_trans metric.goal beaten better
                      rw [crowned.unbeaten item member other same] at above
                      cases above
              | false =>
                  refine crowned.insert known fun other same => ?_
                  rw [usable] at same
                  obtain rfl := Option.some.inj same
                  exact better

theorem Crowned.foldl_enter {state : Nat × Ledger K}
    (crowned : state.2.Crowned metric) (trials : List (Trial K)) :
    (trials.foldl (Ledger.enter metric) state).2.Crowned metric := by
  induction trials generalizing state with
  | nil => exact crowned
  | cons trial trials inductionHypothesis =>
      exact inductionHypothesis (crowned.enter state.1 trial)

theorem Crowned.record (crowned : ledger.Crowned metric)
    {completed active : List (Trial K)} {added : Nat} {next : Ledger K}
    (success : ledger.record metric completed active = .ok (added, next)) :
    next.Crowned metric := by
  rcases record_cases metric ledger completed active with
    ⟨_, _, _, refused⟩ | ⟨_, recorded⟩
  · rw [refused] at success
    cases success
  · rw [recorded] at success
    cases success
    have entered : (completed.foldl (Ledger.enter metric) (0, ledger)).2.Crowned metric :=
      Crowned.foldl_enter crowned completed
    exact entered

omit [OrderedScalar K] in
theorem Crowned.markSeen (crowned : ledger.Crowned metric) :
    ledger.markSeen.Crowned metric := crowned

/-- The objective of the best trial. -/
def bestObjective? (metric : Metric K) (ledger : Ledger K) : Option K :=
  ledger.bestTrial?.bind (·.objective? metric.name)

omit [OrderedScalar K] in
theorem Crowned.bestObjective? (crowned : ledger.Crowned metric) :
    ledger.bestObjective? metric = ledger.best.map (·.2) := by
  rw [Ledger.bestObjective?, bestTrial?]
  rw [Crowned] at crowned
  cases best : ledger.best with
  | none => rfl
  | some entry =>
      rw [best] at crowned
      obtain ⟨holder, found, reached⟩ := crowned.reached
      rw [Trial.usableObjective?, Option.filter_eq_some_iff] at reached
      dsimp only [Option.bind_some, Option.map_some]
      rw [found]
      exact reached.1

omit [OrderedScalar K] in
theorem Crowns.exists_usable {completed : Table UInt64 (Trial K)} {id : UInt64}
    {value : K} (crowns : Crowns metric completed id value) :
    Scalar.isFinite value = true ∧
      ∃ trial ∈ completed.items, trial.usableObjective? metric.name = some value := by
  obtain ⟨trial, found, usable⟩ := crowns.reached
  refine ⟨?_, trial, List.mem_map_of_mem (Table.mem_entries_of_find? found), usable⟩
  rw [Trial.usableObjective?, Option.filter_eq_some_iff] at usable
  exact usable.2

/-- Books with the same completed trials have equal best objectives. -/
theorem Crowned.rel_bestObjective? {other : Ledger K} (crowned : ledger.Crowned metric)
    (otherCrowned : other.Crowned metric) (same : other.completed = ledger.completed) :
    Option.Rel (fun first second => (first == second) = true)
      (ledger.bestObjective? metric) (other.bestObjective? metric) := by
  rw [crowned.bestObjective?, otherCrowned.bestObjective?]
  rw [Crowned] at crowned otherCrowned
  rw [same] at otherCrowned
  generalize ledger.best = best, other.best = otherBest at crowned otherCrowned ⊢
  rcases best with _ | ⟨id, value⟩ <;> rcases otherBest with _ | ⟨otherId, otherValue⟩
  case none.none => exact .none
  case none.some =>
      obtain ⟨_, trial, member, usable⟩ := Crowns.exists_usable otherCrowned
      rw [crowned trial member] at usable
      cases usable
  case some.none =>
      obtain ⟨_, trial, member, usable⟩ := Crowns.exists_usable crowned
      rw [otherCrowned trial member] at usable
      cases usable
  case some.some =>
      obtain ⟨finite, trial, member, usable⟩ := Crowns.exists_usable crowned
      obtain ⟨otherFinite, otherTrial, otherMember, otherUsable⟩ :=
        Crowns.exists_usable otherCrowned
      exact .some (beq_of_not_improves metric.goal finite otherFinite
        (otherCrowned.unbeaten trial member value usable)
        (crowned.unbeaten otherTrial otherMember otherValue otherUsable))

end Ledger

end BatchBayes
