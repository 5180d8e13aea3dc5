import BatchBayes.Proofs.Space.Values
import BatchBayes.Proofs.Table.Matching
import BatchBayes.Study.Labels
import BatchBayes.Study.Ledger
/-!
Two studies side by side. Where the trials of one stand for those of the other, books
that correspond entry by entry still do so after corresponding deliveries, and the
labels of both are the same.
-/

namespace BatchBayes

variable {K : Type} [Scalar K]

/-- Which trials of two studies stand for each other, and which best values do. -/
structure Correspondence (K : Type) where
  completed : Trial K → Trial K → Prop
  active : Trial K → Trial K → Prop
  best : Option (UInt64 × K) → Option (UInt64 × K) → Prop

namespace Correspondence

/-- Trials that stand for each other give a model the same features and labels, and
one more of them keeps the best values corresponding. -/
structure Faithful (correspondence : Correspondence K) (space : Space K)
    (metric other : Metric K) : Prop where
  id {first second : Trial K} :
    correspondence.completed first second → second.id = first.id
  isCompleted {first second : Trial K} :
    correspondence.completed first second → second.isCompleted = first.isCompleted
  values {first second : Trial K} :
    correspondence.completed first second →
      space.SameValues first.assignment second.assignment
  oriented {first second : Trial K} :
    correspondence.completed first second →
      Labels.oriented other second = Labels.oriented metric first
  activeValues {first second : Trial K} :
    correspondence.active first second →
      space.SameValues first.assignment second.assignment
  betterOf {best otherBest : Option (UInt64 × K)} {first second : Trial K} :
    correspondence.best best otherBest → correspondence.completed first second →
      correspondence.best (Ledger.betterOf metric best first)
        (Ledger.betterOf other otherBest second)

/-- Trials under way keep their ids, which the refusal of an update mentions. -/
def KeepsActiveIds (correspondence : Correspondence K) : Prop :=
  ∀ {first second : Trial K}, correspondence.active first second →
    second.id = first.id

/-- The best trials have the same id. -/
def KeepsBestId (correspondence : Correspondence K) : Prop :=
  ∀ {best other : Option (UInt64 × K)}, correspondence.best best other →
    other.map (·.1) = best.map (·.1)

/-- Books that correspond entry by entry. -/
structure Books (correspondence : Correspondence K) (first second : Ledger K) :
    Prop where
  completed :
    Table.Matching correspondence.completed first.completed second.completed
  active : List.Forall₂ correspondence.active first.active second.active
  best : correspondence.best first.best second.best
  seen : second.seen = first.seen

variable {correspondence : Correspondence K} {space : Space K}
  {metric other : Metric K} {first second : Ledger K}

/-! ## What corresponding books tell -/

omit [Scalar K] in
theorem Books.numCompleted (books : correspondence.Books first second) :
    second.numCompleted = first.numCompleted :=
  books.completed.size

omit [Scalar K] in
theorem Books.numKnown (books : correspondence.Books first second) :
    second.numKnown = first.numKnown := by
  have active : second.numActive = first.numActive := books.active.length_eq.symm
  rw [Ledger.numKnown, Ledger.numKnown, books.numCompleted, active]

omit [Scalar K] in
theorem Books.hasUnseen (books : correspondence.Books first second) :
    second.hasUnseen = first.hasUnseen := by
  rw [Ledger.hasUnseen, Ledger.hasUnseen, books.seen, books.numCompleted]

theorem ofTrials_congr {trials others : List (Trial K)}
    (oriented : others.map (Labels.oriented other) = trials.map (Labels.oriented metric)) :
    Labels.ofTrials other others = Labels.ofTrials metric trials := by
  rw [Labels.ofTrials, Labels.ofTrials, oriented]

theorem Books.labels (books : correspondence.Books first second)
    (faithful : correspondence.Faithful space metric other) :
    Labels.ofTrials other second.completed.items =
      Labels.ofTrials metric first.completed.items := by
  apply ofTrials_congr
  refine (map_eq_of_forall₂ books.completed.items ?_).symm
  intro trial standIn pair
  exact (faithful.oriented pair).symm

/-- Where the best values are those of one id, so are the best trials. -/
theorem Books.bestTrial?_id (books : correspondence.Books first second)
    (faithful : correspondence.Faithful space metric other)
    (kept : correspondence.KeepsBestId) :
    second.bestTrial?.map (·.id) = first.bestTrial?.map (·.id) := by
  have best := kept books.best
  rw [Ledger.bestTrial?, Ledger.bestTrial?]
  cases firstBest : first.best with
  | none =>
      rw [firstBest, Option.map_none, Option.map_eq_none_iff] at best
      rw [best]
      rfl
  | some value =>
      rw [firstBest, Option.map_some, Option.map_eq_some_iff] at best
      obtain ⟨otherValue, secondBest, same⟩ := best
      rw [secondBest, Option.bind_some, Option.bind_some]
      dsimp only
      rw [same]
      have found := books.completed.find? value.1
      generalize first.completed.find? value.1 = trial,
        second.completed.find? value.1 = standIn at found ⊢
      cases found with
      | some pair => exact congrArg some (faithful.id pair)
      | none => rfl

/-! ## Deliveries -/

/-- The books while trials are entered, with the numbers entered so far. -/
def Entering (correspondence : Correspondence K) (state standIn : Nat × Ledger K) :
    Prop :=
  standIn.1 = state.1 ∧ correspondence.Books state.2 standIn.2

theorem Entering.enter {state otherState : Nat × Ledger K}
    (entering : correspondence.Entering state otherState)
    (faithful : correspondence.Faithful space metric other) {trial standIn : Trial K}
    (pair : correspondence.completed trial standIn) :
    correspondence.Entering (Ledger.enter metric state trial)
      (Ledger.enter other otherState standIn) := by
  obtain ⟨added, first⟩ := state
  obtain ⟨otherAdded, second⟩ := otherState
  obtain ⟨count, books⟩ := entering
  have known := books.completed.contains trial.id
  rw [Ledger.enter, Ledger.enter]
  dsimp only at count books known ⊢
  rw [faithful.id pair, known, count]
  cases first.completed.contains trial.id with
  | true => exact ⟨rfl, books⟩
  | false =>
      refine ⟨rfl, ?_, books.active, faithful.betterOf books.best pair, books.seen⟩
      exact books.completed.insert trial.id pair

theorem Entering.foldl_enter {state otherState : Nat × Ledger K}
    (entering : correspondence.Entering state otherState)
    (faithful : correspondence.Faithful space metric other)
    {trials standIns : List (Trial K)}
    (pairs : List.Forall₂ correspondence.completed trials standIns) :
    correspondence.Entering (trials.foldl (Ledger.enter metric) state)
      (standIns.foldl (Ledger.enter other) otherState) := by
  induction pairs generalizing state otherState with
  | nil => exact entering
  | cons pair _ inductionHypothesis =>
      exact inductionHypothesis (entering.enter faithful pair)

/-- Corresponding deliveries are both refused for one trial, or both entered. -/
theorem Books.record (books : correspondence.Books first second)
    (faithful : correspondence.Faithful space metric other)
    {completed completedStandIns active activeStandIns : List (Trial K)}
    (completedPairs :
      List.Forall₂ correspondence.completed completed completedStandIns)
    (activePairs : List.Forall₂ correspondence.active active activeStandIns) :
    (∃ failure,
      first.record metric completed active = .error failure ∧
        second.record other completedStandIns activeStandIns = .error failure) ∨
    ∃ added next otherNext,
      first.record metric completed active = .ok (added, next) ∧
        second.record other completedStandIns activeStandIns =
          .ok (added, otherNext) ∧
        correspondence.Books next otherNext := by
  have refused :
      Option.Rel correspondence.completed
        (completed.find? fun trial => !trial.isCompleted)
        (completedStandIns.find? fun trial => !trial.isCompleted) := by
    rw [List.find?_eq_findSome?_guard, List.find?_eq_findSome?_guard]
    refine rel_findSome? completedPairs ?_
    intro trial standIn pair
    rw [Option.guard, Option.guard, faithful.isCompleted pair]
    cases trial.isCompleted with
    | true => exact .none
    | false => exact .some pair
  rw [Ledger.record, Ledger.record]
  generalize (completed.find? fun trial => !trial.isCompleted) = trial,
    (completedStandIns.find? fun trial => !trial.isCompleted) = standIn at refused ⊢
  cases refused with
  | some pair =>
      refine .inl ⟨_, rfl, ?_⟩
      dsimp only
      rw [faithful.id pair]
  | none =>
      have start : correspondence.Entering (0, first) (0, second) := ⟨rfl, books⟩
      obtain ⟨count, entered⟩ := start.foldl_enter faithful completedPairs
      dsimp only
      rw [count]
      exact .inr ⟨_, _, _, rfl, rfl,
        entered.completed, activePairs, entered.best, entered.seen⟩

end Correspondence

end BatchBayes
