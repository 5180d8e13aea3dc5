import BatchBayes.Proofs.Designer.Run
import BatchBayes.Proofs.Study.Correspondence
/-!
Two designers side by side. Where the books of one correspond to those of the other
and all else is the same, corresponding calls get the same replies, and the designers
after them correspond again.
-/

namespace BatchBayes

namespace Designer

variable {K : Type} [Scalar K] [DecimalText K]

/-! ## Replies -/

/-- What a call gives; an update gives no suggestions. -/
def outcome (designer : Designer K) : Call K → Except Failure (List (Suggestion K))
  | .update completed active => (designer.update completed active).1.map fun _ => []
  | .suggest count => (designer.suggest count).1
  | _ => .ok []

/-- What a caller learns from a call: its outcome, and the id of the best trial after
it. -/
structure Reply (K : Type) where
  outcome : Except Failure (List (Suggestion K))
  best : Option UInt64

/-- The replies to calls one after another. -/
def replies (designer : Designer K) : List (Call K) → List (Reply K)
  | [] => []
  | call :: calls =>
      ⟨designer.outcome call, (designer.after call).bestTrial?.map (·.id)⟩ ::
        (designer.after call).replies calls

/-! ## Another study -/

/-- The designer with another study: other metrics over the same space, and other
books. -/
def withStudy (designer : Designer K) (metrics : List (Metric K)) (metric : Metric K)
    (ledger : Ledger K) : Designer K :=
  { designer with problem := ⟨designer.problem.space, metrics⟩, metric, ledger }

omit [Scalar K] [DecimalText K] in
theorem nextKey_withStudy (designer : Designer K) (metrics : List (Metric K))
    (metric : Metric K) (ledger : Ledger K) :
    (designer.withStudy metrics metric ledger).nextKey =
      (designer.nextKey.1, designer.nextKey.2.withStudy metrics metric ledger) := by
  rw [nextKey, nextKey, withStudy]
  -- With the keys as variables nobody compares how they are mixed.
  cases designer.key.split
  rfl

theorem suggestSeeds_withStudy (designer : Designer K) (metrics : List (Metric K))
    (metric : Metric K) (ledger : Ledger K) (count : Nat) :
    (designer.withStudy metrics metric ledger).suggestSeeds count =
      ((designer.suggestSeeds count).1,
        (designer.suggestSeeds count).2.withStudy metrics metric ledger) := by
  obtain ⟨used, kept, taken⟩ := designer.exists_nextKey
  rw [suggestSeeds, suggestSeeds, nextKey_withStudy, taken]
  dsimp only [withStudy, strayed?]
  generalize designer.seeder.answer designer.seedRequests ⟨count, used⟩ = seeds
  by_cases length : seeds.length ≠ count
  · rw [if_pos length, if_pos length]
  · rw [if_neg length, if_neg length]
    cases seeds.findSome? designer.problem.space.violation? with
    | some error => rfl
    | none => rfl

section Study

variable {correspondence : Correspondence K} {designer : Designer K}
  {metrics : List (Metric K)} {metric : Metric K} {ledger : Ledger K}
  (faithful : correspondence.Faithful designer.problem.space designer.metric metric)
  (books : correspondence.Books designer.ledger ledger)

include books

omit [Scalar K] [DecimalText K] in
theorem isSeeding_withStudy :
    (designer.withStudy metrics metric ledger).isSeeding = designer.isSeeding := by
  have known :
      (designer.withStudy metrics metric ledger).ledger.numKnown =
        designer.ledger.numKnown := books.numKnown
  rw [isSeeding, known, isSeeding]
  rfl

theorem batch_withStudy (ensemble : Ensemble K) (strategyKey fillKey : Key)
    (count : Nat) :
    (designer.withStudy metrics metric ledger).batch ensemble strategyKey fillKey
        count =
      designer.batch ensemble strategyKey fillKey count := by
  have hasUnseen :
      (designer.withStudy metrics metric ledger).ledger.hasUnseen =
        designer.ledger.hasUnseen := books.hasUnseen
  rw [batch, batch, hasUnseen]
  rfl

theorem suggestBatch_withStudy (ensemble : Ensemble K) (count : Nat) :
    (designer.withStudy metrics metric ledger).suggestBatch ensemble count =
      ((designer.suggestBatch ensemble count).1,
        (designer.suggestBatch ensemble count).2.withStudy metrics metric
          { ledger with
            seen := (designer.suggestBatch ensemble count).2.ledger.seen }) := by
  rw [suggestBatch_eq, suggestBatch_eq, batch_withStudy books]
  have key : (designer.withStudy metrics metric ledger).key = designer.key := rfl
  rw [key]
  generalize designer.key.split = pair
  obtain ⟨kept, strategyKey⟩ := pair
  generalize kept.split = pair
  obtain ⟨next, fillKey⟩ := pair
  dsimp only
  cases designer.batch ensemble strategyKey fillKey count with
  | error failure =>
      dsimp only [ledgerAfter, withStudy]
      rw [← books.seen]
  | ok suggestions =>
      dsimp only [ledgerAfter, Ledger.markSeen, withStudy]
      rw [books.numCompleted]

include faithful

/-- The other study gives a model the same data. -/
theorem refit_withStudy :
    (designer.withStudy metrics metric ledger).refit =
      (designer.refit.1, designer.refit.2.withStudy metrics metric ledger) := by
  have completed :
      (designer.withStudy metrics metric ledger).features ledger.completed.items =
        designer.features designer.ledger.completed.items := by
    refine (mapM_eq_of_forall₂ (books.completed.items.imp ?_)).symm
    intro trial standIn pair
    exact (faithful.values pair).encode.symm
  have active :
      (designer.withStudy metrics metric ledger).features ledger.active =
        designer.features designer.ledger.active := by
    refine (mapM_eq_of_forall₂ (books.active.imp ?_)).symm
    intro trial standIn pair
    exact (faithful.activeValues pair).encode.symm
  have labels := books.labels faithful
  obtain ⟨used, kept, taken⟩ := designer.exists_nextKey
  rw [refit, refit, nextKey_withStudy, taken]
  dsimp only [withStudy] at completed active labels ⊢
  rw [completed, active, labels]
  cases designer.features designer.ledger.completed.items with
  | error failure => rfl
  | ok points =>
      cases designer.features designer.ledger.active with
      | error failure => rfl
      | ok pending =>
          dsimp only
          split
          case h_1 => rfl
          case h_2 => rfl

theorem settle_withStudy :
    (designer.withStudy metrics metric ledger).settle =
      (designer.settle.1, designer.settle.2.withStudy metrics metric ledger) := by
  rw [settle, settle, isSeeding_withStudy books, refit_withStudy faithful books]
  cases designer.isSeeding with
  | true => rfl
  | false => rfl

theorem ready_withStudy :
    (designer.withStudy metrics metric ledger).ready =
      (designer.ready.1, designer.ready.2.withStudy metrics metric ledger) := by
  have kept :
      (designer.withStudy metrics metric ledger).ensemble = designer.ensemble := rfl
  rw [ready, ready, kept, refit_withStudy faithful books]
  cases designer.ensemble with
  | none => rfl
  | some ensemble => rfl

/-- The other study gives the same suggestions, and its books look at the completed
trials where those of the designer do. -/
theorem suggest_withStudy (count : Nat) :
    (designer.withStudy metrics metric ledger).suggest count =
      ((designer.suggest count).1,
        (designer.suggest count).2.withStudy metrics metric
          { ledger with seen := (designer.suggest count).2.ledger.seen }) := by
  have unlooked : { ledger with seen := designer.ledger.seen } = ledger := by
    rw [← books.seen]
  by_cases zero : count = 0
  · rw [suggest, suggest, if_pos zero, if_pos zero]
    dsimp only
    rw [unlooked]
  cases seeding : designer.isSeeding with
  | true =>
      obtain ⟨used, key, changes⟩ := designer.suggestSeeds_changes count
      rw [suggest, suggest, isSeeding_withStudy books, seeding, if_neg zero,
        if_neg zero, if_pos rfl, if_pos rfl, suggestSeeds_withStudy, changes]
      dsimp only
      rw [unlooked]
  | false =>
      have seeded :
          (designer.withStudy metrics metric ledger).isSeeding = false := by
        rw [isSeeding_withStudy books, seeding]
      obtain ⟨key, kept, changes⟩ := designer.ready_changes
      rw [suggest_eq_ready seeded zero, suggest_eq_ready seeding zero,
        ready_withStudy faithful books]
      generalize designer.ready = pair at changes ⊢
      obtain ⟨result, next⟩ := pair
      obtain rfl : next = { designer with key, ensemble := kept } := changes
      dsimp only
      cases result with
      | error failure =>
          dsimp only
          rw [unlooked]
      | ok ensemble =>
          -- An ensemble fitted on the way leaves the books alone.
          have stillBooks :
              correspondence.Books
                ({ designer with key, ensemble := kept } : Designer K).ledger ledger :=
            books
          exact suggestBatch_withStudy stillBooks ensemble count

end Study

/-! ## Corresponding designers -/

/-- The trials of two calls stand for each other, and all else is the same. -/
inductive Call.Matches (correspondence : Correspondence K) : Call K → Call K → Prop
  | update {completed completedStandIns active activeStandIns : List (Trial K)} :
      List.Forall₂ correspondence.completed completed completedStandIns →
      List.Forall₂ correspondence.active active activeStandIns →
      Matches correspondence (.update completed active)
        (.update completedStandIns activeStandIns)
  | suggest (count : Nat) :
      Matches correspondence (.suggest count) (.suggest count)
  | replaceSeeder (seeder : Seeder K) :
      Matches correspondence (.replaceSeeder seeder) (.replaceSeeder seeder)
  | replaceTuner (tuner : Tuner K) :
      Matches correspondence (.replaceTuner tuner) (.replaceTuner tuner)
  | replaceMaximizer (maximizer : Maximizer K) :
      Matches correspondence (.replaceMaximizer maximizer)
        (.replaceMaximizer maximizer)
  | replacePadding (padding : Padding) :
      Matches correspondence (.replacePadding padding) (.replacePadding padding)

omit [Scalar K] [DecimalText K] in
/-- Where every trial stands for itself, so does every call. -/
theorem Call.matches_self {correspondence : Correspondence K}
    (completed : ∀ trial, correspondence.completed trial trial)
    (active : ∀ trial, correspondence.active trial trial) (call : Call K) :
    call.Matches correspondence call := by
  cases call with
  | update =>
      exact .update (List.forall₂_same.2 fun trial _ => completed trial)
        (List.forall₂_same.2 fun trial _ => active trial)
  | suggest count => exact .suggest count
  | replaceSeeder seeder => exact .replaceSeeder seeder
  | replaceTuner tuner => exact .replaceTuner tuner
  | replaceMaximizer maximizer => exact .replaceMaximizer maximizer
  | replacePadding padding => exact .replacePadding padding

/-- Two designers whose books correspond, and which are the same apart from the
metric and the books. -/
inductive Corresponds (correspondence : Correspondence K) (first : Designer K) :
    Designer K → Prop
  | intro {metrics : List (Metric K)} {metric : Metric K} {ledger : Ledger K} :
      correspondence.Faithful first.problem.space first.metric metric →
      correspondence.Books first.ledger ledger →
      Corresponds correspondence first (first.withStudy metrics metric ledger)

section Calls

variable {correspondence : Correspondence K} {designer : Designer K}
  {metrics : List (Metric K)} {metric : Metric K} {ledger : Ledger K}

/-- A trial outside the space is refused in both studies, for the same reason if the
trials under way keep their ids. -/
theorem misplaced?_withStudy (metrics : List (Metric K)) (ledger : Ledger K)
    (faithful :
      correspondence.Faithful designer.problem.space designer.metric metric)
    {completed completedStandIns active activeStandIns : List (Trial K)}
    (completedPairs :
      List.Forall₂ correspondence.completed completed completedStandIns)
    (activePairs : List.Forall₂ correspondence.active active activeStandIns) :
    Option.Rel (fun failure other => correspondence.KeepsActiveIds → other = failure)
      (designer.misplaced? (completed ++ active))
      ((designer.withStudy metrics metric ledger).misplaced?
        (completedStandIns ++ activeStandIns)) := by
  have pairs :
      List.Forall₂
        (fun trial standIn =>
          designer.problem.space.SameValues trial.assignment standIn.assignment ∧
            (correspondence.KeepsActiveIds → standIn.id = trial.id))
        (completed ++ active) (completedStandIns ++ activeStandIns) := by
    apply List.rel_append
    · refine completedPairs.imp fun trial standIn pair => ?_
      exact ⟨faithful.values pair, fun _ => faithful.id pair⟩
    · refine activePairs.imp fun trial standIn pair => ?_
      exact ⟨faithful.activeValues pair, fun kept => kept pair⟩
  rw [misplaced?, misplaced?]
  refine rel_findSome? pairs ?_
  rintro trial standIn ⟨values, id⟩
  dsimp only [withStudy]
  rw [values.violation?]
  cases designer.problem.space.violation? trial.assignment with
  | none => exact .none
  | some error =>
      refine .some fun kept => ?_
      rw [id kept]

/-- Both outcomes are failures, or they are the same; where the trials under way keep
their ids, failures are the same too. -/
structure OutcomesAlike {α : Type} (correspondence : Correspondence K)
    (first second : Except Failure α) : Prop where
  agree : Agree Eq first second
  eq : correspondence.KeepsActiveIds → second = first

omit [Scalar K] [DecimalText K] in
theorem OutcomesAlike.refl {α : Type} (correspondence : Correspondence K)
    (outcome : Except Failure α) : OutcomesAlike correspondence outcome outcome :=
  ⟨.refl (fun _ => rfl) outcome, fun _ => rfl⟩

/-- Designers that correspond once trials are entered settle alike. -/
theorem corresponds_settle
    (faithful :
      correspondence.Faithful designer.problem.space designer.metric metric)
    (books : correspondence.Books designer.ledger ledger) :
    OutcomesAlike correspondence designer.settle.1
        (designer.withStudy metrics metric ledger).settle.1 ∧
      Corresponds correspondence designer.settle.2
        (designer.withStudy metrics metric ledger).settle.2 := by
  rw [settle_withStudy faithful books]
  refine ⟨.refl correspondence _, ?_⟩
  obtain ⟨key, ensemble, changes⟩ := designer.settle_changes
  rw [changes]
  exact .intro faithful books

theorem update_withStudy
    (faithful :
      correspondence.Faithful designer.problem.space designer.metric metric)
    (books : correspondence.Books designer.ledger ledger)
    {completed completedStandIns active activeStandIns : List (Trial K)}
    (completedPairs :
      List.Forall₂ correspondence.completed completed completedStandIns)
    (activePairs : List.Forall₂ correspondence.active active activeStandIns) :
    OutcomesAlike correspondence (designer.update completed active).1
        ((designer.withStudy metrics metric ledger).update completedStandIns
          activeStandIns).1 ∧
      Corresponds correspondence (designer.update completed active).2
        ((designer.withStudy metrics metric ledger).update completedStandIns
          activeStandIns).2 := by
  have misplaced :=
    misplaced?_withStudy metrics ledger faithful completedPairs activePairs
  generalize trial : designer.misplaced? (completed ++ active) = failure,
    standIn :
      (designer.withStudy metrics metric ledger).misplaced?
        (completedStandIns ++ activeStandIns) = other at misplaced
  cases misplaced with
  | some alike =>
      rw [update_of_misplaced trial, update_of_misplaced standIn]
      refine ⟨⟨.error, fun kept => ?_⟩, .intro faithful books⟩
      rw [alike kept]
  | none =>
      rcases books.record faithful completedPairs activePairs with
        ⟨failure, refused, otherRefused⟩ |
        ⟨added, next, otherNext, recorded, otherRecorded, entered⟩
      · rw [update_of_refused trial refused, update_of_refused standIn otherRefused]
        exact ⟨.refl correspondence _, .intro faithful books⟩
      · rw [update_of_entered trial recorded, update_of_entered standIn otherRecorded]
        have settled :
            correspondence.Books
              ({ designer with ledger := next, ensemble := none } : Designer K).ledger
              otherNext := entered
        exact corresponds_settle faithful settled

/-! ## Corresponding runs -/

/-- The outcomes of two replies are alike, and so are the best trials if the best
values keep their ids. -/
structure Reply.Alike (correspondence : Correspondence K) (first second : Reply K) :
    Prop where
  outcome : OutcomesAlike correspondence first.outcome second.outcome
  best : correspondence.KeepsBestId → second.best = first.best

variable {first second : Designer K}

omit [DecimalText K] in
theorem Corresponds.bestTrial?_id (corresponds : Corresponds correspondence first second)
    (kept : correspondence.KeepsBestId) :
    second.bestTrial?.map (·.id) = first.bestTrial?.map (·.id) := by
  obtain ⟨faithful, books⟩ := corresponds
  exact books.bestTrial?_id faithful kept

/-- Corresponding designers give corresponding calls outcomes that are alike, and
correspond after them. -/
theorem Corresponds.call (corresponds : Corresponds correspondence first second)
    {call other : Call K} (pair : call.Matches correspondence other) :
    OutcomesAlike correspondence (first.outcome call) (second.outcome other) ∧
      Corresponds correspondence (first.after call) (second.after other) := by
  obtain ⟨faithful, books⟩ := corresponds
  cases pair with
  | update completedPairs activePairs =>
      obtain ⟨outcome, corresponds⟩ :=
        update_withStudy faithful books completedPairs activePairs
      refine ⟨⟨outcome.agree.map_eq _, fun kept => ?_⟩, corresponds⟩
      rw [Designer.outcome, Designer.outcome, outcome.eq kept]
  | suggest count =>
      rw [Designer.outcome, Designer.outcome, after, after,
        suggest_withStudy faithful books]
      refine ⟨.refl correspondence _, ?_⟩
      obtain ⟨key, ensemble, seedRequests, ledger, changes, marked⟩ :=
        first.suggest_changes count
      rw [changes]
      rcases marked with ⟨_, rfl⟩ | ⟨_, rfl⟩
      · exact .intro faithful ⟨books.completed, books.active, books.best, rfl⟩
      · exact .intro faithful ⟨books.completed, books.active, books.best, rfl⟩
  | replaceSeeder seeder => exact ⟨.refl correspondence _, .intro faithful books⟩
  | replaceTuner tuner => exact ⟨.refl correspondence _, .intro faithful books⟩
  | replaceMaximizer maximizer => exact ⟨.refl correspondence _, .intro faithful books⟩
  | replacePadding padding => exact ⟨.refl correspondence _, .intro faithful books⟩

/-- Corresponding calls to corresponding designers get replies that are alike. -/
theorem Corresponds.replies (corresponds : Corresponds correspondence first second)
    {calls others : List (Call K)}
    (pairs : List.Forall₂ (Call.Matches correspondence) calls others) :
    List.Forall₂ (Reply.Alike correspondence) (first.replies calls)
      (second.replies others) := by
  induction pairs generalizing first second with
  | nil => exact .nil
  | cons pair _ inductionHypothesis =>
      obtain ⟨outcome, next⟩ := corresponds.call pair
      rw [Designer.replies, Designer.replies]
      exact .cons ⟨outcome, next.bestTrial?_id⟩ (inductionHypothesis next)

/-- Where the trials under way and the best values keep their ids, the replies are the
same. -/
theorem Corresponds.replies_eq (corresponds : Corresponds correspondence first second)
    (activeIds : correspondence.KeepsActiveIds) (bestId : correspondence.KeepsBestId)
    {calls others : List (Call K)}
    (pairs : List.Forall₂ (Call.Matches correspondence) calls others) :
    second.replies others = first.replies calls := by
  have same : ∀ reply other : Reply K,
      Reply.Alike correspondence reply other → reply = other := by
    rintro ⟨outcome, best⟩ ⟨otherOutcome, otherBest⟩ alike
    have sameOutcome : otherOutcome = outcome := alike.outcome.eq activeIds
    have sameBest : otherBest = best := alike.best bestId
    rw [sameOutcome, sameBest]
  have replies := (corresponds.replies pairs).imp same
  rw [List.forall₂_eq_eq_eq] at replies
  exact replies.symm

end Calls

end Designer

end BatchBayes
