import BatchBayes.Designer.Basic
import BatchBayes.Proofs.Outcome
import BatchBayes.Proofs.Study.Ledger
import Mathlib.Logic.Basic
/-!
Runs of a designer, and what its calls change. Refitting changes the key and the
ensemble, suggesting leaves the books as they are, and only an update enters
trials.
-/

namespace BatchBayes

namespace Designer

variable {K : Type} [Scalar K] [DecimalText K]

/-! ## Creating -/

/-- A new designer has empty books over a space without defect. -/
theorem create_eq_ok [NormalSource K] {problem : Problem K}
    {configuration : Configuration K} {designer : Designer K}
    (success : create problem configuration = .ok designer) :
    designer.problem.space.defect? = none ∧
      designer.configuration = configuration ∧ designer.ledger = .empty ∧
      designer.ensemble = none := by
  rw [create] at success
  split at success
  case h_1 => cases success
  case h_2 =>
      split at success
      case h_1 => cases success
      case h_2 metric _ =>
          split at success
          case h_1 => cases success
          case h_2 sound =>
              cases success
              exact ⟨sound, rfl, rfl, rfl⟩

/-! ## Refitting -/

omit [Scalar K] [DecimalText K] in
/-- Taking a key changes the key alone. -/
theorem exists_nextKey (designer : Designer K) :
    ∃ used kept, designer.nextKey = (used, { designer with key := kept }) := by
  refine ⟨designer.key.split.2, designer.key.split.1, ?_⟩
  rw [nextKey]

/-- The known trials as data. -/
def observations (designer : Designer K) (points : List (List K)) :
    Observations K :=
  .ofPoints points
    (Labels.ofTrials designer.metric designer.ledger.completed.items)
    designer.problem.space.dimension

/-- Refitting fails and changes the key at most, or it keeps an ensemble of the
known trials. -/
theorem refit_cases (designer : Designer K) :
    (∃ failure key,
      designer.refit = (.error failure, { designer with key })) ∨
    ∃ points pending fitKey key ensemble,
      designer.features designer.ledger.completed.items = .ok points ∧
        designer.features designer.ledger.active = .ok pending ∧
        Ensemble.fit (designer.observations points) pending
            designer.configuration.ensembleSize.toNat designer.tuner
            designer.padding fitKey = .ok ensemble ∧
          designer.refit =
            (.ok ensemble, { designer with key, ensemble := some ensemble }) := by
  obtain ⟨used, kept, taken⟩ := designer.exists_nextKey
  rw [refit, taken]
  cases completed : designer.features designer.ledger.completed.items with
  | error failure => exact .inl ⟨.space failure, designer.key, rfl⟩
  | ok points =>
      cases active : designer.features designer.ledger.active with
      | error failure => exact .inl ⟨.space failure, designer.key, rfl⟩
      | ok pending =>
          dsimp only
          cases fitted :
              Ensemble.fit (designer.observations points) pending
                designer.configuration.ensembleSize.toNat designer.tuner
                designer.padding used with
          | error failure =>
              rw [observations] at fitted
              exact .inl ⟨.modelFit failure, kept, by rw [fitted]⟩
          | ok ensemble =>
              refine .inr ⟨points, pending, used, kept, ensemble, rfl, rfl,
                fitted, ?_⟩
              rw [observations] at fitted
              rw [fitted]

theorem refit_changes (designer : Designer K) :
    ∃ key ensemble, designer.refit.2 = { designer with key, ensemble } := by
  rcases designer.refit_cases with
    ⟨failure, key, refitted⟩ |
    ⟨points, pending, fitKey, key, ensemble, _, _, _, refitted⟩
  · exact ⟨key, designer.ensemble, by rw [refitted]⟩
  · exact ⟨key, some ensemble, by rw [refitted]⟩

/-- Refitting fails where a known trial has no features or no model is found. -/
theorem refit_failure {designer : Designer K} {failure : Failure}
    (failed : designer.refit.1 = .error failure) :
    (∃ error, failure = .modelFit error) ∨
      ∃ error,
        failure = .space error ∧
          (designer.features designer.ledger.completed.items = .error error ∨
            designer.features designer.ledger.active = .error error) := by
  obtain ⟨used, kept, taken⟩ := designer.exists_nextKey
  rw [refit, taken] at failed
  dsimp only at failed
  split at failed
  case h_1 error completed =>
      exact .inr ⟨error, (Except.error.inj failed).symm, .inl completed⟩
  case h_2 error _ active =>
      exact .inr ⟨error, (Except.error.inj failed).symm, .inr active⟩
  case h_3 =>
      split at failed
      case h_1 error _ => exact .inl ⟨error, (Except.error.inj failed).symm⟩
      case h_2 => cases failed

/-! ## Updating -/

/-- The end of an update whose trials are entered. -/
def settle (designer : Designer K) : Except Failure Unit × Designer K :=
  if designer.isSeeding then (.ok (), designer)
  else (designer.refit.1.map fun _ => (), designer.refit.2)

theorem settle_changes (designer : Designer K) :
    ∃ key ensemble, designer.settle.2 = { designer with key, ensemble } := by
  rw [settle]
  by_cases seeding : designer.isSeeding
  · rw [if_pos seeding]
    exact ⟨designer.key, designer.ensemble, rfl⟩
  · rw [if_neg seeding]
    exact designer.refit_changes

/-- Settling fails past the seeds only, and then refitting does. -/
theorem refit_of_settle {designer : Designer K} {failure : Failure}
    (failed : designer.settle.1 = .error failure) :
    designer.refit.1 = .error failure ∧ designer.settle.2 = designer.refit.2 := by
  rw [settle] at failed ⊢
  by_cases seeding : designer.isSeeding
  · rw [if_pos seeding] at failed
    cases failed
  · rw [if_neg seeding] at failed ⊢
    refine ⟨?_, rfl⟩
    dsimp only at failed
    cases outcome : designer.refit.1 with
    | ok ensemble =>
        rw [outcome] at failed
        cases failed
    | error other =>
        rw [outcome] at failed
        exact congrArg Except.error (Except.error.inj failed)

theorem settle_ne_invalidTrial (designer : Designer K) (id : UInt64)
    (message : String) : designer.settle.1 ≠ .error (.invalidTrial id message) := by
  intro failed
  rcases refit_failure (refit_of_settle failed).1 with ⟨_, same⟩ | ⟨_, same, _⟩
  · cases same
  · cases same

section Update

variable {designer : Designer K} {completed active : List (Trial K)}
  {failure : Failure}

theorem update_of_misplaced
    (misplaced : designer.misplaced? (completed ++ active) = some failure) :
    designer.update completed active = (.error failure, designer) := by
  rw [update, misplaced]

theorem update_of_refused
    (inside : designer.misplaced? (completed ++ active) = none)
    (refused : designer.ledger.record designer.metric completed active =
      .error failure) :
    designer.update completed active = (.error failure, designer) := by
  rw [update, inside]
  dsimp only
  rw [refused]

theorem update_of_entered
    (inside : designer.misplaced? (completed ++ active) = none)
    {added : Nat} {ledger : Ledger K}
    (recorded : designer.ledger.record designer.metric completed active =
      .ok (added, ledger)) :
    designer.update completed active =
      ({ designer with ledger, ensemble := none } : Designer K).settle := by
  rw [update, inside]
  dsimp only
  rw [recorded]
  rfl

theorem misplaced?_eq_none_iff {trials : List (Trial K)} :
    designer.misplaced? trials = none ↔
      ∀ trial ∈ trials, designer.problem.space.violation? trial.assignment = none := by
  rw [misplaced?, List.findSome?_eq_none_iff]
  refine forall₂_congr fun trial _ => ?_
  rw [Option.map_eq_none_iff]

theorem invalidTrial_of_misplaced {trials : List (Trial K)}
    (misplaced : designer.misplaced? trials = some failure) :
    ∃ id message, failure = .invalidTrial id message := by
  rw [misplaced?, List.findSome?_eq_some_iff] at misplaced
  obtain ⟨_, trial, _, _, found, _⟩ := misplaced
  obtain ⟨error, _, rfl⟩ := Option.map_eq_some_iff.1 found
  exact ⟨_, _, rfl⟩

end Update

/-- An update is refused and changes nothing, or the trials are all in the space
and are entered. -/
theorem update_cases (designer : Designer K) (completed active : List (Trial K)) :
    (∃ id message,
      designer.update completed active =
        (.error (.invalidTrial id message), designer)) ∨
    ∃ added ledger key ensemble,
      designer.misplaced? (completed ++ active) = none ∧
        designer.ledger.record designer.metric completed active =
          .ok (added, ledger) ∧
        (designer.update completed active).2 =
          { designer with ledger, key, ensemble } ∧
        ∀ id message,
          (designer.update completed active).1 ≠
            .error (.invalidTrial id message) := by
  cases misplaced : designer.misplaced? (completed ++ active) with
  | some failure =>
      obtain ⟨id, message, rfl⟩ := invalidTrial_of_misplaced misplaced
      exact .inl ⟨id, message, update_of_misplaced misplaced⟩
  | none =>
      cases recorded : designer.ledger.record designer.metric completed active with
      | error failure =>
          obtain ⟨id, message, rfl⟩ := Ledger.invalidTrial_of_record recorded
          exact .inl ⟨id, message, update_of_refused misplaced recorded⟩
      | ok books =>
          obtain ⟨added, ledger⟩ := books
          obtain ⟨key, ensemble, changes⟩ :=
            ({ designer with ledger, ensemble := none } : Designer K).settle_changes
          refine .inr ⟨added, ledger, key, ensemble, rfl, rfl, ?_, ?_⟩
          · rw [update_of_entered misplaced recorded]
            exact changes
          · rw [update_of_entered misplaced recorded]
            exact settle_ne_invalidTrial _

/-! ## Suggesting -/

/-- A request for seeds is entered, whether or not the seeds are suggested. -/
theorem suggestSeeds_changes (designer : Designer K) (count : Nat) :
    ∃ used key,
      (designer.suggestSeeds count).2 =
        { designer with
          key
          seedRequests := ⟨count, used⟩ :: designer.seedRequests } := by
  obtain ⟨used, kept, taken⟩ := designer.exists_nextKey
  refine ⟨used, kept, ?_⟩
  rw [suggestSeeds, taken]
  dsimp only
  split
  · rfl
  · split <;> rfl

/-- What a designer fills batches with. -/
def chooser (designer : Designer K) : Chooser K :=
  ⟨designer.configuration.coefficients, designer.maximizer,
    designer.problem.space.domain⟩

theorem suggestionOf_key (designer : Designer K) (key : Key) :
    ({ designer with key } : Designer K).suggestionOf = designer.suggestionOf := rfl

/-- What a batch with the given keys comes to. -/
def batch (designer : Designer K) (ensemble : Ensemble K) (strategyKey fillKey : Key)
    (count : Nat) : Except Failure (List (Suggestion K)) :=
  let plan :=
    (Strategy.draw designer.configuration.coefficients strategyKey).plan count
      designer.ledger.hasUnseen designer.configuration.coefficients.jointExploration
  match designer.chooser.fill ensemble plan fillKey with
  | .error failure => .error failure
  | .ok (slots, _) =>
      match slots.mapM designer.suggestionOf with
      | .error failure => .error failure
      | .ok suggestions =>
          if suggestions.length ≠ count then
            let produced := suggestions.length
            .error (.acquisition
              s!"controller produced {produced} suggestions for a batch of {count}")
          else .ok suggestions

/-- The books after a batch; one that is suggested has looked at them. -/
def ledgerAfter {α : Type} (ledger : Ledger K) : Except Failure α → Ledger K
  | .error _ => ledger
  | .ok _ => ledger.markSeen

theorem suggestBatch_eq (designer : Designer K) (ensemble : Ensemble K) (count : Nat) :
    designer.suggestBatch ensemble count =
      (designer.batch ensemble designer.key.split.2 designer.key.split.1.split.2 count,
        { designer with
          key := designer.key.split.1.split.1
          ledger :=
            ledgerAfter designer.ledger
              (designer.batch ensemble designer.key.split.2
                designer.key.split.1.split.2 count) }) := by
  rw [suggestBatch, nextKey]
  generalize designer.key.split = pair
  obtain ⟨kept, strategyKey⟩ := pair
  dsimp only [nextKey]
  generalize kept.split = pair
  obtain ⟨next, fillKey⟩ := pair
  dsimp only
  rw [batch, chooser]
  generalize Chooser.fill _ ensemble _ fillKey = filled
  cases filled with
  | error failure => rfl
  | ok found =>
      obtain ⟨slots, last⟩ := found
      dsimp only
      rw [suggestionOf_key]
      cases slots.mapM designer.suggestionOf with
      | error failure => rfl
      | ok suggestions =>
          dsimp only
          by_cases length : suggestions.length ≠ count
          · rw [if_pos length, if_pos length]
            rfl
          · rw [if_neg length, if_neg length]
            rfl

/-- The suggestions of a batch with the given keys, where nothing fails. -/
def Chooses (designer : Designer K) (ensemble : Ensemble K)
    (strategyKey fillKey : Key) (count : Nat)
    (suggestions : List (Suggestion K)) : Prop :=
  ∃ slots last,
    designer.chooser.fill ensemble
        ((Strategy.draw designer.configuration.coefficients strategyKey).plan count
          designer.ledger.hasUnseen
          designer.configuration.coefficients.jointExploration)
        fillKey = .ok (slots, last) ∧
      slots.mapM designer.suggestionOf = .ok suggestions ∧
      suggestions.length = count

theorem batch_eq_ok_iff {designer : Designer K} {ensemble : Ensemble K}
    {strategyKey fillKey : Key} {count : Nat} {suggestions : List (Suggestion K)} :
    designer.batch ensemble strategyKey fillKey count = .ok suggestions ↔
      designer.Chooses ensemble strategyKey fillKey count suggestions := by
  constructor
  · intro success
    rw [batch] at success
    dsimp only at success
    split at success
    case h_1 => cases success
    case h_2 slots last filled =>
        split at success
        case h_1 => cases success
        case h_2 found chosen =>
            by_cases length : found.length = count
            · rw [if_neg (not_not.2 length)] at success
              obtain rfl := Except.ok.inj success
              exact ⟨slots, last, filled, chosen, length⟩
            · rw [if_pos length] at success
              cases success
  · rintro ⟨slots, last, filled, chosen, length⟩
    rw [batch, filled]
    dsimp only
    rw [chosen]
    dsimp only
    rw [if_neg (not_not.2 length)]

/-- The keys of a batch do not depend on its size. A batch that can be chosen is
suggested and marks the completed trials as seen; another one fails. -/
theorem exists_batchKeys (designer : Designer K) (ensemble : Ensemble K) :
    ∃ strategyKey fillKey key,
      ∀ count,
        (∀ suggestions,
          designer.Chooses ensemble strategyKey fillKey count suggestions →
          designer.suggestBatch ensemble count =
            (.ok suggestions,
              { designer with key, ledger := designer.ledger.markSeen })) ∧
        ((∃ suggestions,
            designer.Chooses ensemble strategyKey fillKey count suggestions) ∨
          ∃ failure,
            designer.suggestBatch ensemble count =
              (.error failure, { designer with key })) := by
  refine ⟨designer.key.split.2, designer.key.split.1.split.2,
    designer.key.split.1.split.1, fun count => ⟨?_, ?_⟩⟩
  · intro suggestions chooses
    rw [suggestBatch_eq, batch_eq_ok_iff.2 chooses, ledgerAfter]
  · rw [suggestBatch_eq]
    cases outcome :
        designer.batch ensemble designer.key.split.2 designer.key.split.1.split.2
          count with
    | error failure => exact .inr ⟨failure, by rw [ledgerAfter]⟩
    | ok suggestions => exact .inl ⟨suggestions, batch_eq_ok_iff.1 outcome⟩

theorem suggestBatch_changes (designer : Designer K) (ensemble : Ensemble K)
    (count : Nat) :
    ∃ key ledger,
      (designer.suggestBatch ensemble count).2 = { designer with key, ledger } ∧
        (ledger = designer.ledger ∨ ledger = designer.ledger.markSeen) := by
  rw [suggestBatch_eq]
  refine ⟨_, _, rfl, ?_⟩
  cases designer.batch ensemble designer.key.split.2 designer.key.split.1.split.2
    count with
  | error failure => exact .inl rfl
  | ok suggestions => exact .inr rfl

/-- The ensemble that a batch is chosen over, fitted where none is kept. -/
def ready (designer : Designer K) : Except Failure (Ensemble K) × Designer K :=
  match designer.ensemble with
  | some ensemble => (.ok ensemble, designer)
  | none => designer.refit

/-- The strategy that the next batch draws. -/
def nextStrategy (designer : Designer K) : Strategy :=
  Strategy.draw designer.configuration.coefficients designer.ready.2.nextKey.1

/-- The groups of the next batch. -/
def nextPlan (designer : Designer K) (count : Nat) : List SlotGroup :=
  designer.nextStrategy.plan count designer.ledger.hasUnseen
    designer.configuration.coefficients.jointExploration

/-- The key that the next batch is filled with. -/
def fillKey (designer : Designer K) : Key :=
  designer.ready.2.nextKey.2.nextKey.1

/-- The slots that the next batch is made of, and the ensemble with all of them
pending. -/
def nextSlots (designer : Designer K) (count : Nat) :
    Except Failure (List (Slot K) × Ensemble K) :=
  match designer.ready.1 with
  | .error failure => .error failure
  | .ok ensemble =>
      designer.chooser.fill ensemble (designer.nextPlan count) designer.fillKey

theorem ready_changes (designer : Designer K) :
    ∃ key ensemble, designer.ready.2 = { designer with key, ensemble } := by
  rw [ready]
  cases kept : designer.ensemble with
  | some ensemble => exact ⟨designer.key, designer.ensemble, rfl⟩
  | none => exact designer.refit_changes

theorem suggest_eq_ready {designer : Designer K}
    (seeded : designer.isSeeding = false) {count : Nat} (positive : count ≠ 0) :
    designer.suggest count =
      match designer.ready with
      | (.error failure, next) => (.error failure, next)
      | (.ok ensemble, next) => next.suggestBatch ensemble count := by
  rw [suggest, if_neg positive, seeded, ready]
  cases designer.ensemble <;> rfl

/-- What a batch past the seeds comes to. -/
inductive BatchResult (designer : Designer K) (count : Nat) :
    Except Failure (List (Suggestion K)) → Prop
  | unfilled {failure : Failure} :
      designer.nextSlots count = .error failure →
      BatchResult designer count (.error failure)
  | strayed {slots : List (Slot K)} {last : Ensemble K} {failure : Failure} :
      designer.nextSlots count = .ok (slots, last) →
      slots.mapM designer.suggestionOf = .error failure →
      BatchResult designer count (.error failure)
  | incomplete {slots : List (Slot K)} {last : Ensemble K}
      {suggestions : List (Suggestion K)} {failure : Failure} :
      designer.nextSlots count = .ok (slots, last) →
      slots.mapM designer.suggestionOf = .ok suggestions →
      suggestions.length ≠ count →
      BatchResult designer count (.error failure)
  | complete {slots : List (Slot K)} {last : Ensemble K}
      {suggestions : List (Suggestion K)} :
      designer.nextSlots count = .ok (slots, last) →
      slots.mapM designer.suggestionOf = .ok suggestions →
      suggestions.length = count →
      BatchResult designer count (.ok suggestions)

theorem batchResult_of_ready {designer : Designer K} {ensemble : Ensemble K} {key : Key}
    {kept : Option (Ensemble K)}
    (made : designer.ready = (.ok ensemble, { designer with key, ensemble := kept }))
    (count : Nat) :
    designer.BatchResult count
      (designer.batch ensemble key.split.2 key.split.1.split.2 count) := by
  have slots :
      designer.nextSlots count =
        designer.chooser.fill ensemble
          ((Strategy.draw designer.configuration.coefficients key.split.2).plan count
            designer.ledger.hasUnseen
            designer.configuration.coefficients.jointExploration)
          key.split.1.split.2 := by
    rw [nextSlots, nextPlan, nextStrategy, fillKey, made]
    rfl
  rw [batch]
  dsimp only
  rw [← slots]
  cases filled : designer.nextSlots count with
  | error failure => exact .unfilled filled
  | ok found =>
      obtain ⟨slots, last⟩ := found
      dsimp only
      cases chosen : slots.mapM designer.suggestionOf with
      | error failure => exact .strayed filled chosen
      | ok suggestions =>
          dsimp only
          by_cases length : suggestions.length = count
          · rw [if_neg (not_not.2 length)]
            exact .complete filled chosen length
          · rw [if_pos length]
            exact .incomplete filled chosen length

/-- A batch past the seeds fails, or it is suggested and marks the completed trials
as seen. -/
theorem suggest_cases {designer : Designer K} (seeded : designer.isSeeding = false)
    {count : Nat} (positive : count ≠ 0) :
    ∃ key ensemble,
      (∃ failure,
        designer.BatchResult count (.error failure) ∧
          designer.suggest count = (.error failure, { designer with key, ensemble })) ∨
      ∃ suggestions,
        designer.BatchResult count (.ok suggestions) ∧
          designer.suggest count =
            (.ok suggestions,
              { designer with key, ensemble, ledger := designer.ledger.markSeen }) := by
  obtain ⟨key, kept, changes⟩ := designer.ready_changes
  rw [suggest_eq_ready seeded positive]
  cases made : designer.ready with
  | mk result next =>
      rw [made] at changes
      obtain rfl : next = { designer with key, ensemble := kept } := changes
      cases result with
      | error failure =>
          have unfilled : designer.nextSlots count = .error failure := by
            rw [nextSlots, made]
          exact ⟨key, kept, .inl ⟨failure, .unfilled unfilled, rfl⟩⟩
      | ok ensemble =>
          have outcome := batchResult_of_ready made count
          have same :
              ({ designer with key, ensemble := kept } : Designer K).batch =
                designer.batch := rfl
          refine ⟨key.split.1.split.1, kept, ?_⟩
          dsimp only
          rw [suggestBatch_eq, same]
          dsimp only
          generalize
            designer.batch ensemble key.split.2 key.split.1.split.2 count = batch
            at outcome ⊢
          cases batch with
          | error failure => exact .inl ⟨failure, outcome, by rw [ledgerAfter]⟩
          | ok suggestions => exact .inr ⟨suggestions, outcome, by rw [ledgerAfter]⟩

/-- What a batch that is suggested past the seeds is made of. -/
theorem slots_of_suggest {designer : Designer K} (seeded : designer.isSeeding = false)
    {count : Nat} {suggestions : List (Suggestion K)}
    (success : (designer.suggest count).1 = .ok suggestions) :
    count ≠ 0 ∧
      ∃ slots last,
        designer.nextSlots count = .ok (slots, last) ∧
          slots.mapM designer.suggestionOf = .ok suggestions := by
  have positive : count ≠ 0 := by
    rintro rfl
    rw [suggest, if_pos rfl] at success
    cases success
  obtain ⟨key, ensemble, ⟨failure, _, failed⟩ | ⟨found, result, suggested⟩⟩ :=
    suggest_cases seeded positive
  · rw [failed] at success
    cases success
  · rw [suggested] at success
    obtain rfl := Except.ok.inj success
    cases result with
    | complete filled chosen _ => exact ⟨positive, _, _, filled, chosen⟩

/-! ## Runs -/

/-- A call to a designer. -/
inductive Call (K : Type) where
  | update (completed active : List (Trial K))
  | suggest (count : Nat)
  | replaceSeeder (seeder : Seeder K)
  | replaceTuner (tuner : Tuner K)
  | replaceMaximizer (maximizer : Maximizer K)
  | replacePadding (padding : Padding)

/-- The designer after a call, which may have failed. -/
def after (designer : Designer K) : Call K → Designer K
  | .update completed active => (designer.update completed active).2
  | .suggest count => (designer.suggest count).2
  | .replaceSeeder seeder => designer.withSeeder seeder
  | .replaceTuner tuner => designer.withTuner tuner
  | .replaceMaximizer maximizer => designer.withMaximizer maximizer
  | .replacePadding padding => designer.withPadding padding

/-- The designer after calls one after another. -/
def afterAll (designer : Designer K) (calls : List (Call K)) : Designer K :=
  calls.foldl after designer

theorem afterAll_append (designer : Designer K) (earlier later : List (Call K)) :
    designer.afterAll (earlier ++ later) =
      (designer.afterAll earlier).afterAll later := by
  rw [afterAll, List.foldl_append]
  rfl

theorem afterAll_concat (designer : Designer K) (calls : List (Call K))
    (call : Call K) :
    designer.afterAll (calls ++ [call]) = (designer.afterAll calls).after call :=
  designer.afterAll_append calls [call]

/-- Whether a call suggests a batch past the seeds. -/
def SuggestsBatch (designer : Designer K) : Call K → Prop
  | .suggest count =>
      designer.isSeeding = false ∧
        ∃ suggestions, (designer.suggest count).1 = .ok suggestions
  | _ => False

/-- Just a batch past the seeds marks the completed trials as seen. -/
theorem suggest_changes (designer : Designer K) (count : Nat) :
    ∃ key ensemble seedRequests ledger,
      (designer.suggest count).2 =
          { designer with key, ensemble, seedRequests, ledger } ∧
        ((designer.SuggestsBatch (.suggest count) ∧
            ledger = designer.ledger.markSeen) ∨
          (¬ designer.SuggestsBatch (.suggest count) ∧ ledger = designer.ledger)) := by
  by_cases zero : count = 0
  · have refused : ¬ designer.SuggestsBatch (.suggest count) := by
      rintro ⟨_, suggestions, success⟩
      rw [suggest, if_pos zero] at success
      cases success
    refine ⟨designer.key, designer.ensemble, designer.seedRequests, designer.ledger,
      ?_, .inr ⟨refused, rfl⟩⟩
    rw [suggest, if_pos zero]
  cases seeding : designer.isSeeding with
  | true =>
      have seeds : ¬ designer.SuggestsBatch (.suggest count) := by
        rintro ⟨seeded, _⟩
        rw [seeding] at seeded
        cases seeded
      obtain ⟨used, key, changes⟩ := designer.suggestSeeds_changes count
      refine ⟨key, designer.ensemble, ⟨count, used⟩ :: designer.seedRequests,
        designer.ledger, ?_, .inr ⟨seeds, rfl⟩⟩
      rw [suggest, if_neg zero, if_pos seeding]
      exact changes
  | false =>
      obtain ⟨key, ensemble, ⟨failure, _, failed⟩ | ⟨suggestions, _, suggested⟩⟩ :=
        suggest_cases seeding zero
      · have batchless : ¬ designer.SuggestsBatch (.suggest count) := by
          rintro ⟨_, suggestions, success⟩
          rw [failed] at success
          cases success
        exact ⟨key, ensemble, designer.seedRequests, designer.ledger,
          by rw [failed], .inr ⟨batchless, rfl⟩⟩
      · have batch : designer.SuggestsBatch (.suggest count) :=
          ⟨seeding, suggestions, by rw [suggested]⟩
        exact ⟨key, ensemble, designer.seedRequests, designer.ledger.markSeen,
          by rw [suggested], .inl ⟨batch, rfl⟩⟩

/-- No call changes the problem or the settings. -/
theorem after_setup (designer : Designer K) (call : Call K) :
    (designer.after call).problem = designer.problem ∧
      (designer.after call).metric = designer.metric ∧
      (designer.after call).configuration = designer.configuration := by
  cases call with
  | update completed active =>
      rw [after]
      rcases designer.update_cases completed active with
        ⟨id, message, refused⟩ | ⟨added, ledger, key, ensemble, _, _, changes, _⟩
      · rw [refused]
        exact ⟨rfl, rfl, rfl⟩
      · rw [changes]
        exact ⟨rfl, rfl, rfl⟩
  | suggest count =>
      rw [after]
      obtain ⟨key, ensemble, seedRequests, ledger, changes, _⟩ :=
        designer.suggest_changes count
      rw [changes]
      exact ⟨rfl, rfl, rfl⟩
  | replaceSeeder seeder => exact ⟨rfl, rfl, rfl⟩
  | replaceTuner tuner => exact ⟨rfl, rfl, rfl⟩
  | replaceMaximizer maximizer => exact ⟨rfl, rfl, rfl⟩
  | replacePadding padding => exact ⟨rfl, rfl, rfl⟩

/-- The books after a call: as they were, looked at by a batch, or those that take the
trials of an update that is not refused. -/
theorem ledger_cases (designer : Designer K) (call : Call K) :
    (designer.after call).ledger = designer.ledger ∨
      (designer.after call).ledger = designer.ledger.markSeen ∨
      ∃ completed active added,
        designer.misplaced? (completed ++ active) = none ∧
          designer.ledger.record designer.metric completed active =
            .ok (added, (designer.after call).ledger) := by
  cases call with
  | update completed active =>
      rw [after]
      rcases designer.update_cases completed active with
        ⟨id, message, refused⟩ |
        ⟨added, ledger, key, ensemble, inside, recorded, changes, _⟩
      · rw [refused]
        exact .inl rfl
      · rw [changes]
        exact .inr (.inr ⟨completed, active, added, inside, recorded⟩)
  | suggest count =>
      rw [after]
      obtain ⟨key, ensemble, seedRequests, ledger, changes, marked⟩ :=
        designer.suggest_changes count
      rw [changes]
      rcases marked with ⟨_, rfl⟩ | ⟨_, rfl⟩
      · exact .inr (.inl rfl)
      · exact .inl rfl
  | replaceSeeder seeder => exact .inl rfl
  | replaceTuner tuner => exact .inl rfl
  | replaceMaximizer maximizer => exact .inl rfl
  | replacePadding padding => exact .inl rfl

/-- The designers that calls lead to from a new one. -/
inductive Reachable [NormalSource K] : Designer K → Prop
  | created {problem : Problem K} {configuration : Configuration K}
      {designer : Designer K} :
      create problem configuration = .ok designer → Reachable designer
  | called {designer : Designer K} (call : Call K) :
      Reachable designer → Reachable (designer.after call)

/-- What holds of empty books, and is kept where a batch looks at them and where they
take trials of the space, holds of the books of every designer that calls lead to. -/
theorem Reachable.ledger_induction [NormalSource K] {designer : Designer K}
    {motive : Ledger K → Prop} (reachable : designer.Reachable)
    (empty : motive .empty)
    (markSeen : ∀ ledger, motive ledger → motive ledger.markSeen)
    (record : ∀ ledger next completed active added,
      (∀ trial ∈ completed ++ active,
        designer.problem.space.violation? trial.assignment = none) →
      ledger.record designer.metric completed active = .ok (added, next) →
      motive ledger → motive next) : motive designer.ledger := by
  induction reachable with
  | created success =>
      rw [(create_eq_ok success).2.2.1]
      exact empty
  | @called designer call _ inductionHypothesis =>
      obtain ⟨problem, metric, _⟩ := designer.after_setup call
      rw [problem, metric] at record
      have before := inductionHypothesis record
      rcases designer.ledger_cases call with
        same | marked | ⟨completed, active, added, inside, recorded⟩
      · rw [same]
        exact before
      · rw [marked]
        exact markSeen _ before
      · exact record _ _ completed active added (misplaced?_eq_none_iff.1 inside)
          recorded before

end Designer

end BatchBayes
