import Mathlib
import BatchBayes.Proofs.Designer.Evidence
import BatchBayes.Proofs.Designer.Seeds
import BatchBayes.Proofs.Seeding.Stream
/-!
The seeds of a run. With a seeder that answers from one sequence they are the first
terms of it, however the calls cut them into batches and whatever happens in between.
-/

namespace BatchBayes

namespace Designer

section Runs

variable {K : Type} [Scalar K] [DecimalText K]

/-! ## Seeds of a run -/

/-- The number of seeds that a call asks for. -/
def seedsAsked (designer : Designer K) : Call K → Nat
  | .suggest count => if designer.isSeeding then count else 0
  | _ => 0

/-- The seeds that a call suggests. -/
def seedsSuggested (designer : Designer K) : Call K → List (Suggestion K)
  | .suggest count =>
      if designer.isSeeding then
        match (designer.suggest count).1 with
        | .ok suggestions => suggestions
        | .error _ => []
      else []
  | _ => []

def allSeedsAsked (designer : Designer K) : List (Call K) → Nat
  | [] => 0
  | call :: calls =>
      designer.seedsAsked call + (designer.after call).allSeedsAsked calls

def allSeedsSuggested (designer : Designer K) :
    List (Call K) → List (Suggestion K)
  | [] => []
  | call :: calls =>
      designer.seedsSuggested call ++ (designer.after call).allSeedsSuggested calls

def KeepsSeeder : Call K → Prop
  | .replaceSeeder _ => False
  | _ => True

/-! ## Steps -/

/-- What a call leaves in place of the seeder and its requests. A call for seeds enters
its request, whether the seeds are suggested or not, and no other call asks the
seeder. -/
theorem seeder_after (designer : Designer K) {call : Call K} (keeps : KeepsSeeder call) :
    (designer.after call).problem = designer.problem ∧
      (designer.after call).seeder = designer.seeder ∧
      Seeder.pointsAsked (designer.after call).seedRequests =
        Seeder.pointsAsked designer.seedRequests + designer.seedsAsked call := by
  refine ⟨(designer.after_setup call).1, ?_⟩
  cases call with
  | update completed active =>
      rw [after]
      rcases designer.update_cases completed active with
        ⟨id, message, refused⟩ | ⟨added, ledger, key, ensemble, _, _, changes, _⟩
      · rw [refused]
        exact ⟨rfl, rfl⟩
      · rw [changes]
        exact ⟨rfl, rfl⟩
  | suggest count =>
      rw [after, seedsAsked]
      by_cases zero : count = 0
      · subst zero
        rw [suggest, if_pos rfl, ite_self]
        exact ⟨rfl, rfl⟩
      · cases seeding : designer.isSeeding with
        | true =>
            rw [suggest_of_isSeeding seeding zero, if_pos rfl]
            obtain ⟨used, kept, entered⟩ := designer.suggestSeeds_changes count
            rw [entered]
            exact ⟨rfl, Nat.add_comm _ _⟩
        | false =>
            obtain ⟨key, ensemble,
              ⟨failure, _, failed⟩ | ⟨suggestions, _, suggested⟩⟩ :=
              suggest_cases seeding zero
            · rw [failed]
              exact ⟨rfl, rfl⟩
            · rw [suggested]
              exact ⟨rfl, rfl⟩
  | replaceSeeder seeder => exact keeps.elim
  | replaceTuner tuner => exact ⟨rfl, rfl⟩
  | replaceMaximizer maximizer => exact ⟨rfl, rfl⟩
  | replacePadding padding => exact ⟨rfl, rfl⟩

variable {designer : Designer K} {sequence : Nat → Assignment K}

theorem seedsSuggested_eq (serves : designer.seeder.Serves designer.problem.space)
    (streams : designer.seeder.Streams sequence) (call : Call K) :
    designer.seedsSuggested call =
      (List.range' (Seeder.pointsAsked designer.seedRequests)
        (designer.seedsAsked call)).map fun index => .ofAssignment (sequence index) := by
  cases call with
  | suggest count =>
      rw [seedsSuggested, seedsAsked]
      cases seeding : designer.isSeeding with
      | false => rfl
      | true =>
          rw [if_pos rfl, if_pos rfl]
          by_cases zero : count = 0
          · subst zero
            rw [suggest, if_pos rfl]
            rfl
          · obtain ⟨used, kept, suggested⟩ := exists_suggestSeeds serves count
            rw [suggest_of_isSeeding seeding zero, suggested, streams]
            simp [Function.comp_def]
  | update completed active => rfl
  | replaceSeeder seeder => rfl
  | replaceTuner tuner => rfl
  | replaceMaximizer maximizer => rfl
  | replacePadding padding => rfl

/-! ## Runs -/

/-- The seeds of a run are the terms that follow those asked for before it. -/
theorem allSeedsSuggested_eq (serves : designer.seeder.Serves designer.problem.space)
    (streams : designer.seeder.Streams sequence) {calls : List (Call K)}
    (keeps : ∀ call ∈ calls, KeepsSeeder call) :
    designer.allSeedsSuggested calls =
      (List.range' (Seeder.pointsAsked designer.seedRequests)
        (designer.allSeedsAsked calls)).map
          fun index => .ofAssignment (sequence index) := by
  -- What has been asked for is the place in the sequence that each call goes on from.
  induction calls generalizing designer with
  | nil => rfl
  | cons call calls inductionHypothesis =>
      obtain ⟨problem, seeder, asked⟩ :=
        designer.seeder_after (keeps call List.mem_cons_self)
      have head := seedsSuggested_eq serves streams call
      rw [← seeder] at streams
      rw [← seeder, ← problem] at serves
      have tail :=
        inductionHypothesis serves streams fun other member =>
          keeps other (List.mem_cons_of_mem call member)
      rw [allSeedsSuggested, allSeedsAsked, head, tail, asked, ← List.map_append,
        List.range'_append_1]

end Runs

/-- Over a space without defect whose names differ, the seeds of every run are the first
terms of one sequence, as many as the run asked for. They do not depend on how many were
asked for at a time, on the keys that were drawn, or on the updates and batches in
between. With the seeder that a designer is created with they are the middle of the
space and the moved points of the low-discrepancy sequence; with a grid of the space
they are its points over and over again. -/
theorem seeds_form_one_stream {start : Designer ℝ}
    (sound : start.problem.space.defect? = none)
    (distinct : start.problem.space.names.Nodup) (fresh : start.seedRequests = [])
    {calls : List (Call ℝ)} (keeps : ∀ call ∈ calls, KeepsSeeder call) :
    (∀ key,
      start.seeder = .quasiRandom start.problem.space key →
      start.allSeedsSuggested calls =
        (List.range (start.allSeedsAsked calls)).map fun index =>
          .ofAssignment (Seeder.quasiRandomPoint start.problem.space key index)) ∧
    ∀ steps,
      Seeder.gridPoints start.problem.space steps ≠ [] →
      start.seeder = .grid start.problem.space steps →
      start.allSeedsSuggested calls =
        (List.range (start.allSeedsAsked calls)).map fun index =>
          .ofAssignment (Seeder.gridPoint start.problem.space steps index) := by
  have coherent := Space.coherent_of_nodup distinct
  have stream : ∀ sequence,
      start.seeder.Serves start.problem.space →
      start.seeder.Streams sequence →
      start.allSeedsSuggested calls =
        (List.range (start.allSeedsAsked calls)).map fun index =>
          .ofAssignment (sequence index) := by
    intro sequence serves streams
    rw [allSeedsSuggested_eq serves streams keeps, fresh, List.range_eq_range']
    rfl
  constructor
  · intro key seeder
    apply stream
    · rw [seeder]
      exact Seeder.quasiRandom_serves sound coherent key
    · rw [seeder]
      exact Seeder.quasiRandom_streams _ key
  · intro steps nonempty seeder
    apply stream
    · rw [seeder]
      exact Seeder.grid_serves sound coherent steps
    · rw [seeder]
      exact Seeder.grid_streams nonempty

/-! ## A run that seeds twice -/

section Unit

/-- A designer of the unit interval with the standard settings that knows of trials
under way only. -/
structure Waiting (designer : Designer ℝ) (count : Nat) : Prop where
  problem : designer.problem = unitProblem
  configuration : designer.configuration = .standard
  completed : designer.ledger.completed = .empty
  active : designer.ledger.active.length = count

namespace Waiting

variable {designer : Designer ℝ} {count : Nat}

theorem isSeeding_eq (waiting : designer.Waiting count) :
    designer.isSeeding = decide (count = 0) := by
  have known : designer.ledger.numKnown = count := by
    rw [Ledger.numKnown, Ledger.numCompleted, waiting.completed, Ledger.numActive,
      waiting.active]
    exact Nat.zero_add count
  have one : (Configuration.standard : Configuration ℝ).seedTrials.toNat = 1 := rfl
  rw [isSeeding, known, waiting.configuration, one]
  exact decide_eq_decide.2 Nat.lt_one_iff

theorem suggest (waiting : designer.Waiting count) (asked : Nat) :
    (designer.after (.suggest asked)).Waiting count := by
  obtain ⟨problem, _, configuration⟩ := designer.after_setup (.suggest asked)
  have trials :
      (designer.after (.suggest asked)).ledger.completed = designer.ledger.completed ∧
        (designer.after (.suggest asked)).ledger.active = designer.ledger.active := by
    obtain ⟨_, _, _, ledger, changes, marked⟩ := designer.suggest_changes asked
    rw [after, changes]
    rcases marked with ⟨_, rfl⟩ | ⟨_, rfl⟩
    · exact ⟨rfl, rfl⟩
    · exact ⟨rfl, rfl⟩
  exact ⟨problem.trans waiting.problem, configuration.trans waiting.configuration,
    trials.1.trans waiting.completed,
    (congrArg List.length trials.2).trans waiting.active⟩

theorem update (waiting : designer.Waiting count) (active : List (Trial ℝ))
    (inside : ∀ trial ∈ active, unitSpace.violation? trial.assignment = none) :
    (designer.after (.update [] active)).Waiting active.length := by
  obtain ⟨problem, _, configuration⟩ := designer.after_setup (.update [] active)
  have placed : designer.misplaced? ([] ++ active) = none := by
    rw [misplaced?_eq_none_iff, waiting.problem]
    exact inside
  have recorded :
      designer.ledger.record designer.metric [] active =
        .ok (0, { designer.ledger with active }) := rfl
  obtain ⟨_, _, changes⟩ :=
    ({ designer with
        ledger := { designer.ledger with active }, ensemble := none } :
          Designer ℝ).settle_changes
  have books :
      (designer.after (.update [] active)).ledger = { designer.ledger with active } := by
    rw [after, update_of_entered placed recorded, changes]
  refine ⟨problem.trans waiting.problem, configuration.trans waiting.configuration,
    ?_, ?_⟩
  · rw [books]
    exact waiting.completed
  · rw [books]

end Waiting

/-- Calls that ask for seeds, for a batch while a trial is under way, and for seeds
again once it is gone. -/
noncomputable def seedingTwice : List (Call ℝ) :=
  [.suggest 2, .suggest 0, .update [] [startedTrial], .suggest 1, .update [] [],
    .suggest 3]

theorem allSeedsAsked_seedingTwice {start : Designer ℝ} (waiting : start.Waiting 0) :
    start.allSeedsAsked seedingTwice = 5 := by
  have asked := waiting.suggest 2
  have refused := asked.suggest 0
  have underWay : Waiting _ 1 :=
    refused.update [startedTrial] fun trial member =>
      List.mem_singleton.1 member ▸ violation?_startTrial
  have chosen := underWay.suggest 1
  have gone : Waiting _ 0 := chosen.update [] fun _ member => nomatch member
  simp [seedingTwice, allSeedsAsked, seedsAsked, waiting.isSeeding_eq,
    asked.isSeeding_eq, underWay.isSeeding_eq, gone.isSeeding_eq]

theorem seeds_form_one_stream_seeding_twice :
    ∃ start : Designer ℝ,
      create unitProblem .standard = .ok start ∧
        start.problem.space.defect? = none ∧ start.problem.space.names.Nodup ∧
        start.seedRequests = [] ∧ (∀ call ∈ seedingTwice, KeepsSeeder call) ∧
        start.seeder =
          .quasiRandom unitSpace (Key.ofSeed (0 : UInt64)).split.2 ∧
        start.allSeedsSuggested seedingTwice =
          (List.range 5).map fun index =>
            .ofAssignment
              (Seeder.quasiRandomPoint unitSpace (Key.ofSeed (0 : UInt64)).split.2
                index) := by
  have objective :
      unitProblem.objective = .ok ⟨"y", .maximize, none, none⟩ := rfl
  obtain ⟨start, created, _, _, configuration, ledger, _⟩ :=
    exists_create Configuration.validate_standard objective defect?_unitSpace
  obtain ⟨problem, seeder, fresh⟩ := seeder_of_create created
  have space : start.problem.space = unitSpace := congrArg (·.space) problem
  have sound : start.problem.space.defect? = none := by
    rw [space]
    exact defect?_unitSpace
  have distinct : start.problem.space.names.Nodup := by
    rw [space]
    exact List.nodup_singleton "x"
  have keeps : ∀ call ∈ seedingTwice, KeepsSeeder (call : Call ℝ) := by
    simp [seedingTwice, KeepsSeeder]
  have waiting : start.Waiting 0 := by
    refine ⟨problem, configuration, ?_, ?_⟩
    · rw [ledger]
      rfl
    · rw [ledger]
      rfl
  have seed : (Configuration.standard : Configuration ℝ).seed = 0 := rfl
  rw [seed] at seeder
  have stream :=
    (seeds_form_one_stream sound distinct fresh keeps).1 _
      (seeder.trans (by rw [space]; rfl))
  rw [allSeedsAsked_seedingTwice waiting, space] at stream
  exact ⟨start, created, sound, distinct, fresh, keeps, seeder, stream⟩

end Unit

end Designer

end BatchBayes
