import BatchBayes.Proofs.Designer.Complete
import BatchBayes.Proofs.Designer.Correspondence
import BatchBayes.Proofs.Study.Best
/-!
The order in which an update lists its completed trials does not matter. Trials are kept
by id, so the books differ at most in which of several equally good trials is the best
one, and no suggestion depends on that.
-/

namespace BatchBayes

variable {K : Type} [Scalar K]

/-! ## Deliveries in another order -/

namespace Ledger

variable {metric : Metric K} {ledger : Ledger K}
  {completed reordered active : List (Trial K)}

omit [Scalar K] in
/-- Of trials with different ids each one is found. -/
theorem find?_id_eq_some_iff (distinct : (completed.map (·.id)).Nodup) {id : UInt64}
    {trial : Trial K} :
    completed.find? (·.id == id) = some trial ↔ trial ∈ completed ∧ trial.id = id := by
  constructor
  · intro found
    exact ⟨List.mem_of_find?_eq_some found, by simpa using List.find?_some found⟩
  · rintro ⟨member, rfl⟩
    induction completed with
    | nil => cases member
    | cons first rest inductionHypothesis =>
        rw [List.map_cons, List.nodup_cons] at distinct
        rcases List.mem_cons.1 member with rfl | later
        · exact List.find?_cons_of_pos (by simp)
        · have different : first.id ≠ trial.id := by
            intro same
            exact distinct.1 (same ▸ List.mem_map_of_mem later)
          rw [List.find?_cons_of_neg (by simpa using different)]
          exact inductionHypothesis distinct.2 later

omit [Scalar K] in
theorem find?_id_perm (permuted : completed.Perm reordered)
    (distinct : (completed.map (·.id)).Nodup) (id : UInt64) :
    reordered.find? (·.id == id) = completed.find? (·.id == id) := by
  have alsoDistinct : (reordered.map (·.id)).Nodup :=
    (permuted.map (·.id)).nodup_iff.1 distinct
  ext trial
  rw [find?_id_eq_some_iff distinct, find?_id_eq_some_iff alsoDistinct,
    permuted.mem_iff]

/-- Books that take the same trials in another order differ in their best entry at
most. -/
theorem record_perm (permuted : completed.Perm reordered)
    (distinct : (completed.map (·.id)).Nodup) :
    ((∃ id message,
        ledger.record metric completed active = .error (.invalidTrial id message)) ∧
      ∃ id message,
        ledger.record metric reordered active = .error (.invalidTrial id message)) ∨
    ∃ added otherAdded next best,
      ledger.record metric completed active = .ok (added, next) ∧
        ledger.record metric reordered active =
          .ok (otherAdded, { next with best }) := by
  rcases record_cases metric ledger completed active with
    ⟨⟨trial, member, unfinished⟩, refused⟩ | ⟨finished, recorded⟩
  · exact .inl ⟨refused, record_of_unfinished (permuted.mem_iff.1 member) unfinished⟩
  · have alsoFinished : ∀ trial ∈ reordered, trial.isCompleted = true :=
      fun trial member => finished trial (permuted.mem_iff.2 member)
    -- In either order the one trial of each new id is stored.
    have sameCompleted :
        (reordered.foldl (enter metric) (0, ledger)).2.completed =
          (completed.foldl (enter metric) (0, ledger)).2.completed := by
      apply Table.ext_find?
      intro id
      rw [find?_foldl_enter, find?_foldl_enter, find?_id_perm permuted distinct]
    have sameSeen :
        (reordered.foldl (enter metric) (0, ledger)).2.seen =
          (completed.foldl (enter metric) (0, ledger)).2.seen := by
      rw [seen_foldl_enter, seen_foldl_enter]
    refine .inr ⟨_, (reordered.foldl (enter metric) (0, ledger)).1, _,
      (reordered.foldl (enter metric) (0, ledger)).2.best, recorded, ?_⟩
    rw [record_of_completed alsoFinished]
    dsimp only
    rw [sameCompleted, sameSeen]

end Ledger

/-- Every trial stands for itself, and for the best entries nothing is asked. -/
def Correspondence.exceptBest : Correspondence K where
  completed first second := second = first
  active first second := second = first
  best _ _ := True

theorem Correspondence.faithful_exceptBest (space : Space K) (metric : Metric K) :
    (exceptBest : Correspondence K).Faithful space metric metric where
  id same := by rw [same]
  isCompleted same := by rw [same]
  values same := by
    rw [same]
    exact fun _ _ => rfl
  oriented same := by rw [same]
  activeValues same := by
    rw [same]
    exact fun _ _ => rfl
  betterOf _ _ := trivial

omit [Scalar K] in
theorem Correspondence.books_exceptBest (ledger : Ledger K)
    (best : Option (UInt64 × K)) :
    (exceptBest : Correspondence K).Books ledger { ledger with best } where
  completed := List.forall₂_same.2 fun _ _ => ⟨rfl, rfl⟩
  active := List.forall₂_same.2 fun _ _ => rfl
  best := trivial
  seen := rfl

omit [Scalar K] in
theorem Correspondence.keepsActiveIds_exceptBest :
    (exceptBest : Correspondence K).KeepsActiveIds := by
  intro first second same
  rw [same]

namespace Designer

variable [DecimalText K]

/-! ## The best entry of reachable books -/

/-- The best entry of the books is the best of the completed trials. -/
theorem Reachable.crowned [NormalSource K] [OrderedScalar K] {designer : Designer K}
    (reachable : designer.Reachable) :
    designer.ledger.Crowned designer.metric := by
  refine reachable.ledger_induction (Ledger.crowned_empty _) ?_ ?_
  · exact fun ledger crowned => crowned.markSeen
  · intro ledger next completed active added _ recorded crowned
    exact crowned.record recorded

/-! ## Updates in another order -/

/-- The designer with another best entry in its books. -/
def withBest (designer : Designer K) (best : Option (UInt64 × K)) : Designer K :=
  { designer with ledger := { designer.ledger with best } }

/-- Two calls came to the same, apart from the reasons of a refusal and from which of
equally good trials is the best. -/
structure SameButBest (first second : Except Failure Unit × Designer K) : Prop where
  outcome :
    (first.1 = .ok () ∧ second.1 = .ok ()) ∨
      (∃ id message other otherMessage,
        first.1 = .error (.invalidTrial id message) ∧
          second.1 = .error (.invalidTrial other otherMessage)) ∨
      ∃ error, first.1 = .error (.modelFit error) ∧ second.1 = .error (.modelFit error)
  designer : ∃ best, second.2 = first.2.withBest best
  best :
    Option.Rel (fun value other => (value == other) = true)
      (first.2.ledger.bestObjective? first.2.metric)
      (second.2.ledger.bestObjective? second.2.metric)
  /-- Calls that follow have the same outcomes. -/
  later : ∀ calls,
    (second.2.replies calls).map (·.outcome) = (first.2.replies calls).map (·.outcome)

variable {designer : Designer K}

theorem replies_exceptBest (designer : Designer K) (best : Option (UInt64 × K))
    (calls : List (Call K)) :
    ((designer.withBest best).replies calls).map (·.outcome) =
      (designer.replies calls).map (·.outcome) := by
  have corresponds :
      Corresponds .exceptBest designer
        (designer.withStudy designer.problem.metrics designer.metric
          { designer.ledger with best }) :=
    .intro (Correspondence.faithful_exceptBest _ _) (Correspondence.books_exceptBest _ _)
  have same :
      List.Forall₂ (Call.Matches (.exceptBest : Correspondence K)) calls calls :=
    List.forall₂_same.2 fun call _ =>
      call.matches_self (fun _ => rfl) (fun _ => rfl)
  exact (map_eq_of_forall₂ (corresponds.replies same) fun reply other alike =>
    (alike.outcome.eq Correspondence.keepsActiveIds_exceptBest).symm).symm

theorem settle_exceptBest (designer : Designer K) (best : Option (UInt64 × K)) :
    (designer.withBest best).settle =
      (designer.settle.1, designer.settle.2.withBest best) := by
  have settled :
      (designer.withStudy designer.problem.metrics designer.metric
        { designer.ledger with best }).settle = _ :=
    settle_withStudy (Correspondence.faithful_exceptBest _ _)
      (Correspondence.books_exceptBest _ _)
  obtain ⟨key, ensemble, changes⟩ := designer.settle_changes
  rw [changes] at settled ⊢
  exact settled

variable [OrderedScalar K]

theorem sameButBest_refused (crowned : designer.ledger.Crowned designer.metric)
    (id other : UInt64) (message otherMessage : String) :
    SameButBest (.error (.invalidTrial id message), designer)
      (.error (.invalidTrial other otherMessage), designer) where
  outcome := .inr (.inl ⟨id, message, other, otherMessage, rfl, rfl⟩)
  designer := ⟨designer.ledger.best, rfl⟩
  best := crowned.rel_bestObjective? crowned rfl
  later _ := rfl

theorem sameButBest_settle (sound : designer.Sound)
    (crowned : designer.ledger.Crowned designer.metric) {best : Option (UInt64 × K)}
    (otherCrowned :
      ({ designer.ledger with best } : Ledger K).Crowned designer.metric) :
    SameButBest designer.settle (designer.withBest best).settle := by
  rw [settle_exceptBest]
  refine ⟨?_, ⟨best, rfl⟩, ?_, replies_exceptBest _ best⟩
  · cases outcome : designer.settle.1 with
    | ok _ => exact .inl ⟨rfl, rfl⟩
    | error failure =>
        obtain ⟨error, rfl⟩ := sound.refit_failure (refit_of_settle outcome).1
        exact .inr (.inr ⟨error, rfl, rfl⟩)
  · obtain ⟨key, ensemble, changes⟩ := designer.settle_changes
    rw [changes]
    exact crowned.rel_bestObjective? otherCrowned rfl

/-- An update that lists its completed trials in another order, where no two have one
id, succeeds, is refused or finds no model as the update does. The designer after it is
the same, but for the best trial where several are equally good: the best objective is
equal, and all calls that follow have the same outcomes. -/
theorem update_perm [NormalSource K] (reachable : designer.Reachable)
    {completed reordered : List (Trial K)} (permuted : completed.Perm reordered)
    (distinct : (completed.map (·.id)).Nodup) (active : List (Trial K)) :
    SameButBest (designer.update completed active)
      (designer.update reordered active) := by
  have crowned := reachable.crowned
  have inside :
      designer.misplaced? (reordered ++ active) = none ↔
        designer.misplaced? (completed ++ active) = none := by
    rw [misplaced?_eq_none_iff, misplaced?_eq_none_iff]
    simp only [(permuted.append_right active).mem_iff]
  cases first : designer.misplaced? (completed ++ active) with
  | some failure =>
      cases second : designer.misplaced? (reordered ++ active) with
      | none => simp [first, second] at inside
      | some other =>
          obtain ⟨id, message, rfl⟩ := invalidTrial_of_misplaced first
          obtain ⟨otherId, otherMessage, rfl⟩ := invalidTrial_of_misplaced second
          rw [update_of_misplaced first, update_of_misplaced second]
          exact sameButBest_refused crowned id otherId message otherMessage
  | none =>
      have second := inside.2 first
      rcases Ledger.record_perm permuted distinct with
        ⟨⟨id, message, refused⟩, otherId, otherMessage, otherRefused⟩ |
        ⟨added, otherAdded, next, best, recorded, otherRecorded⟩
      · rw [update_of_refused first refused, update_of_refused second otherRefused]
        exact sameButBest_refused crowned id otherId message otherMessage
      · rw [update_of_entered first recorded, update_of_entered second otherRecorded]
        have entered :
            ({ designer with ledger := next, ensemble := none } : Designer K).Sound :=
          reachable.sound.of_entered first recorded
        exact sameButBest_settle entered (crowned.record recorded)
          (crowned.record otherRecorded)

/-- A trial as good as the one at the start of the interval. -/
noncomputable def equalTrial : Trial ℝ :=
  { startTrial with id := 2 }

theorem update_perm_of_equal_trials :
    ∃ start : Designer ℝ,
      create unitProblem .standard = .ok start ∧ start.Reachable ∧
        [startTrial, equalTrial].Perm [equalTrial, startTrial] ∧
        ([startTrial, equalTrial].map (·.id)).Nodup ∧
        SameButBest (start.update [startTrial, equalTrial] [])
          (start.update [equalTrial, startTrial] []) := by
  obtain ⟨start, _, _, created, _⟩ := exists_unit_update
  have permuted : [startTrial, equalTrial].Perm [equalTrial, startTrial] :=
    .swap equalTrial startTrial []
  have distinct : ([startTrial, equalTrial].map (·.id)).Nodup := by
    change [(1 : UInt64), 2].Nodup
    decide
  exact ⟨start, created, .created created, permuted, distinct,
    update_perm (.created created) permuted distinct []⟩

end Designer

end BatchBayes
