import Mathlib
import BatchBayes.Proofs.Designer.Batches
import BatchBayes.Proofs.Space.Inside
import BatchBayes.Proofs.Study.Decision
/-!
A batch past the seeds is complete. Every trial in the books has features, every
chosen point stands for an assignment inside the space, and the slots add up to the
size that was asked for, so that only the search for a model can fail.
-/

namespace BatchBayes

/-! ## Trials in the books -/

section Books

variable {K : Type} [Scalar K] [DecimalText K]

/-- The trials in the books lie inside a space. -/
structure Ledger.Inside (space : Space K) (ledger : Ledger K) : Prop where
  completed : ∀ trial ∈ ledger.completed.items,
    space.violation? trial.assignment = none
  active : ∀ trial ∈ ledger.active, space.violation? trial.assignment = none

theorem Ledger.inside_empty (space : Space K) : (empty : Ledger K).Inside space :=
  ⟨fun _ member => (nomatch member), fun _ member => (nomatch member)⟩

theorem Ledger.Inside.record {space : Space K} {metric : Metric K}
    {ledger next : Ledger K} (books : ledger.Inside space)
    {completed active : List (Trial K)} {added : Nat}
    (inside : ∀ trial ∈ completed ++ active, space.violation? trial.assignment = none)
    (recorded : ledger.record metric completed active = .ok (added, next)) :
    next.Inside space := by
  have entered := entered_of_record recorded
  refine ⟨fun trial member => ?_, fun trial member => ?_⟩
  · rcases entered.items trial member with old | new
    · exact books.completed trial old
    · exact inside trial (List.mem_append_left active new)
  · rw [entered.active] at member
    exact inside trial (List.mem_append_right completed member)

namespace Designer

variable {designer : Designer K}

/-- The space is without defect, and the trials in the books lie inside it. -/
structure Sound (designer : Designer K) : Prop
    extends designer.ledger.Inside designer.problem.space where
  space : designer.problem.space.defect? = none

theorem Reachable.defect?_eq_none [NormalSource K] (reachable : designer.Reachable) :
    designer.problem.space.defect? = none := by
  induction reachable with
  | created success => exact (create_eq_ok success).1
  | @called designer call _ inductionHypothesis =>
      rw [(designer.after_setup call).1]
      exact inductionHypothesis

theorem Reachable.sound [NormalSource K] (reachable : designer.Reachable) :
    designer.Sound := by
  have books : designer.ledger.Inside designer.problem.space := by
    refine reachable.ledger_induction (Ledger.inside_empty _) ?_ ?_
    · exact fun ledger books => ⟨books.completed, books.active⟩
    · intro ledger next completed active added inside recorded books
      exact books.record inside recorded
  exact ⟨books, reachable.defect?_eq_none⟩

/-- An update that is not refused enters trials inside the space. -/
theorem Sound.of_entered (sound : designer.Sound) {completed active : List (Trial K)}
    {ledger : Ledger K} {added : Nat}
    (inside : designer.misplaced? (completed ++ active) = none)
    (recorded : designer.ledger.record designer.metric completed active =
      .ok (added, ledger)) :
    ({ designer with ledger, ensemble := none } : Designer K).Sound :=
  ⟨sound.toInside.record (misplaced?_eq_none_iff.1 inside) recorded, sound.space⟩

end Designer

end Books

namespace Designer

/-! ## Models -/

section Models

variable {K : Type} [Scalar K] [OrderedScalar K] [DecimalText K]
  {designer : Designer K}

theorem exists_features (sound : designer.problem.space.defect? = none)
    {trials : List (Trial K)}
    (inside : ∀ trial ∈ trials,
      designer.problem.space.violation? trial.assignment = none) :
    ∃ points, designer.features trials = .ok points :=
  exists_mapM_eq_ok fun trial member => Space.exists_encode sound (inside trial member)

/-- The trials in the books never keep a model from being found. -/
theorem Sound.refit_failure (sound : designer.Sound) {failure : Failure}
    (failed : designer.refit.1 = .error failure) :
    ∃ error, failure = .modelFit error := by
  obtain ⟨completed, features⟩ := exists_features sound.space sound.completed
  obtain ⟨active, pending⟩ := exists_features sound.space sound.active
  rcases Designer.refit_failure failed with
    modelFit | ⟨error, _, unreadable | unreadable⟩
  · exact modelFit
  · rw [features] at unreadable
    cases unreadable
  · rw [pending] at unreadable
    cases unreadable

/-- An update is refused, or fails for want of a model at most. -/
theorem Sound.update_failure (sound : designer.Sound)
    {completed active : List (Trial K)} {failure : Failure}
    (failed : (designer.update completed active).1 = .error failure) :
    (∃ id message, failure = .invalidTrial id message) ∨
      ∃ error, failure = .modelFit error := by
  rcases designer.update_cases completed active with
    ⟨id, message, refused⟩ | ⟨added, ledger, key, ensemble, inside, recorded, _, _⟩
  · rw [refused] at failed
    exact .inl ⟨id, message, (Except.error.inj failed).symm⟩
  · have entered :
        ({ designer with ledger, ensemble := none } : Designer K).Sound :=
      sound.of_entered inside recorded
    rw [update_of_entered inside recorded] at failed
    exact .inr (entered.refit_failure (refit_of_settle failed).1)

end Models

variable {designer : Designer ℝ}

theorem Sound.ready_failure (sound : designer.Sound) {failure : Failure}
    (failed : designer.ready.1 = .error failure) :
    ∃ error, failure = .modelFit error := by
  rw [ready] at failed
  cases kept : designer.ensemble with
  | some ensemble =>
      rw [kept] at failed
      cases failed
  | none =>
      rw [kept] at failed
      exact sound.refit_failure failed

/-- A model that was found is kept. -/
theorem ensemble_of_ready {K : Type} [Scalar K] [DecimalText K]
    {designer : Designer K} {ensemble : Ensemble K}
    (made : designer.ready.1 = .ok ensemble) :
    designer.ready.2.ensemble = some ensemble := by
  rw [ready] at made ⊢
  cases kept : designer.ensemble with
  | some other =>
      rw [kept] at made
      obtain rfl := Except.ok.inj made
      exact kept
  | none =>
      rw [kept] at made
      dsimp only at made ⊢
      rcases designer.refit_cases with
        ⟨failure, key, refitted⟩ | ⟨_, _, _, key, other, _, _, _, refitted⟩
      · rw [refitted] at made
        cases made
      · rw [refitted] at made ⊢
        obtain rfl := Except.ok.inj made
        rfl

/-! ## Batches -/

/-- What the slots of a batch are: points of the space, as many as were asked for. -/
theorem slots_of_nextSlots {K : Type} [Scalar K] [DecimalText K]
    {designer : Designer K} {count : Nat} {slots : List (Slot K)} {last : Ensemble K}
    (filled : designer.nextSlots count = .ok (slots, last)) :
    slots.length = count ∧
      ∀ slot ∈ slots, slot.features.length = designer.problem.space.dimension := by
  rw [nextSlots] at filled
  split at filled
  case h_1 => cases filled
  case h_2 ensemble _ =>
      refine ⟨Chooser.length_fill filled, fun slot member => ?_⟩
      obtain ⟨point, key, features⟩ := (Chooser.placed_of_fill filled).1 slot member
      rw [features]
      exact Chooser.length_inDomain rfl point key

/-- The suggestion that a slot stands for. -/
def suggestionFrom {K : Type} [Scalar K] [DecimalText K] (designer : Designer K)
    (slot : Slot K) : Suggestion K :=
  ⟨designer.problem.space.decode slot.features,
    slot.decision.write .empty designer.configuration.annotationSpace⟩

theorem suggestionOf_eq (sound : designer.problem.space.defect? = none)
    (distinct : designer.problem.space.names.Nodup) {slot : Slot ℝ}
    (length : slot.features.length = designer.problem.space.dimension) :
    designer.suggestionOf slot = .ok (designer.suggestionFrom slot) := by
  rw [suggestionOf, Space.violation?_decode sound distinct length]
  rfl

/-- The slots of a batch are found, or there is no model. -/
theorem Sound.nextSlots_failure (sound : designer.Sound) {count : Nat}
    {failure : Failure} (failed : designer.nextSlots count = .error failure) :
    ∃ error, failure = .modelFit error := by
  rw [nextSlots] at failed
  split at failed
  case h_1 other unready =>
      obtain rfl := Except.error.inj failed
      exact sound.ready_failure unready
  case h_2 => exact Chooser.fillGroups_failure failed

/-- Past the seeds every slot of a batch becomes a suggestion, and only the search
for a model can fail. -/
theorem Sound.suggest_cases (sound : designer.Sound)
    (distinct : designer.problem.space.names.Nodup)
    (seeded : designer.isSeeding = false) {count : Nat} (positive : count ≠ 0) :
    (∃ error,
      designer.nextSlots count = .error (.modelFit error) ∧
        (designer.suggest count).1 = .error (.modelFit error)) ∨
      ∃ slots last,
        designer.nextSlots count = .ok (slots, last) ∧
          (designer.suggest count).1 = .ok (slots.map designer.suggestionFrom) := by
  have each : ∀ {slots last},
      designer.nextSlots count = .ok (slots, last) →
        slots.length = count ∧
          slots.mapM designer.suggestionOf =
            .ok (slots.map designer.suggestionFrom) := by
    intro slots last filled
    obtain ⟨length, dimension⟩ := slots_of_nextSlots filled
    refine ⟨length, ?_⟩
    rw [mapM_eq_ok_iff, List.forall₂_map_right_iff, List.forall₂_same]
    intro slot member
    exact suggestionOf_eq sound.space distinct (dimension slot member)
  obtain ⟨key, ensemble, ⟨failure, result, failed⟩ | ⟨suggestions, result, suggested⟩⟩ :=
    designer.suggest_cases seeded positive
  · cases result with
    | unfilled unfilled =>
        obtain ⟨error, rfl⟩ := sound.nextSlots_failure unfilled
        exact .inl ⟨error, unfilled, by rw [failed]⟩
    | strayed filled strayed =>
        rw [(each filled).2] at strayed
        cases strayed
    | incomplete filled chosen incomplete =>
        obtain ⟨length, made⟩ := each filled
        rw [made] at chosen
        obtain rfl := Except.ok.inj chosen
        rw [List.length_map] at incomplete
        exact absurd length incomplete
  · cases result with
    | complete filled chosen _ =>
        rw [(each filled).2] at chosen
        obtain rfl := Except.ok.inj chosen
        exact .inr ⟨_, _, filled, by rw [suggested]⟩

/-- With a tuner that searches by restarts no batch fails. -/
theorem exists_suggest {search : RestartSearch ℝ} (consistent : designer.Consistent)
    (sound : designer.Sound) (tuner : designer.tuner = search.tune)
    (distinct : designer.problem.space.names.Nodup)
    (seeded : designer.isSeeding = false) {count : Nat} (positive : count ≠ 0) :
    ∃ slots last,
      designer.nextSlots count = .ok (slots, last) ∧
        (designer.suggest count).1 = .ok (slots.map designer.suggestionFrom) := by
  obtain ⟨completed, features⟩ := exists_features sound.space sound.completed
  obtain ⟨active, pending⟩ := exists_features sound.space sound.active
  have made : ∃ ensemble, designer.ready.1 = .ok ensemble := by
    rw [ready]
    cases designer.ensemble with
    | some ensemble => exact ⟨ensemble, rfl⟩
    | none =>
        obtain ⟨key, ensemble, refitted⟩ := exists_refit tuner features pending
        exact ⟨ensemble, by rw [refitted]⟩
  obtain ⟨ensemble, made⟩ := made
  obtain ⟨conditioned, proper, dimension⟩ :=
    (consistent.fresh_of_ready seeded made).conditioned tuner
  obtain ⟨slots, last, filled⟩ :=
    Chooser.exists_fill (rfl : designer.chooser.domain = _) conditioned proper
      dimension (designer.nextPlan count) designer.fillKey
  have found : designer.nextSlots count = .ok (slots, last) := by
    rw [nextSlots, made]
    exact filled
  rcases sound.suggest_cases distinct seeded positive with
    ⟨error, failed, _⟩ | suggested
  · rw [found] at failed
    cases failed
  · exact suggested

theorem exists_read?_write (decision : Decision ℝ) (annotations : Annotations)
    (space : String) :
    ∃ read : Decision ℝ, Decision.read? (decision.write annotations space) space =
      some read :=
  ⟨⟨⌊decision.mean⌋, ⌊decision.deviation⌋, ⌊decision.deviationFromAll⌋,
      ⌊decision.acquisition⌋, decision.upperBound⟩,
    Decision.read?_write annotations space (ofText?_text _) (ofText?_text _)
      (ofText?_text _) (ofText?_text _) rfl⟩

/-- In exact arithmetic, past the seeds and where no two parameters have one name, a
batch is complete whatever the maximizer finds: it has as many suggestions as were
asked for, each inside the space and with a record that can be read, unless no model
is found. A model that is found is kept, and neither refitting nor an update ever
fails to find the features of the known trials. -/
theorem suggest_complete (reachable : designer.Reachable)
    (distinct : designer.problem.space.names.Nodup)
    (seeded : designer.isSeeding = false) {count : Nat} (positive : 1 ≤ count) :
    ((∃ suggestions,
        (designer.suggest count).1 = .ok suggestions ∧
          suggestions.length = count ∧
          ∀ suggestion ∈ suggestions,
            designer.problem.space.contains suggestion.assignment = true ∧
              ∃ decision : Decision ℝ,
                Decision.read? suggestion.annotations
                  designer.configuration.annotationSpace = some decision) ∨
      ∃ error, (designer.suggest count).1 = .error (.modelFit error)) ∧
    (∀ ensemble,
      designer.ready.1 = .ok ensemble →
        designer.ready.2.ensemble = some ensemble) ∧
    (∀ error, designer.refit.1 ≠ .error (.space error)) ∧
    ∀ completed active error,
      (designer.update completed active).1 ≠ .error (.space error) := by
  have sound := reachable.sound
  refine ⟨?_, fun ensemble => ensemble_of_ready, ?_, ?_⟩
  · rcases sound.suggest_cases distinct seeded (Nat.one_le_iff_ne_zero.1 positive) with
      ⟨error, _, failed⟩ | ⟨slots, last, filled, suggested⟩
    · exact .inr ⟨error, failed⟩
    · obtain ⟨length, dimension⟩ := slots_of_nextSlots filled
      refine .inl ⟨_, suggested, by rw [List.length_map, length], ?_⟩
      intro suggestion member
      obtain ⟨slot, inSlots, rfl⟩ := List.mem_map.1 member
      refine ⟨?_, exists_read?_write slot.decision _ _⟩
      have inside :=
        Space.violation?_decode sound.space distinct (dimension slot inSlots)
      rw [Space.contains, suggestionFrom, inside]
      rfl
  · intro error failed
    obtain ⟨other, same⟩ := sound.refit_failure failed
    cases same
  · intro completed active error failed
    rcases sound.update_failure failed with ⟨_, _, same⟩ | ⟨_, same⟩
    · cases same
    · cases same

/-- A maximizer that always finds two points, one beyond the unit interval and one
without coordinates. -/
noncomputable def strayMaximizer : Maximizer ℝ :=
  ⟨"stray", fun _ _ _ _ => ⟨[[2.0], []], 0, 1⟩⟩

theorem suggest_complete_with_strayMaximizer :
    ∃ (designer : Designer ℝ) (suggestions : List (Suggestion ℝ)),
      designer.Reachable ∧ designer.maximizer = strayMaximizer ∧
        designer.problem.space.names.Nodup ∧ designer.isSeeding = false ∧
        (designer.suggest 3).1 = .ok suggestions ∧ suggestions.length = 3 ∧
        ∀ suggestion ∈ suggestions,
          designer.problem.space.contains suggestion.assignment = true := by
  obtain ⟨first, reachableFirst, space, _, ⟨search, tuner⟩, ensemble, kept⟩ :=
    exists_reachable_with_ensemble
  have reachable : (first.after (.replaceMaximizer strayMaximizer)).Reachable :=
    .called _ reachableFirst
  have distinct :
      (first.after (.replaceMaximizer strayMaximizer)).problem.space.names.Nodup := by
    change first.problem.space.names.Nodup
    rw [space]
    decide
  have seeded :
      (first.after (.replaceMaximizer strayMaximizer)).isSeeding = false :=
    (reachable.consistent.fresh ensemble kept).seeded
  obtain ⟨slots, last, _, suggested⟩ :=
    exists_suggest reachable.consistent reachable.sound tuner distinct seeded
      (by decide : 3 ≠ 0)
  obtain ⟨⟨suggestions, success, length, each⟩ | ⟨error, failed⟩, _⟩ :=
    suggest_complete reachable distinct seeded (by decide : 1 ≤ 3)
  · exact ⟨_, suggestions, reachable, rfl, distinct, seeded, success, length,
      fun suggestion member => (each suggestion member).1⟩
  · rw [suggested] at failed
    cases failed

end Designer

end BatchBayes
