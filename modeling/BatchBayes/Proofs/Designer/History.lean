import BatchBayes.Proofs.Designer.Run
import BatchBayes.Proofs.Study.Ledger
import Mathlib.Data.List.Induction
/-!
What a designer knows of its own past. The books count completed trials and how
many of them a batch has looked at, and this tells whether a trial was completed
for the first time since the last batch.
-/

namespace BatchBayes

namespace Designer

variable {K : Type} [Scalar K] [DecimalText K]

/-! ## Events of a run -/

/-- The ids of the completed trials that a call enters: those of an update that is
not refused, whether or not a model is found afterwards. -/
def delivers (designer : Designer K) : Call K → List UInt64
  | .update completed active =>
      match (designer.update completed active).1 with
      | .error (.invalidTrial _ _) => []
      | _ => completed.map (·.id)
  | _ => []

/-- The ids that a run enters. -/
def delivered (designer : Designer K) : List (Call K) → List UInt64
  | [] => []
  | call :: calls => designer.delivers call ++ (designer.after call).delivered calls

/-- Whether no call of a run suggests a batch past the seeds. -/
def WithoutBatch (designer : Designer K) : List (Call K) → Prop
  | [] => True
  | call :: calls =>
      ¬ designer.SuggestsBatch call ∧ (designer.after call).WithoutBatch calls

/-- Whether a call of the run entered an id that no earlier call had, and no later
call suggested a batch past the seeds. -/
def NewlyCompleted (start : Designer K) (calls : List (Call K)) : Prop :=
  ∃ earlier call later,
    calls = earlier ++ call :: later ∧
      (∃ id ∈ (start.afterAll earlier).delivers call, id ∉ start.delivered earlier) ∧
      (start.afterAll (earlier ++ [call])).WithoutBatch later

/-! ## One more call -/

variable (designer start : Designer K)

theorem delivered_concat (calls : List (Call K)) (call : Call K) :
    designer.delivered (calls ++ [call]) =
      designer.delivered calls ++ (designer.afterAll calls).delivers call := by
  induction calls generalizing designer with
  | nil => simp [delivered, afterAll]
  | cons first calls inductionHypothesis =>
      rw [List.cons_append, delivered, inductionHypothesis, delivered,
        List.append_assoc]
      rfl

theorem withoutBatch_concat (calls : List (Call K)) (call : Call K) :
    designer.WithoutBatch (calls ++ [call]) ↔
      designer.WithoutBatch calls ∧
        ¬ (designer.afterAll calls).SuggestsBatch call := by
  induction calls generalizing designer with
  | nil => simp [WithoutBatch, afterAll]
  | cons first calls inductionHypothesis =>
      rw [List.cons_append, WithoutBatch, inductionHypothesis, WithoutBatch,
        and_assoc]
      rfl

theorem newlyCompleted_concat (calls : List (Call K)) (call : Call K) :
    start.NewlyCompleted (calls ++ [call]) ↔
      (∃ id ∈ (start.afterAll calls).delivers call, id ∉ start.delivered calls) ∨
        (start.NewlyCompleted calls ∧
          ¬ (start.afterAll calls).SuggestsBatch call) := by
  constructor
  · rintro ⟨earlier, entering, later, split, entered, quiet⟩
    -- The new call is the entering one, or it ends the calls after that one.
    rcases List.eq_nil_or_concat later with rfl | ⟨later, last, rfl⟩
    · obtain ⟨rfl, same⟩ := List.append_inj' split rfl
      obtain rfl := List.singleton_inj.1 same
      exact .inl entered
    · rw [List.concat_eq_append] at split quiet
      rw [← List.cons_append, ← List.append_assoc] at split
      obtain ⟨rfl, same⟩ := List.append_inj' split rfl
      obtain rfl := List.singleton_inj.1 same
      rw [withoutBatch_concat] at quiet
      rw [← afterAll_append, List.append_assoc, List.singleton_append] at quiet
      exact .inr ⟨⟨earlier, entering, later, rfl, entered, quiet.1⟩, quiet.2⟩
  · rintro (entered | ⟨⟨earlier, entering, later, rfl, entered, quiet⟩, batchless⟩)
    · exact ⟨calls, call, [], rfl, entered, trivial⟩
    · refine ⟨earlier, entering, later ++ [call], by simp, entered, ?_⟩
      rw [withoutBatch_concat, ← afterAll_append, List.append_assoc,
        List.singleton_append]
      exact ⟨quiet, batchless⟩

/-- A call that suggests a batch marks the books, and any other call enters just
what it delivers. -/
theorem ledger_after (call : Call K) :
    (designer.SuggestsBatch call ∧ designer.delivers call = [] ∧
        (designer.after call).ledger = designer.ledger.markSeen) ∨
      (¬ designer.SuggestsBatch call ∧
        Ledger.Grown designer.ledger (designer.after call).ledger
          (designer.delivers call)) := by
  cases call with
  | update completed active =>
      refine .inr ⟨id, ?_⟩
      rw [after, delivers]
      rcases designer.update_cases completed active with
        ⟨id, message, refused⟩ |
        ⟨added, ledger, key, ensemble, _, recorded, changes, accepted⟩
      · rw [refused]
        exact .refl designer.ledger
      · rw [changes]
        split
        case h_1 id message refused => exact absurd refused (accepted id message)
        case h_2 => exact (Ledger.entered_of_record recorded).toGrown
  | suggest count =>
      obtain ⟨key, ensemble, seedRequests, ledger, changes, marked⟩ :=
        designer.suggest_changes count
      rw [after, changes]
      rcases marked with ⟨batch, rfl⟩ | ⟨batchless, rfl⟩
      · exact .inl ⟨batch, rfl, rfl⟩
      · exact .inr ⟨batchless, .refl designer.ledger⟩
  | replaceSeeder seeder => exact .inr ⟨id, .refl designer.ledger⟩
  | replaceTuner tuner => exact .inr ⟨id, .refl designer.ledger⟩
  | replaceMaximizer maximizer => exact .inr ⟨id, .refl designer.ledger⟩
  | replacePadding padding => exact .inr ⟨id, .refl designer.ledger⟩

/-! ## Whole runs -/

variable {start}

/-- What the books say of a run that began with empty ones. -/
structure Remembers (start : Designer K) (calls : List (Call K)) : Prop where
  delivered : ∀ id,
    (start.afterAll calls).ledger.completed.contains id = true ↔
      id ∈ start.delivered calls
  seen : (start.afterAll calls).ledger.seen ≤ (start.afterAll calls).ledger.numCompleted
  newlyCompleted :
    (start.afterAll calls).ledger.seen < (start.afterAll calls).ledger.numCompleted ↔
      start.NewlyCompleted calls

theorem remembers_nil (empty : start.ledger = .empty) : start.Remembers [] := by
  have books : (start.afterAll []).ledger = .empty := empty
  refine ⟨fun id => ?_, ?_, ?_⟩
  · rw [books]
    simp [Ledger.empty, Table.contains, Table.find?, Table.empty, Designer.delivered]
  · rw [books]
    exact Nat.le_refl 0
  · rw [books]
    refine ⟨fun below => absurd below (Nat.lt_irrefl 0), ?_⟩
    rintro ⟨earlier, call, later, split, _⟩
    simp at split

theorem Remembers.concat {calls : List (Call K)} (remembers : start.Remembers calls)
    (call : Call K) : start.Remembers (calls ++ [call]) := by
  rcases (start.afterAll calls).ledger_after call with
    ⟨batch, nothing, marked⟩ | ⟨batchless, grown⟩
  · refine ⟨fun id => ?_, ?_, ?_⟩
    · rw [afterAll_concat, marked, delivered_concat, nothing, List.append_nil]
      exact remembers.delivered id
    · rw [afterAll_concat, marked]
      exact Nat.le_refl _
    · rw [afterAll_concat, marked, newlyCompleted_concat, nothing]
      have caughtUp :
          ¬ (start.afterAll calls).ledger.markSeen.seen <
            (start.afterAll calls).ledger.markSeen.numCompleted :=
        Nat.lt_irrefl _
      simp [caughtUp, batch]
  · have new :
        (∃ id ∈ (start.afterAll calls).delivers call, id ∉ start.delivered calls) ↔
          ∃ id ∈ (start.afterAll calls).delivers call,
            (start.afterAll calls).ledger.completed.contains id = false := by
      simp only [← remembers.delivered, Bool.not_eq_true]
    -- A batch last looked at no more trials than are known, so that the books are
    -- ahead of it where they were before or where this call makes them grow.
    have order := remembers.seen
    have seen := grown.seen
    have grows := grown.grows
    refine ⟨fun id => ?_, ?_, ?_⟩
    · rw [afterAll_concat, delivered_concat, List.mem_append, grown.contains,
        remembers.delivered]
    · rw [afterAll_concat]
      omega
    · rw [afterAll_concat, newlyCompleted_concat, new, ← grown.new,
        ← remembers.newlyCompleted]
      simp only [batchless, not_false_eq_true, and_true]
      omega

theorem remembers (empty : start.ledger = .empty) (calls : List (Call K)) :
    start.Remembers calls := by
  induction calls using List.reverseRecOn with
  | nil => exact remembers_nil empty
  | append_singleton calls call inductionHypothesis =>
      exact inductionHypothesis.concat call

/-- The books of a run tell whether a trial was newly completed since its last
batch. -/
theorem hasUnseen_iff (empty : start.ledger = .empty) (calls : List (Call K)) :
    (start.afterAll calls).ledger.hasUnseen = true ↔ start.NewlyCompleted calls := by
  rw [Ledger.hasUnseen, decide_eq_true_iff]
  exact (remembers empty calls).newlyCompleted

end Designer

end BatchBayes
