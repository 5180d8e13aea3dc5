import BatchBayes.Proofs.Comparison
import BatchBayes.Proofs.Study.Best
/-!
The books of a study after any deliveries, refused ones included. They hold the first
completed trial of each id and the trials under way of the last delivery that was taken,
and the best trial is the first one entered that no other beats.
-/

namespace BatchBayes

namespace Ledger

variable {K : Type}

/-! ## First arrivals -/

/-- The first trial of each id. -/
def firsts : List (Trial K) → List (Trial K)
  | [] => []
  | trial :: trials => trial :: (firsts trials).filter (·.id != trial.id)

theorem mem_firsts_iff {trials : List (Trial K)} {trial : Trial K} :
    trial ∈ firsts trials ↔ trials.find? (·.id == trial.id) = some trial := by
  induction trials with
  | nil => simp [firsts]
  | cons head trials inductionHypothesis =>
      rw [firsts, List.mem_cons, List.mem_filter, inductionHypothesis, List.find?_cons]
      cases same : head.id == trial.id with
      | true =>
          have equal : head.id = trial.id := beq_iff_eq.1 same
          simp [equal, eq_comm]
      | false =>
          have different : ¬ trial.id = head.id := by
            rintro equal
            simp [equal] at same
          have other : trial ≠ head := by
            rintro rfl
            exact different rfl
          simp [different, other]

theorem nodup_firsts (trials : List (Trial K)) : (firsts trials).Nodup := by
  induction trials with
  | nil => exact List.nodup_nil
  | cons trial trials inductionHypothesis =>
      rw [firsts, List.nodup_cons]
      refine ⟨?_, inductionHypothesis.filter _⟩
      simp [List.mem_filter]

/-- A trial is new just where no earlier one has its id. -/
theorem firsts_concat (trials : List (Trial K)) (trial : Trial K) :
    firsts (trials ++ [trial]) =
      if trial.id ∈ trials.map (·.id) then firsts trials
      else firsts trials ++ [trial] := by
  induction trials with
  | nil => rfl
  | cons head trials inductionHypothesis =>
      rw [List.cons_append, firsts, inductionHypothesis, List.map_cons, firsts]
      by_cases later : trial.id ∈ trials.map (·.id)
      · rw [if_pos later, if_pos (List.mem_cons_of_mem _ later)]
      · rw [if_neg later, List.filter_append]
        by_cases same : trial.id = head.id
        · simp [same]
        · simp [same, later]

/-! ## Deliveries -/

/-- What one call passes to the books. -/
structure Delivery (K : Type) where
  completed : List (Trial K)
  active : List (Trial K)

/-- Whether all trials passed as completed have completed. -/
def Delivery.isProper (delivery : Delivery K) : Bool :=
  delivery.completed.all (·.isCompleted)

/-- The trials that arrive as completed in deliveries that are taken. -/
def arrivals (deliveries : List (Delivery K)) : List (Trial K) :=
  (deliveries.filter (·.isProper)).flatMap (·.completed)

/-- The trials under way in the last delivery that is taken, else those before it. -/
def underWay (before : List (Trial K)) (deliveries : List (Delivery K)) :
    List (Trial K) :=
  ((deliveries.filter (·.isProper)).getLast?.map (·.active)).getD before

theorem underWay_of_proper {delivery : Delivery K} (proper : delivery.isProper = true)
    (before : List (Trial K)) (deliveries : List (Delivery K)) :
    underWay before (delivery :: deliveries) = underWay delivery.active deliveries := by
  rw [underWay, underWay, List.filter_cons_of_pos proper, List.getLast?_cons]
  cases (deliveries.filter (·.isProper)).getLast? <;> rfl

theorem underWay_of_improper {delivery : Delivery K} (improper : delivery.isProper = false)
    (before : List (Trial K)) (deliveries : List (Delivery K)) :
    underWay before (delivery :: deliveries) = underWay before deliveries := by
  rw [underWay, underWay, List.filter_cons_of_neg (by simp [improper])]

/-- The number of trials that an answer reports as new. -/
def newlyKnown : Except Failure Nat → Nat
  | .ok added => added
  | .error _ => 0

variable [Scalar K]

/-- The answer to a delivery and the books after it; a refused delivery leaves them. -/
def deliver (metric : Metric K) (ledger : Ledger K) (delivery : Delivery K) :
    Except Failure Nat × Ledger K :=
  match ledger.record metric delivery.completed delivery.active with
  | .ok (added, next) => (.ok added, next)
  | .error failure => (.error failure, ledger)

/-- The answers to deliveries, one after another, and the books after them. -/
def deliverAll (metric : Metric K) (ledger : Ledger K) :
    List (Delivery K) → List (Except Failure Nat) × Ledger K
  | [] => ([], ledger)
  | delivery :: deliveries =>
      let (answer, next) := ledger.deliver metric delivery
      let (answers, last) := next.deliverAll metric deliveries
      (answer :: answers, last)

section Step

variable (metric : Metric K) (ledger : Ledger K) {delivery : Delivery K}

theorem deliver_of_proper (proper : delivery.isProper = true) :
    ledger.deliver metric delivery =
      (.ok (delivery.completed.foldl (enter metric) (0, ledger)).1,
        { (delivery.completed.foldl (enter metric) (0, ledger)).2 with
          active := delivery.active }) := by
  rw [deliver, record_of_completed (List.all_eq_true.1 proper)]

theorem deliver_of_improper (improper : delivery.isProper = false) :
    ∃ failure, ledger.deliver metric delivery = (.error failure, ledger) := by
  rw [Delivery.isProper, List.all_eq_false] at improper
  obtain ⟨trial, member, unfinished⟩ := improper
  obtain ⟨id, message, refused⟩ :
      ∃ id message,
        ledger.record metric delivery.completed delivery.active =
          .error (.invalidTrial id message) :=
    record_of_unfinished member (by simpa using unfinished)
  exact ⟨_, by rw [deliver, refused]⟩

end Step

/-! ## Runs -/

section Run

variable (metric : Metric K)

/-- The trials under way and the count so far play no part when a trial is entered. -/
theorem enter_frame (added more : Nat) (ledger : Ledger K) (active : List (Trial K))
    (trial : Trial K) :
    enter metric (added + more, { ledger with active }) trial =
      ((enter metric (added, ledger) trial).1 + more,
        { (enter metric (added, ledger) trial).2 with active }) := by
  rw [enter, enter]
  dsimp only
  split
  · rfl
  · rw [Nat.add_right_comm]

theorem foldl_enter_frame (added more : Nat) (ledger : Ledger K)
    (active : List (Trial K)) (trials : List (Trial K)) :
    trials.foldl (enter metric) (added + more, { ledger with active }) =
      ((trials.foldl (enter metric) (added, ledger)).1 + more,
        { (trials.foldl (enter metric) (added, ledger)).2 with active }) := by
  induction trials generalizing added ledger with
  | nil => rfl
  | cons trial trials inductionHypothesis =>
      rw [List.foldl_cons, enter_frame, inductionHypothesis, List.foldl_cons]

/-- The books after deliveries are those after the arrivals of all of them at once. -/
theorem deliverAll_eq (ledger : Ledger K) (deliveries : List (Delivery K)) :
    ((ledger.deliverAll metric deliveries).1.map newlyKnown).sum =
        ((arrivals deliveries).foldl (enter metric) (0, ledger)).1 ∧
      (ledger.deliverAll metric deliveries).2 =
        { ((arrivals deliveries).foldl (enter metric) (0, ledger)).2 with
          active := underWay ledger.active deliveries } := by
  induction deliveries generalizing ledger with
  | nil => exact ⟨rfl, rfl⟩
  | cons delivery deliveries inductionHypothesis =>
      rw [deliverAll]
      cases proper : delivery.isProper with
      | true =>
          have arrived :
              arrivals (delivery :: deliveries) =
                delivery.completed ++ arrivals deliveries := by
            rw [arrivals, List.filter_cons_of_pos proper]
            rfl
          rw [deliver_of_proper metric ledger proper, arrived, List.foldl_append,
            underWay_of_proper proper]
          generalize delivery.completed.foldl (enter metric) (0, ledger) = state
          obtain ⟨added, next⟩ := state
          obtain ⟨counted, kept⟩ :=
            inductionHypothesis { next with active := delivery.active }
          -- Both runs over the later arrivals are those from the books `next`.
          have restarted :=
            foldl_enter_frame metric 0 0 next delivery.active (arrivals deliveries)
          have continued :=
            foldl_enter_frame metric 0 added next next.active (arrivals deliveries)
          rw [restarted] at counted kept
          rw [Nat.zero_add] at continued
          refine ⟨?_, ?_⟩
          · rw [List.map_cons, List.sum_cons, counted, continued, newlyKnown]
            omega
          · rw [kept, continued]
      | false =>
          obtain ⟨failure, refused⟩ := deliver_of_improper metric ledger proper
          have arrived : arrivals (delivery :: deliveries) = arrivals deliveries := by
            rw [arrivals, List.filter_cons_of_neg (by simp [proper])]
            rfl
          rw [refused, arrived, underWay_of_improper proper]
          obtain ⟨counted, kept⟩ := inductionHypothesis ledger
          refine ⟨?_, kept⟩
          rw [List.map_cons, List.sum_cons, counted, newlyKnown, Nat.zero_add]

/-- The trials that are counted as new are those that are kept. -/
theorem count_foldl_enter (state : Nat × Ledger K) (trials : List (Trial K)) :
    (trials.foldl (enter metric) state).1 + state.2.numCompleted =
      state.1 + (trials.foldl (enter metric) state).2.numCompleted := by
  induction trials generalizing state with
  | nil => rfl
  | cons trial trials inductionHypothesis =>
      have later := inductionHypothesis (enter metric state trial)
      rw [List.foldl_cons]
      cases known : state.2.completed.contains trial.id with
      | true =>
          rw [enter_of_known metric state known] at later ⊢
          exact later
      | false =>
          have counted : (enter metric state trial).1 = state.1 + 1 := by
            rw [enter, if_neg (by simp [known])]
          rw [numCompleted_enter metric state known, counted] at later
          omega

/-- The best entry is the one that the first arrivals alone would leave. -/
theorem best_foldl_enter (trials : List (Trial K)) :
    (trials.foldl (enter metric) (0, empty)).2.best =
      (firsts trials).foldl (betterOf metric) none := by
  induction trials using List.reverseRecOn with
  | nil => rfl
  | append_singleton trials trial inductionHypothesis =>
      have known :
          (trials.foldl (enter metric) (0, empty)).2.completed.contains trial.id = true ↔
            trial.id ∈ trials.map (·.id) := by
        rw [contains_foldl_enter]
        exact or_iff_right (by simp [empty, Table.contains, Table.find?, Table.empty])
      rw [List.foldl_concat, firsts_concat]
      by_cases later : trial.id ∈ trials.map (·.id)
      · rw [if_pos later, enter_of_known metric _ (known.2 later), inductionHypothesis]
      · rw [if_neg later, List.foldl_concat, ← inductionHypothesis, enter,
          if_neg fun old => later (known.1 old)]

end Run

/-! ## The first of the best -/

section Best

variable [OrderedScalar K] [LinearScalar K] {metric : Metric K}

omit [OrderedScalar K] [LinearScalar K] in
theorem isFinite_of_usable {trial : Trial K} {name : String} {value : K}
    (usable : trial.usableObjective? name = some value) :
    Scalar.isFinite value = true := by
  rw [Trial.usableObjective?, Option.filter_eq_some_iff] at usable
  exact usable.2

/-- What beats a value beats all that do not beat it. -/
theorem improves_of_not_improves (goal : Goal) {value best other : K}
    (valueFinite : Scalar.isFinite value = true) (bestFinite : Scalar.isFinite best = true)
    (otherFinite : Scalar.isFinite other = true)
    (better : improves goal value best = true)
    (beaten : improves goal other best = false) : improves goal value other = true := by
  have valueNumber := LinearScalar.isNaN_of_isFinite valueFinite
  have bestNumber := LinearScalar.isNaN_of_isFinite bestFinite
  have otherNumber := LinearScalar.isNaN_of_isFinite otherFinite
  cases goal with
  | maximize =>
      exact decide_eq_true
        (LinearScalar.lt_of_not_lt_of_lt otherNumber bestNumber valueNumber
          (of_decide_eq_false beaten) (of_decide_eq_true better))
  | minimize =>
      exact decide_eq_true
        (LinearScalar.lt_of_lt_of_not_lt valueNumber bestNumber otherNumber
          (of_decide_eq_true better) (of_decide_eq_false beaten))

/-- The trial has that usable objective, none of the trials has a better one, and it is
the first of them that has one as good. -/
structure FirstBest (metric : Metric K) (trials : List (Trial K)) (trial : Trial K)
    (value : K) : Prop where
  usable : trial.usableObjective? metric.name = some value
  unbeaten : ∀ other ∈ trials, ∀ otherValue,
    other.usableObjective? metric.name = some otherValue →
      improves metric.goal otherValue value = false
  first : ∃ earlier later,
    trials = earlier ++ trial :: later ∧
      ∀ other ∈ earlier, ∀ otherValue,
        other.usableObjective? metric.name = some otherValue →
          improves metric.goal value otherValue = true

omit [OrderedScalar K] [LinearScalar K] in
theorem FirstBest.mem {trials : List (Trial K)} {trial : Trial K} {value : K}
    (best : FirstBest metric trials trial value) : trial ∈ trials := by
  obtain ⟨earlier, later, split, _⟩ := best.first
  rw [split]
  exact List.mem_append_right earlier List.mem_cons_self

omit [OrderedScalar K] [LinearScalar K] in
/-- A trial that does not beat the best one leaves it. -/
theorem FirstBest.concat {trials : List (Trial K)} {trial : Trial K} {value : K}
    (best : FirstBest metric trials trial value) {last : Trial K}
    (beaten : ∀ lastValue, last.usableObjective? metric.name = some lastValue →
      improves metric.goal lastValue value = false) :
    FirstBest metric (trials ++ [last]) trial value := by
  obtain ⟨earlier, later, split, worse⟩ := best.first
  refine ⟨best.usable, fun other member => ?_, earlier, later ++ [last], ?_, worse⟩
  · rcases List.mem_append.1 member with old | new
    · exact best.unbeaten other old
    · obtain rfl := List.mem_singleton.1 new
      exact beaten
  · rw [split, List.append_assoc, List.cons_append]

omit [LinearScalar K] in
/-- A trial that beats all before it is the best. -/
theorem firstBest_concat_self {trials : List (Trial K)} {last : Trial K} {value : K}
    (usable : last.usableObjective? metric.name = some value)
    (better : ∀ other ∈ trials, ∀ otherValue,
      other.usableObjective? metric.name = some otherValue →
        improves metric.goal value otherValue = true) :
    FirstBest metric (trials ++ [last]) last value := by
  refine ⟨usable, fun other member otherValue same => ?_, trials, [], rfl, better⟩
  cases above : improves metric.goal otherValue value with
  | false => rfl
  | true =>
      have itself := improves_self metric.goal otherValue
      rcases List.mem_append.1 member with old | new
      · rw [improves_trans metric.goal above (better other old otherValue same)] at itself
        cases itself
      · obtain rfl := List.mem_singleton.1 new
        rw [usable] at same
        obtain rfl := Option.some.inj same
        rw [above] at itself
        cases itself

/-- Going through trials for the best leaves nothing where none is usable, else the
first of the best. -/
theorem foldl_betterOf_cases (metric : Metric K) (trials : List (Trial K)) :
    trials.foldl (betterOf metric) none = none ∧
        (∀ trial ∈ trials, trial.usableObjective? metric.name = none) ∨
      ∃ trial value,
        trials.foldl (betterOf metric) none = some (trial.id, value) ∧
          FirstBest metric trials trial value := by
  induction trials using List.reverseRecOn with
  | nil => exact .inl ⟨rfl, by simp⟩
  | append_singleton trials last inductionHypothesis =>
      rw [List.foldl_concat]
      cases usable : last.usableObjective? metric.name with
      | none =>
          rw [betterOf_of_unusable usable]
          rcases inductionHypothesis with ⟨found, unusable⟩ | ⟨trial, value, found, best⟩
          · refine .inl ⟨found, fun trial member => ?_⟩
            rcases List.mem_append.1 member with old | new
            · exact unusable trial old
            · obtain rfl := List.mem_singleton.1 new
              exact usable
          · refine .inr ⟨trial, value, found, best.concat fun lastValue same => ?_⟩
            rw [usable] at same
            cases same
      | some lastValue =>
          rcases inductionHypothesis with ⟨found, unusable⟩ | ⟨trial, value, found, best⟩
          · rw [found, betterOf_none usable]
            refine .inr ⟨last, lastValue, rfl, firstBest_concat_self usable ?_⟩
            intro other member otherValue same
            rw [unusable other member] at same
            cases same
          · rw [found, betterOf_some usable]
            cases better : improves metric.goal lastValue value with
            | true =>
                refine .inr ⟨last, lastValue, rfl, firstBest_concat_self usable ?_⟩
                intro other member otherValue same
                exact improves_of_not_improves metric.goal (isFinite_of_usable usable)
                  (isFinite_of_usable best.usable) (isFinite_of_usable same) better
                  (best.unbeaten other member otherValue same)
            | false =>
                refine .inr ⟨trial, value, rfl, best.concat fun other same => ?_⟩
                rw [usable] at same
                obtain rfl := Option.some.inj same
                exact better

end Best

/-! ## The books after deliveries -/

omit [Scalar K] in
theorem Keyed.mem_items_iff {ledger : Ledger K} (keyed : ledger.Keyed) {trial : Trial K} :
    trial ∈ ledger.completed.items ↔ ledger.completed.find? trial.id = some trial := by
  rw [Table.find?_eq_some_iff]
  refine ⟨fun member => ?_, fun member => List.mem_map_of_mem member⟩
  obtain ⟨entry, inEntries, rfl⟩ := List.mem_map.1 member
  rw [keyed entry inEntries]
  exact inEntries

theorem find?_foldl_enter_empty (metric : Metric K) (trials : List (Trial K))
    (id : UInt64) :
    (trials.foldl (enter metric) (0, empty)).2.completed.find? id =
      trials.find? (·.id == id) := by
  rw [find?_foldl_enter]
  exact Option.none_or

/-- The completed trials are the first arrivals, in the order of their ids. -/
theorem items_foldl_enter_perm (metric : Metric K) (trials : List (Trial K)) :
    (trials.foldl (enter metric) (0, empty)).2.completed.items.Perm (firsts trials) := by
  have keyed : (trials.foldl (enter metric) (0, empty)).2.Keyed :=
    keyed_empty.foldl_enter metric trials
  have nodup : (trials.foldl (enter metric) (0, empty)).2.completed.items.Nodup := by
    refine keyed.pairwise_id_lt.imp fun {first second} below same => ?_
    rw [same] at below
    exact UInt64.lt_irrefl _ below
  rw [List.perm_ext_iff_of_nodup nodup (nodup_firsts trials)]
  intro trial
  rw [keyed.mem_items_iff, find?_foldl_enter_empty, mem_firsts_iff]

/-- The best trial is the first of the best of the first arrivals. -/
theorem bestTrial?_foldl_enter [OrderedScalar K] [LinearScalar K] (metric : Metric K)
    (trials : List (Trial K)) :
    (trials.foldl (enter metric) (0, empty)).2.bestTrial? = none ∧
        (∀ trial ∈ firsts trials, trial.usableObjective? metric.name = none) ∨
      ∃ trial value,
        (trials.foldl (enter metric) (0, empty)).2.bestTrial? = some trial ∧
          FirstBest metric (firsts trials) trial value := by
  rw [bestTrial?, best_foldl_enter]
  rcases foldl_betterOf_cases metric (firsts trials) with
    ⟨found, unusable⟩ | ⟨trial, value, found, best⟩
  · rw [found]
    exact .inl ⟨rfl, unusable⟩
  · rw [found]
    refine .inr ⟨trial, value, ?_, best⟩
    rw [Option.bind_some]
    dsimp only
    rw [find?_foldl_enter_empty]
    exact mem_firsts_iff.1 best.mem

/-- Deliveries are taken just where all trials passed as completed have completed. -/
theorem isOk_deliverAll (metric : Metric K) (ledger : Ledger K)
    (deliveries : List (Delivery K)) :
    (ledger.deliverAll metric deliveries).1.map (·.isOk) =
      deliveries.map (·.isProper) := by
  induction deliveries generalizing ledger with
  | nil => rfl
  | cons delivery deliveries inductionHypothesis =>
      rw [deliverAll, List.map_cons, List.map_cons, inductionHypothesis]
      cases proper : delivery.isProper with
      | true =>
          rw [deliver_of_proper metric ledger proper]
          rfl
      | false =>
          obtain ⟨failure, refused⟩ := deliver_of_improper metric ledger proper
          rw [refused]
          rfl

/-- After any deliveries the books hold, under each id, the first trial that arrived
completed with that id in a delivery that was taken, listed by increasing id; the answers
count these trials, the trials under way are those of the last delivery that was taken,
and the best trial is missing where no completed trial has a usable objective, else the
first one entered that no completed trial beats. -/
theorem books_of_deliveries [OrderedScalar K] [LinearScalar K] (metric : Metric K)
    (deliveries : List (Delivery K)) :
    let answers := ((empty : Ledger K).deliverAll metric deliveries).1
    let books := ((empty : Ledger K).deliverAll metric deliveries).2
    let order := firsts (arrivals deliveries)
    answers.map (·.isOk) = deliveries.map (·.isProper) ∧
      (∀ id, books.completed.find? id = (arrivals deliveries).find? (·.id == id)) ∧
      books.completed.items.Pairwise (fun first second => first.id < second.id) ∧
      books.completed.items.Perm order ∧
      (answers.map newlyKnown).sum = books.numCompleted ∧
      books.active = underWay [] deliveries ∧
      (books.bestTrial? = none ↔
        ∀ trial ∈ books.completed.items, trial.usableObjective? metric.name = none) ∧
      ∀ trial, books.bestTrial? = some trial →
        trial ∈ books.completed.items ∧ ∃ value, FirstBest metric order trial value := by
  intro answers books order
  have counted :
      (answers.map newlyKnown).sum =
        ((arrivals deliveries).foldl (enter metric) (0, empty)).1 :=
    (deliverAll_eq metric empty deliveries).1
  have kept :
      books =
        { ((arrivals deliveries).foldl (enter metric) (0, empty)).2 with
          active := underWay [] deliveries } :=
    (deliverAll_eq metric empty deliveries).2
  have items : books.completed.items.Perm order := by
    rw [kept]
    exact items_foldl_enter_perm metric (arrivals deliveries)
  have best :
      books.bestTrial? = none ∧
          (∀ trial ∈ order, trial.usableObjective? metric.name = none) ∨
        ∃ trial value,
          books.bestTrial? = some trial ∧ FirstBest metric order trial value := by
    rw [kept]
    exact bestTrial?_foldl_enter metric (arrivals deliveries)
  refine ⟨isOk_deliverAll metric empty deliveries, fun id => ?_, ?_, items, ?_, ?_, ?_, ?_⟩
  · rw [kept]
    exact find?_foldl_enter_empty metric (arrivals deliveries) id
  · rw [kept]
    exact (keyed_empty.foldl_enter metric (arrivals deliveries)).pairwise_id_lt
  · have total := count_foldl_enter metric (0, empty) (arrivals deliveries)
    rw [counted, kept]
    exact total.trans (Nat.zero_add _)
  · rw [kept]
  · rcases best with ⟨found, unusable⟩ | ⟨trial, value, found, best⟩
    · exact iff_of_true found fun trial member => unusable trial (items.mem_iff.1 member)
    · rw [found]
      refine iff_of_false (by simp) fun unusable => ?_
      have none := unusable trial (items.mem_iff.2 best.mem)
      rw [best.usable] at none
      cases none
  · intro trial found
    rcases best with ⟨missing, _⟩ | ⟨other, value, same, best⟩
    · rw [missing] at found
      cases found
    · obtain rfl : other = trial := Option.some.inj (same.symm.trans found)
      exact ⟨items.mem_iff.2 best.mem, value, best⟩

section Refusal

def quality : Metric Float :=
  ⟨"quality", .maximize, none, none⟩

def measured (id : UInt64) (value : Float) : Trial Float :=
  (Trial.start id .empty ⟨0, 0⟩).complete (Table.empty.insert "quality" value) ⟨1, 0⟩

/-- A delivery is refused between two others; the last one repeats the id 3, has a tie
and two trials without a usable objective. -/
def refusedBetween : List (Delivery Float) :=
  [⟨[measured 7 2.0, measured 3 5.0], [Trial.start 9 .empty ⟨0, 0⟩]⟩,
    ⟨[measured 8 6.0, Trial.start 4 .empty ⟨0, 0⟩], []⟩,
    ⟨[measured 3 9.0, measured 1 5.0, measured 5 (0.0 / 0.0),
        (Trial.start 2 .empty ⟨0, 0⟩).completeInfeasible "diverged" ⟨1, 0⟩],
      [Trial.start 4 .empty ⟨0, 0⟩]⟩]

theorem books_of_deliveries_with_refusal :
    let books := ((empty : Ledger Float).deliverAll quality refusedBetween).2
    books.bestTrial?.map (·.id) = some 3 ∧
      ∃ value,
        FirstBest quality (firsts (arrivals refusedBetween)) (measured 3 5.0) value := by
  intro books
  have found : books.bestTrial? = some (measured 3 5.0) := by
    rfl
  exact ⟨by rw [found]; rfl,
    ((books_of_deliveries quality refusedBetween).2.2.2.2.2.2.2 _ found).2⟩

end Refusal

end Ledger

end BatchBayes
