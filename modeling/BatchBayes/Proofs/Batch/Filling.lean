import Mathlib
import BatchBayes.Batch.Fill
import BatchBayes.Proofs.Outcome
import BatchBayes.Proofs.Random.Draws
import BatchBayes.Proofs.Surrogate.Views
/-!
How a plan is filled, step by step. Every group fills as many slots as it has,
with found points or points drawn in their place. Its records speak of the
ensemble that the batch began with, as far as completed points go, and otherwise
of that ensemble with the points of the earlier groups pending.
-/

namespace BatchBayes

variable {K : Type} [Scalar K]

/-! ## Records -/

/-- Which slots of a group record an upper confidence bound. -/
def SlotGroup.flags : SlotGroup → List Bool
  | .single policy => [policy == .upperBound]
  | .joint count => List.replicate count false

theorem SlotGroup.length_flags (group : SlotGroup) :
    group.flags.length = group.size := by
  cases group <;> simp [flags, size]

theorem SlotGroup.length_flatMap_flags (plan : List SlotGroup) :
    (plan.flatMap SlotGroup.flags).length = (plan.map SlotGroup.size).sum := by
  simp only [List.length_flatMap, SlotGroup.length_flags]

namespace Strategy

theorem flatMap_flags_explorationPlan (joint : Bool) (count : Nat) :
    (explorationPlan joint count).flatMap SlotGroup.flags =
      List.replicate count false := by
  rw [explorationPlan]
  by_cases zero : count = 0
  · rw [if_pos zero, zero]
    rfl
  · rw [if_neg zero]
    cases joint with
    | true => simp [SlotGroup.flags]
    | false =>
        have flags : SlotGroup.flags (.single .exploration) = [false] := rfl
        simp [List.flatMap_replicate, flags]

/-- The flags of a planned batch. Only the first slot of an interleaved batch may
be flagged, and it is where completed trials are waiting. -/
theorem flatMap_flags_plan (strategy : Strategy) (count : Nat) (fresh joint : Bool) :
    (strategy.plan count fresh joint).flatMap SlotGroup.flags =
      match strategy with
      | allUpperBound => List.replicate count true
      | allExploration => List.replicate count false
      | interleaved => (List.replicate count false).modifyHead fun _ => fresh := by
  cases strategy with
  | allUpperBound =>
      have flags : SlotGroup.flags (.single .upperBound) = [true] := rfl
      simp [plan, List.flatMap_replicate, flags]
  | allExploration => exact flatMap_flags_explorationPlan joint count
  | interleaved =>
      rw [plan]
      cases count with
      | zero => simp [flatMap_flags_explorationPlan]
      | succ count =>
          cases fresh with
          | true =>
              simp [flatMap_flags_explorationPlan, SlotGroup.flags,
                List.replicate_succ]
          | false =>
              simp [flatMap_flags_explorationPlan, List.replicate_succ]

theorem length_flatMap_flags_plan (strategy : Strategy) (count : Nat)
    (fresh joint : Bool) :
    ((strategy.plan count fresh joint).flatMap SlotGroup.flags).length = count := by
  rw [flatMap_flags_plan]
  cases strategy <;> simp

end Strategy

/-- The acquisition value of a slot with a given record. The penalty of
exploration is that of the ensemble the batch began with. -/
def groupValue (coefficients : Coefficients K) (start current : Ensemble K)
    (group : SlotGroup) (points : List (List K)) (decision : Decision K) : K :=
  match group with
  | .single .upperBound =>
      decision.mean + coefficients.upperBound * decision.deviationFromAll
  | .single .exploration =>
      (Acquisition.ofEnsemble start coefficients).exploration
        ⟨decision.mean, decision.deviation, decision.deviationFromAll⟩
  | .single .jointExploration | .joint _ =>
      (Acquisition.ofEnsemble current coefficients).jointExploration points

/-- The records of a group's slots, given the ensemble that the batch began with
and the one that the group was chosen over. -/
structure Explains (coefficients : Coefficients K) (start current : Ensemble K)
    (group : SlotGroup) (slots : List (Slot K)) : Prop where
  length : slots.length = group.size
  mean : ∀ slot ∈ slots,
    slot.decision.mean = (start.predict .completed slot.features).mean
  deviation : ∀ slot ∈ slots,
    slot.decision.deviation = (start.predict .completed slot.features).deviation
  deviationFromAll : ∀ slot ∈ slots,
    slot.decision.deviationFromAll = (current.predict .all slot.features).deviation
  upperBound : ∀ slot ∈ slots,
    slot.decision.upperBound = true ↔ group = .single .upperBound
  acquisition : ∀ slot ∈ slots,
    slot.decision.acquisition =
      groupValue coefficients start current group (slots.map (·.features))
        slot.decision

namespace Explains

variable {coefficients : Coefficients K} {start middle current : Ensemble K}
  {group : SlotGroup} {slots : List (Slot K)}

theorem flags_eq (explains : Explains coefficients start current group slots) :
    slots.map (·.decision.upperBound) = group.flags := by
  apply List.ext_getElem
  · rw [List.length_map, explains.length, group.length_flags]
  · intro index inSlots inFlags
    rw [List.getElem_map]
    have flag := explains.upperBound _ (List.getElem_mem (by simpa using inSlots))
    cases group with
    | single policy => cases policy <;> simp_all [SlotGroup.flags]
    | joint count => simpa [SlotGroup.flags] using flag

/-- Completed points look the same from every ensemble with the same models. -/
theorem of_sameModels (same : start.SameModels middle)
    (explains : Explains coefficients middle current group slots) :
    Explains coefficients start current group slots := by
  refine ⟨explains.length, fun slot member => ?_, fun slot member => ?_,
    explains.deviationFromAll, explains.upperBound, fun slot member => ?_⟩
  · rw [explains.mean slot member, same.predict_completed]
  · rw [explains.deviation slot member, same.predict_completed]
  · rw [explains.acquisition slot member]
    cases group with
    | joint count => rfl
    | single policy =>
        cases policy with
        | upperBound => rfl
        | jointExploration => rfl
        | exploration =>
            simp only [groupValue, Acquisition.exploration, Acquisition.penalty,
              Acquisition.violation, Acquisition.ofEnsemble, same.threshold?]

end Explains

namespace Chooser

variable {chooser : Chooser K} {ensemble last : Ensemble K} {slots : List (Slot K)}

/-- What filling one group and then the others takes. -/
theorem fillGroups_cons_eq_ok {group : SlotGroup} {key : Key}
    {groups : List (SlotGroup × Key)} :
    chooser.fillGroups ensemble ((group, key) :: groups) = .ok (slots, last) ↔
      ∃ first middle rest,
        chooser.choose ensemble group key = .ok first ∧
          addSlots ensemble first = .ok middle ∧
          chooser.fillGroups middle groups = .ok (rest, last) ∧
          slots = first ++ rest := by
  constructor
  · intro success
    rw [fillGroups] at success
    split at success
    case h_1 => cases success
    case h_2 first chosen =>
        split at success
        case h_1 => cases success
        case h_2 middle added =>
            split at success
            case h_1 => cases success
            case h_2 rest final filled =>
                obtain ⟨rfl, rfl⟩ := Prod.mk.inj (Except.ok.inj success)
                exact ⟨first, middle, rest, chosen, added, filled, rfl⟩
  · rintro ⟨first, middle, rest, chosen, added, filled, rfl⟩
    rw [fillGroups, chosen]
    dsimp only
    rw [added]
    dsimp only
    rw [filled]

/-! ## Groups -/

omit [Scalar K] in
theorem contains_inDomain
    (sampled : ∀ generator,
      chooser.domain.contains (chooser.domain.sample generator).1 = true)
    (point : Option (List K)) (key : Key) :
    chooser.domain.contains (chooser.inDomain point key) = true := by
  cases point with
  | none => exact sampled _
  | some point =>
      rw [inDomain]
      by_cases accepted : chooser.domain.contains point
      · rw [if_pos accepted]
        exact accepted
      · rw [if_neg accepted]
        exact sampled _

/-- A slot that holds a found point, or one drawn in its place. -/
def Placed (chooser : Chooser K) (slot : Slot K) : Prop :=
  ∃ point key, slot.features = chooser.inDomain point key

omit [Scalar K] in
theorem completeSet_spec (points : List (List K)) (keys : List Key) :
    (chooser.completeSet points keys).length = keys.length ∧
      ∀ point ∈ chooser.completeSet points keys,
        ∃ found key, point = chooser.inDomain found key := by
  induction keys generalizing points with
  | nil => cases points <;> simp [completeSet]
  | cons key keys inductionHypothesis =>
      cases points with
      | nil =>
          obtain ⟨length, each⟩ := inductionHypothesis []
          simp only [completeSet, List.length_cons, List.mem_cons, length, true_and]
          rintro point (rfl | later)
          · exact ⟨none, key, rfl⟩
          · exact each point later
      | cons found points =>
          obtain ⟨length, each⟩ := inductionHypothesis points
          simp only [completeSet, List.length_cons, List.mem_cons, length, true_and]
          rintro point (rfl | later)
          · exact ⟨some found, key, rfl⟩
          · exact each point later

theorem single_spec {policy : Policy} {key : Key} {slot : Slot K}
    (success : chooser.single ensemble policy key = .ok slot) :
    chooser.Placed slot ∧
      Explains chooser.coefficients ensemble ensemble (.single policy) [slot] := by
  rw [single] at success
  dsimp only at success
  split at success
  case isTrue => cases success
  case isFalse =>
      cases success
      refine ⟨⟨_, _, rfl⟩, rfl, ?_, ?_, ?_, ?_, ?_⟩ <;>
        rintro slot (_ | ⟨_, ⟨⟩⟩)
      · rfl
      · rfl
      · rfl
      · cases policy <;> simp [record]
      · cases policy <;> rfl

theorem joint_spec {count : Nat} {key : Key}
    (success : chooser.joint ensemble count key = .ok slots) :
    (∀ slot ∈ slots, chooser.Placed slot) ∧
      Explains chooser.coefficients ensemble ensemble (.joint count) slots := by
  rw [joint] at success
  dsimp only at success
  split at success
  case isTrue => cases success
  case isFalse =>
      cases success
      generalize chooser.maximizer.maximize _ _ _ _ = found
      obtain ⟨length, each⟩ :=
        chooser.completeSet_spec found.points (key.split.2.children count)
      rw [Key.length_children] at length
      revert length each
      generalize chooser.completeSet found.points (key.split.2.children count) = points
      intro length each
      have features : ∀ describe : List K → Decision K,
          (points.map fun point => (⟨point, describe point⟩ : Slot K)).map
            (·.features) = points := by
        intro describe
        simp [Function.comp_def]
      refine ⟨fun slot member => ?_, ?_, ?_, ?_, ?_, ?_, ?_⟩
      · obtain ⟨point, inPoints, rfl⟩ := List.mem_map.1 member
        exact each point inPoints
      · rw [List.length_map, length]
        rfl
      · intro slot member
        obtain ⟨point, inPoints, rfl⟩ := List.mem_map.1 member
        rfl
      · intro slot member
        obtain ⟨point, inPoints, rfl⟩ := List.mem_map.1 member
        rfl
      · intro slot member
        obtain ⟨point, inPoints, rfl⟩ := List.mem_map.1 member
        rfl
      · intro slot member
        obtain ⟨point, inPoints, rfl⟩ := List.mem_map.1 member
        simp [record]
      · intro slot member
        obtain ⟨point, inPoints, rfl⟩ := List.mem_map.1 member
        rw [features]
        rfl

/-- What the choice of a group gives: placed slots with records of its ensemble. -/
theorem choose_spec {group : SlotGroup} {key : Key}
    (success : chooser.choose ensemble group key = .ok slots) :
    (∀ slot ∈ slots, chooser.Placed slot) ∧
      Explains chooser.coefficients ensemble ensemble group slots := by
  cases group with
  | joint count => exact joint_spec success
  | single policy =>
      rw [choose] at success
      cases chosen : chooser.single ensemble policy key with
      | error failure => simp [chosen, Except.map] at success
      | ok slot =>
          rw [chosen] at success
          obtain rfl := Except.ok.inj success
          obtain ⟨placed, explains⟩ := single_spec chosen
          exact ⟨fun other member => List.mem_singleton.1 member ▸ placed, explains⟩

/-! ## Plans -/

/-- Every slot of filled groups is placed, and the flags are those of the groups. -/
theorem placed_of_fillGroups {groups : List (SlotGroup × Key)}
    (success : chooser.fillGroups ensemble groups = .ok (slots, last)) :
    (∀ slot ∈ slots, chooser.Placed slot) ∧
      slots.map (·.decision.upperBound) =
        (groups.map (·.1)).flatMap SlotGroup.flags := by
  induction groups generalizing ensemble slots with
  | nil =>
      obtain ⟨rfl, rfl⟩ := Prod.mk.inj (Except.ok.inj success)
      exact ⟨fun slot member => (nomatch member), rfl⟩
  | cons head groups inductionHypothesis =>
      obtain ⟨group, key⟩ := head
      obtain ⟨first, middle, rest, chosen, added, filled, rfl⟩ :=
        fillGroups_cons_eq_ok.1 success
      obtain ⟨placedFirst, explains⟩ := choose_spec chosen
      obtain ⟨placedRest, flags⟩ := inductionHypothesis filled
      refine ⟨fun slot member => ?_, ?_⟩
      · exact (List.mem_append.1 member).elim (placedFirst slot) (placedRest slot)
      · rw [List.map_append, explains.flags_eq, flags, List.map_cons,
          List.flatMap_cons]

theorem map_fst_zip_children (plan : List SlotGroup) (key : Key) :
    (plan.zip (key.children plan.length)).map (·.1) = plan := by
  apply List.map_fst_zip
  rw [Key.length_children]

theorem placed_of_fill {plan : List SlotGroup} {key : Key}
    (success : chooser.fill ensemble plan key = .ok (slots, last)) :
    (∀ slot ∈ slots, chooser.Placed slot) ∧
      slots.map (·.decision.upperBound) = plan.flatMap SlotGroup.flags := by
  have filled := placed_of_fillGroups success
  rw [map_fst_zip_children] at filled
  exact filled

/-- Every planned slot is filled. -/
theorem length_fill {strategy : Strategy} {count : Nat} {fresh joint : Bool}
    {key : Key}
    (success :
      chooser.fill ensemble (strategy.plan count fresh joint) key =
        .ok (slots, last)) :
    slots.length = count := by
  have lengths := congrArg List.length (placed_of_fill success).2
  rw [List.length_map, Strategy.length_flatMap_flags_plan] at lengths
  exact lengths

/-! ## Turns -/

/-- Slots become pending as if all of them did so at once. -/
theorem conditionOn_of_addSlots (conditioned : ensemble.Conditioned)
    (success : addSlots ensemble slots = .ok last) :
    ensemble.conditionOn (ensemble.pending ++ slots.map (·.features)) =
      .ok last := by
  induction slots generalizing ensemble with
  | nil =>
      obtain rfl := Except.ok.inj success
      rw [List.map_nil, List.append_nil]
      exact conditioned.conditionOn_pending
  | cons slot slots inductionHypothesis =>
      rw [addSlots] at success
      split at success
      case h_1 => cases success
      case h_2 middle added =>
          obtain ⟨conditionedMiddle, _⟩ := conditioned.conditionOn added
          have rest := inductionHypothesis conditionedMiddle success
          rw [Ensemble.conditionOn_conditionOn added,
            (Ensemble.conditionOn_eq_ok added).2.2.1] at rest
          rw [List.map_cons, List.append_cons]
          exact rest

/-- The parts of a batch are the slots of the plan's groups. Each part is explained
by the ensemble the batch began with and by the one that has the points of the
earlier parts pending too. -/
def ExplainedInTurn (coefficients : Coefficients K) (start : Ensemble K)
    (plan : List SlotGroup) (parts : List (List (Slot K))) : Prop :=
  parts.length = plan.length ∧
    ∀ index group part,
      plan[index]? = some group →
      parts[index]? = some part →
      ∃ current,
        start.conditionOn
            (start.pending ++ (parts.take index).flatten.map (·.features)) =
          .ok current ∧
        Explains coefficients start current group part

/-- The parts of a batch whose first group was chosen over `start` and whose other
groups over what it became. -/
theorem ExplainedInTurn.cons {coefficients : Coefficients K}
    {start middle : Ensemble K} {group : SlotGroup} {first : List (Slot K)}
    {plan : List SlotGroup} {parts : List (List (Slot K))}
    (conditioned : start.Conditioned)
    (explains : Explains coefficients start start group first)
    (added :
      start.conditionOn (start.pending ++ first.map (·.features)) = .ok middle)
    (later : ExplainedInTurn coefficients middle plan parts) :
    ExplainedInTurn coefficients start (group :: plan) (first :: parts) := by
  obtain ⟨length, each⟩ := later
  obtain ⟨_, same⟩ := conditioned.conditionOn added
  refine ⟨by rw [List.length_cons, List.length_cons, length], ?_⟩
  intro index other part inPlan inParts
  cases index with
  | zero =>
      obtain rfl := Option.some.inj inPlan
      obtain rfl := Option.some.inj inParts
      refine ⟨start, ?_, explains⟩
      rw [List.take_zero, List.flatten_nil, List.map_nil, List.append_nil]
      exact conditioned.conditionOn_pending
  | succ index =>
      obtain ⟨current, success, explained⟩ := each index other part inPlan inParts
      rw [Ensemble.conditionOn_conditionOn added,
        (Ensemble.conditionOn_eq_ok added).2.2.1] at success
      refine ⟨current, ?_, ?_⟩
      · rw [List.take_succ_cons, List.flatten_cons, List.map_append,
          ← List.append_assoc]
        exact success
      · exact explained.of_sameModels same

/-- What filling groups gives: the ensemble with all slots pending, and records that
are explained in turn. -/
theorem fillGroups_spec {groups : List (SlotGroup × Key)}
    (conditioned : ensemble.Conditioned)
    (success : chooser.fillGroups ensemble groups = .ok (slots, last)) :
    ensemble.conditionOn (ensemble.pending ++ slots.map (·.features)) =
        .ok last ∧
      ∃ parts,
        slots = parts.flatten ∧
          ExplainedInTurn chooser.coefficients ensemble (groups.map (·.1)) parts := by
  -- The later groups are filled over the ensemble that has the first one pending.
  induction groups generalizing ensemble slots with
  | nil =>
      obtain ⟨rfl, rfl⟩ := Prod.mk.inj (Except.ok.inj success)
      refine ⟨?_, [], rfl, rfl, ?_⟩
      · rw [List.map_nil, List.append_nil]
        exact conditioned.conditionOn_pending
      · intro index group part inPlan
        cases inPlan
  | cons head groups inductionHypothesis =>
      obtain ⟨group, key⟩ := head
      obtain ⟨first, middle, rest, chosen, added, filled, rfl⟩ :=
        fillGroups_cons_eq_ok.1 success
      obtain ⟨_, explains⟩ := choose_spec chosen
      have pending := conditionOn_of_addSlots conditioned added
      obtain ⟨conditionedMiddle, _⟩ := conditioned.conditionOn pending
      obtain ⟨pendingRest, parts, rfl, later⟩ :=
        inductionHypothesis conditionedMiddle filled
      refine ⟨?_, first :: parts, rfl, ?_⟩
      · rw [Ensemble.conditionOn_conditionOn pending,
          (Ensemble.conditionOn_eq_ok pending).2.2.1] at pendingRest
        rw [List.map_append, ← List.append_assoc]
        exact pendingRest
      · exact later.cons conditioned explains pending

end Chooser

end BatchBayes
