import Mathlib
import BatchBayes.Proofs.Outcome
import BatchBayes.Proofs.Surrogate.Process
import BatchBayes.Surrogate.Ensemble
/-!
Fitted ensembles: every member is conditioned on the points of the ensemble, and
stays so while pending points come and go.
-/

namespace BatchBayes

/-! ## Members -/

namespace Member

/-- Both views are conditioned with the parameters of the member: on the
completed points, and apart from that on the pending ones too. -/
structure Conditioned {K : Type} [Scalar K] (completed : Observations K)
    (padding : Padding) (pending : List (List K)) (member : Member K) : Prop where
  fitted :
    GaussianProcess.fit (completed.pad padding) member.completed.parameters =
      .ok member.completed
  conditioned : condition completed padding member.completed pending = .ok member.all

/-- A key gives the parameters of the member, with which both views are conditioned. -/
structure Fitted {K : Type} [Scalar K] (completed : Observations K) (padding : Padding)
    (pending : List (List K)) (tuner : Tuner K) (key : Key) (member : Member K) : Prop
    extends member.Conditioned completed padding pending where
  tuned : tuner (completed.pad padding) key = .ok member.completed.parameters

section Steps

variable {K : Type} [Scalar K] {completed : Observations K} {padding : Padding}
  {pending more : List (List K)} {member next : Member K}

/-- Fitting takes three steps. -/
theorem fit_eq_ok_iff {tuner : Tuner K} {key : Key} :
    fit completed padding tuner pending key = .ok member ↔
      member.Fitted completed padding pending tuner key := by
  constructor
  · intro success
    rw [fit] at success
    split at success
    case h_1 => cases success
    case h_2 parameters tuned =>
        split at success
        case h_1 => cases success
        case h_2 process found =>
            split at success
            case h_1 => cases success
            case h_2 all conditioned =>
                cases success
                have same := GaussianProcess.parameters_of_fit found
                exact ⟨⟨same ▸ found, conditioned⟩, same ▸ tuned⟩
  · rintro ⟨⟨fitted, conditioned⟩, tuned⟩
    rw [fit, tuned]
    dsimp only
    rw [fitted]
    dsimp only
    rw [conditioned]

theorem completed_of_recondition
    (success : recondition completed padding more member = .ok next) :
    next.completed = member.completed ∧
      condition completed padding member.completed more = .ok next.all := by
  rw [recondition] at success
  split at success
  case h_1 => cases success
  case h_2 all conditioned =>
      cases success
      exact ⟨rfl, conditioned⟩

theorem Conditioned.recondition
    (conditioned : member.Conditioned completed padding pending)
    (success : member.recondition completed padding more = .ok next) :
    next.Conditioned completed padding more := by
  obtain ⟨same, all⟩ := completed_of_recondition success
  refine ⟨?_, ?_⟩
  · rw [same]
    exact conditioned.fitted
  · rw [same]
    exact all

/-- What was pending before plays no part. -/
theorem recondition_recondition
    (success : recondition completed padding pending member = .ok next) :
    recondition completed padding more next =
      recondition completed padding more member := by
  rw [recondition] at success
  split at success
  case h_1 => cases success
  case h_2 all _ =>
      cases success
      rw [recondition, recondition]

theorem Conditioned.recondition_pending
    (conditioned : member.Conditioned completed padding pending) :
    member.recondition completed padding pending = .ok member := by
  rw [Member.recondition, conditioned.conditioned]

/-- Both views have the parameters of the member. -/
theorem Conditioned.parameters_all
    (conditioned : member.Conditioned completed padding pending) :
    member.all.parameters = member.completed.parameters :=
  GaussianProcess.parameters_of_fit conditioned.conditioned

/-- Without pending points there is one view only. -/
theorem Conditioned.all_eq_completed
    (conditioned : member.Conditioned completed padding []) :
    member.all = member.completed := by
  have all := conditioned.conditioned
  rw [condition, List.map_nil, Observations.pad_extend_nil,
    conditioned.fitted] at all
  exact (Except.ok.inj all).symm

end Steps

end Member

namespace Ensemble

/-! ## Calls that change the pending points -/

/-- A request to change the pending points. -/
inductive PendingCall (K : Type) where
  | replace (pending : List (List K))
  | add (point : List K)

section Calls

variable {K : Type} [Scalar K]

def call (ensemble : Ensemble K) :
    PendingCall K → Except FitError (Ensemble K)
  | .replace pending => ensemble.conditionOn pending
  | .add point => ensemble.addPending point

/-- The ensemble after some calls; a call that fails leaves it as it is. -/
def after (ensemble : Ensemble K) (calls : List (PendingCall K)) : Ensemble K :=
  calls.foldl
    (fun ensemble request =>
      match ensemble.call request with
      | .ok next => next
      | .error _ => ensemble)
    ensemble

end Calls

/-! ## Ensembles -/

section Steps

variable {K : Type} [Scalar K] {ensemble next : Ensemble K}

/-- Every member sees the completed and the pending points of the ensemble. -/
def Conditioned (ensemble : Ensemble K) : Prop :=
  ∀ member ∈ ensemble.members,
    member.Conditioned ensemble.completed ensemble.padding ensemble.pending

/-- The members that can be fitted with some keys. -/
def survivors (completed : Observations K) (pending : List (List K)) (tuner : Tuner K)
    (padding : Padding) (keys : List Key) : List (Member K) :=
  keys.filterMap fun key => (Member.fit completed padding tuner pending key).toOption

theorem fit_eq_ok_iff {completed : Observations K} {pending : List (List K)}
    {size : Nat} {tuner : Tuner K} {padding : Padding} {key : Key} :
    fit completed pending size tuner padding key = .ok ensemble ↔
      survivors completed.unpadded pending tuner padding (key.children (max size 1)) ≠ [] ∧
        ensemble =
          ⟨survivors completed.unpadded pending tuner padding (key.children (max size 1)),
            completed.unpadded, pending, padding⟩ := by
  rw [fit, ← survivors]
  split
  case isTrue none =>
      rw [List.isEmpty_iff] at none
      simp [none]
  case isFalse some =>
      rw [List.isEmpty_iff] at some
      simp [some, eq_comm]

theorem survivors_eq_of_forall₂ {completed : Observations K} {pending : List (List K)}
    {tuner : Tuner K} {padding : Padding} {keys : List Key} {members : List (Member K)}
    (fitted :
      List.Forall₂
        (fun key (member : Member K) => member.Fitted completed padding pending tuner key)
        keys members) :
    survivors completed pending tuner padding keys = members := by
  induction fitted with
  | nil => rfl
  | cons head _ inductionHypothesis =>
      rw [survivors] at inductionHypothesis ⊢
      rw [List.filterMap_cons, Member.fit_eq_ok_iff.2 head, inductionHypothesis]
      rfl

/-- A fitted ensemble holds the points it was fitted to, and each of its members
was fitted to them. -/
theorem fit_eq_ok {completed : Observations K} {pending : List (List K)}
    {size : Nat} {tuner : Tuner K} {padding : Padding} {key : Key}
    (fitted : fit completed pending size tuner padding key = .ok ensemble) :
    ensemble.completed = completed.unpadded ∧ ensemble.pending = pending ∧
      ensemble.padding = padding ∧
        ∀ member ∈ ensemble.members,
          ∃ memberKey,
            Member.fit completed.unpadded padding tuner pending memberKey =
              .ok member := by
  obtain ⟨_, rfl⟩ := fit_eq_ok_iff.1 fitted
  refine ⟨rfl, rfl, rfl, fun member found => ?_⟩
  obtain ⟨memberKey, _, success⟩ := List.mem_filterMap.1 found
  exact ⟨memberKey, toOption_eq_some_iff.1 success⟩

theorem conditioned_of_fit {completed : Observations K} {pending : List (List K)}
    {size : Nat} {tuner : Tuner K} {padding : Padding} {key : Key}
    (fitted : fit completed pending size tuner padding key = .ok ensemble) :
    ensemble.Conditioned := by
  obtain ⟨sameCompleted, samePending, samePadding, members⟩ := fit_eq_ok fitted
  intro member found
  obtain ⟨memberKey, success⟩ := members member found
  rw [sameCompleted, samePending, samePadding]
  exact (Member.fit_eq_ok_iff.1 success).toConditioned

theorem members_ne_nil_of_fit {completed : Observations K}
    {pending : List (List K)} {size : Nat} {tuner : Tuner K} {padding : Padding}
    {key : Key}
    (fitted : fit completed pending size tuner padding key = .ok ensemble) :
    ensemble.members ≠ [] := by
  obtain ⟨nonempty, rfl⟩ := fit_eq_ok_iff.1 fitted
  exact nonempty

/-- The same completed points seen by the same processes. -/
structure SameModels (first second : Ensemble K) : Prop where
  completed : second.completed = first.completed
  padding : second.padding = first.padding
  members : second.members.map (·.completed) = first.members.map (·.completed)

omit [Scalar K] in
theorem SameModels.trans {third : Ensemble K} (left : ensemble.SameModels next)
    (right : next.SameModels third) : ensemble.SameModels third :=
  ⟨right.completed.trans left.completed, right.padding.trans left.padding,
    right.members.trans left.members⟩

omit [Scalar K] in
theorem SameModels.members_ne_nil (same : ensemble.SameModels next)
    (nonempty : ensemble.members ≠ []) : next.members ≠ [] := by
  intro none
  have members := same.members
  rw [none, List.map_nil] at members
  exact nonempty (List.map_eq_nil_iff.1 members.symm)

theorem conditionOn_eq_ok {pending : List (List K)}
    (success : ensemble.conditionOn pending = .ok next) :
    next.completed = ensemble.completed ∧ next.padding = ensemble.padding ∧
      next.pending = pending ∧
        List.Forall₂
          (fun member renewed =>
            member.recondition ensemble.completed ensemble.padding pending =
              .ok renewed)
          ensemble.members next.members := by
  rw [conditionOn] at success
  split at success
  case h_1 => cases success
  case h_2 members found =>
      cases success
      exact ⟨rfl, rfl, rfl, (mapM_eq_ok_iff _ _ _).1 found⟩

/-- A change that succeeds keeps the models of the completed points. -/
theorem sameModels_of_conditionOn {pending : List (List K)}
    (success : ensemble.conditionOn pending = .ok next) : ensemble.SameModels next := by
  obtain ⟨completed, padding, _, members⟩ := conditionOn_eq_ok success
  refine ⟨completed, padding, ?_⟩
  exact (map_eq_of_forall₂ members fun _ _ recondition =>
    (Member.completed_of_recondition recondition).1.symm).symm

theorem Conditioned.conditionOn {pending : List (List K)}
    (conditioned : ensemble.Conditioned)
    (success : ensemble.conditionOn pending = .ok next) :
    next.Conditioned ∧ ensemble.SameModels next := by
  obtain ⟨completed, padding, samePending, members⟩ := conditionOn_eq_ok success
  refine ⟨fun renewed found => ?_, sameModels_of_conditionOn success⟩
  obtain ⟨member, inMembers, recondition⟩ := exists_of_mem_of_forall₂ members found
  rw [completed, padding, samePending]
  exact (conditioned member inMembers).recondition recondition

/-- An ensemble is conditioned on its own pending points. -/
theorem Conditioned.conditionOn_pending (conditioned : ensemble.Conditioned) :
    ensemble.conditionOn ensemble.pending = .ok ensemble := by
  have members :
      ensemble.members.mapM
          (Member.recondition ensemble.completed ensemble.padding
            ensemble.pending) =
        .ok ensemble.members :=
    mapM_eq_ok_self fun member found =>
      (conditioned member found).recondition_pending
  rw [Ensemble.conditionOn, members]

/-- Points that were pending before play no part when they are replaced. -/
theorem conditionOn_conditionOn {pending more : List (List K)}
    (success : ensemble.conditionOn pending = .ok next) :
    next.conditionOn more = ensemble.conditionOn more := by
  obtain ⟨completed, padding, _, members⟩ := conditionOn_eq_ok success
  have same :
      next.members.mapM
          (Member.recondition ensemble.completed ensemble.padding more) =
        ensemble.members.mapM
          (Member.recondition ensemble.completed ensemble.padding more) :=
    mapM_eq_of_forall₂
      (members.imp fun _ _ recondition =>
        Member.recondition_recondition recondition).flip
  rw [conditionOn, conditionOn, completed, padding, same]

/-- Ensembles with the same models agree on the view of completed points. -/
theorem SameModels.predict_completed (same : ensemble.SameModels next)
    (point : List K) :
    next.predict .completed point = ensemble.predict .completed point := by
  have moments :
      next.members.map (fun member => (member.process .completed).predict point) =
        ensemble.members.map
          (fun member => (member.process .completed).predict point) := by
    have mapped :=
      congrArg (List.map fun process => process.predict point) same.members
    simpa [Member.process, Function.comp_def] using mapped
  rw [predict, predict, moments]

/-- Where both views have their points, the same models have the same parameters. -/
theorem Conditioned.views_of_sameModels (conditionedNext : next.Conditioned)
    (conditioned : ensemble.Conditioned) (same : ensemble.SameModels next) :
    next.members.map (fun member => (member.completed, member.all.parameters)) =
      ensemble.members.map
        (fun member => (member.completed, member.all.parameters)) := by
  have parameters : ∀ {other : Ensemble K}, other.Conditioned →
      other.members.map (fun member => (member.completed, member.all.parameters)) =
        (other.members.map (·.completed)).map
          (fun process => (process, process.parameters)) := by
    intro other conditionedOther
    rw [List.map_map]
    refine List.map_congr_left fun member found => ?_
    rw [(conditionedOther member found).parameters_all]
    rfl
  rw [parameters conditionedNext, parameters conditioned, same.members]

theorem exists_conditionOn_of_call {request : PendingCall K}
    (success : ensemble.call request = .ok next) :
    ∃ pending, ensemble.conditionOn pending = .ok next := by
  cases request with
  | replace pending => exact ⟨pending, success⟩
  | add point => exact ⟨ensemble.pending ++ [point], success⟩

/-- Calls, of which some may fail, keep the members conditioned on the points of
the ensemble, and keep what is known of the completed ones. -/
theorem Conditioned.after (conditioned : ensemble.Conditioned)
    (calls : List (PendingCall K)) :
    (ensemble.after calls).Conditioned ∧
      ensemble.SameModels (ensemble.after calls) := by
  induction calls generalizing ensemble with
  | nil => exact ⟨conditioned, rfl, rfl, rfl⟩
  | cons request calls inductionHypothesis =>
      rw [Ensemble.after, List.foldl_cons]
      cases outcome : ensemble.call request with
      | error failure => exact inductionHypothesis conditioned
      | ok next =>
          obtain ⟨pending, success⟩ := exists_conditionOn_of_call outcome
          obtain ⟨conditionedNext, same⟩ := conditioned.conditionOn success
          obtain ⟨later, sameLater⟩ := inductionHypothesis conditionedNext
          exact ⟨later, same.trans sameLater⟩

end Steps

end Ensemble

end BatchBayes
