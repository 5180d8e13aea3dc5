import Mathlib
import BatchBayes.Proofs.Surrogate.Feasible
/-!
Pending points that are changed in place. A change that fails leaves everything as it was,
and points that come one by one make the same ensemble as points that come at once, whether
they come after fitting or were pending before.
-/

namespace BatchBayes

/-! ## Members -/

namespace Member

variable {K : Type} [Scalar K] {completed : Observations K} {padding : Padding}
  {pending more : List (List K)} {tuner : Tuner K} {key : Key} {member next : Member K}

/-- The members are reconditioned if their processes are. -/
theorem mapM_recondition (completed : Observations K) (padding : Padding)
    (pending : List (List K)) (members : List (Member K)) :
    members.mapM (recondition completed padding pending) =
      (members.mapM fun member =>
          condition completed padding member.completed pending).map
        (List.zipWith (fun member all => { member with all }) members) := by
  induction members with
  | nil => rfl
  | cons member members inductionHypothesis =>
      rw [List.mapM_cons, List.mapM_cons, inductionHypothesis, recondition]
      cases condition completed padding member.completed pending with
      | error failure => rfl
      | ok all =>
          cases members.mapM fun member =>
              condition completed padding member.completed pending with
          | error failure => rfl
          | ok processes => rfl

theorem Fitted.recondition (fitted : member.Fitted completed padding pending tuner key)
    (success : member.recondition completed padding more = .ok next) :
    next.Fitted completed padding more tuner key := by
  refine ⟨fitted.toConditioned.recondition success, ?_⟩
  rw [(completed_of_recondition success).1]
  exact fitted.tuned

end Member

/-! ## Ensembles -/

namespace Ensemble

section Changes

variable {K : Type} [Scalar K] {ensemble next : Ensemble K}

/-- Replacing pending points in place gives the ensemble conditioned on them, or leaves the
ensemble as it is. -/
theorem run_replacePending (ensemble : Ensemble K) (pending : List (List K)) :
    (replacePending pending).run ensemble =
      match ensemble.conditionOn pending with
      | .ok next => .ok () next
      | .error failure => .error failure ensemble := by
  rw [conditionOn, Member.mapM_recondition, replacePending]
  cases outcome : ensemble.members.mapM fun member =>
      Member.condition ensemble.completed ensemble.padding member.completed pending with
  | error failure =>
      simp only [EStateM.run_bind, EStateM.run_get, outcome]
      rfl
  | ok processes =>
      simp only [EStateM.run_bind, EStateM.run_get, outcome]
      rfl

theorem run_appendPending (ensemble : Ensemble K) (point : List K) :
    (appendPending point).run ensemble =
      (replacePending (ensemble.pending ++ [point])).run ensemble := rfl

theorem run_replacePending_eq_ok_iff {pending : List (List K)} :
    (replacePending pending).run ensemble = .ok () next ↔
      ensemble.conditionOn pending = .ok next := by
  rw [run_replacePending]
  cases ensemble.conditionOn pending <;> simp

/-- Points that are added one by one are pending together. -/
theorem Conditioned.conditionOn_of_run_appendPending (conditioned : ensemble.Conditioned)
    {points : List (List K)}
    (success : (points.forM appendPending).run ensemble = .ok () next) :
    ensemble.conditionOn (ensemble.pending ++ points) = .ok next := by
  induction points generalizing ensemble with
  | nil =>
      cases success
      rw [List.append_nil]
      exact conditioned.conditionOn_pending
  | cons point points inductionHypothesis =>
      rw [List.forM, EStateM.run_bind, run_appendPending, run_replacePending] at success
      cases first : ensemble.conditionOn (ensemble.pending ++ [point]) with
      | error failure =>
          rw [first] at success
          cases success
      | ok middle =>
          rw [first] at success
          obtain ⟨later, _⟩ := conditioned.conditionOn first
          -- The rest are conditioned from the first ensemble too: what was pending in
          -- between plays no part.
          have rest := inductionHypothesis later success
          obtain ⟨_, _, pending, _⟩ := conditionOn_eq_ok first
          rwa [conditionOn_conditionOn first, pending, List.append_assoc] at rest

/-! ## Fitting -/

/-- Where no member is dropped, each of them has a key. -/
theorem forall₂_fitted_of_fit {completed : Observations K} {pending : List (List K)}
    {size : Nat} {tuner : Tuner K} {padding : Padding} {key : Key}
    (fitted : fit completed pending size tuner padding key = .ok ensemble)
    (whole : ensemble.members.length = max size 1) :
    List.Forall₂
      (fun key (member : Member K) =>
        member.Fitted completed.unpadded padding pending tuner key)
      (key.children (max size 1)) ensemble.members := by
  obtain ⟨_, rfl⟩ := fit_eq_ok_iff.1 fitted
  obtain ⟨kept, sublist, _, pairs⟩ :=
    exists_kept_filterMap_toOption
      (Member.fit completed.unpadded padding tuner pending) (key.children (max size 1))
  -- The keys that are kept are as many as all keys.
  have all : kept = key.children (max size 1) := by
    apply sublist.eq_of_length
    rw [pairs.length_eq, Key.length_children]
    exact whole
  rw [all] at pairs
  exact pairs.imp fun _ _ success => Member.fit_eq_ok_iff.1 success

/-- Where no member is dropped, pending points give the same ensemble before and after
fitting. -/
theorem fit_of_conditionOn {completed : Observations K} {pending more : List (List K)}
    {size : Nat} {tuner : Tuner K} {padding : Padding} {key : Key}
    (fitted : fit completed pending size tuner padding key = .ok ensemble)
    (whole : ensemble.members.length = max size 1)
    (success : ensemble.conditionOn more = .ok next) :
    fit completed more size tuner padding key = .ok next := by
  obtain ⟨sameCompleted, _, samePadding, _⟩ := fit_eq_ok fitted
  obtain ⟨nextCompleted, nextPadding, nextPending, renewed⟩ := conditionOn_eq_ok success
  rw [sameCompleted, samePadding] at renewed
  have each :
      List.Forall₂
        (fun key (member : Member K) =>
          member.Fitted completed.unpadded padding more tuner key)
        (key.children (max size 1)) next.members :=
    forall₂_trans (fun _ _ _ own change => own.recondition change)
      (forall₂_fitted_of_fit fitted whole) renewed
  refine fit_eq_ok_iff.2 ⟨?_, ?_⟩
  · rw [survivors_eq_of_forall₂ each, Ne, ← List.length_eq_zero_iff, ← each.length_eq,
      Key.length_children]
    omega
  · rw [survivors_eq_of_forall₂ each, ← sameCompleted, ← samePadding, ← nextCompleted,
      ← nextPadding, ← nextPending]

end Changes

/-! ## Changes that succeed -/

section Success

variable {ensemble : Ensemble ℝ} {points : List (List ℝ)}

/-- Points of the right dimension can be added one by one. -/
theorem Conditioned.exists_run_appendPending (conditioned : ensemble.Conditioned)
    (proper : ensemble.Proper)
    (lengths : ∀ point ∈ points, point.length = ensemble.completed.dimension) :
    ∃ next, (points.forM appendPending).run ensemble = .ok () next := by
  induction points generalizing ensemble with
  | nil => exact ⟨ensemble, rfl⟩
  | cons point points inductionHypothesis =>
      obtain ⟨middle, success⟩ :=
        conditioned.exists_addPending proper (lengths point List.mem_cons_self)
      obtain ⟨later, same⟩ := conditioned.conditionOn success
      obtain ⟨next, rest⟩ :=
        inductionHypothesis later (proper.of_sameModels same) fun other member => by
          rw [same.completed]
          exact lengths other (List.mem_cons_of_mem point member)
      refine ⟨next, ?_⟩
      rw [List.forM, EStateM.run_bind, run_appendPending,
        run_replacePending_eq_ok_iff.2 success]
      exact rest

end Success

/-! ## Requests -/

section Requests

variable {K : Type} [Scalar K]

/-- What a request does in place. -/
def PendingCall.inPlace : PendingCall K → EStateM FitError (Ensemble K) Unit
  | .replace pending => replacePending pending
  | .add point => appendPending point

/-- The points that are pending once a request was taken. -/
def PendingCall.wanted (ensemble : Ensemble K) : PendingCall K → List (List K)
  | .replace pending => pending
  | .add point => ensemble.pending ++ [point]

theorem PendingCall.run_inPlace (request : PendingCall K) (ensemble : Ensemble K) :
    request.inPlace.run ensemble =
      match ensemble.conditionOn (request.wanted ensemble) with
      | .ok next => .ok () next
      | .error failure => .error failure ensemble := by
  cases request with
  | replace pending => exact run_replacePending ensemble pending
  | add point => exact run_replacePending ensemble (ensemble.pending ++ [point])

/-- If fitting drops no member and further pending points are then added one by one, they
make the ensemble that they make at once, and the one that is fitted with all of them
pending. At every ensemble a request that fails changes nothing, and one that succeeds
changes the pending points and their view only. -/
theorem pending_points_one_by_one_or_at_once (K : Type) [Scalar K] :
    (∀ (completed : Observations K) (pending points : List (List K)) (size : Nat)
        (tuner : Tuner K) (padding : Padding) (key : Key) (first last : Ensemble K),
      fit completed pending size tuner padding key = .ok first →
      first.members.length = max size 1 →
      (points.forM appendPending).run first = .ok () last →
      (replacePending (pending ++ points)).run first = .ok () last ∧
        fit completed (pending ++ points) size tuner padding key = .ok last) ∧
    ∀ (ensemble : Ensemble K) (request : PendingCall K),
      (∀ failure after,
        request.inPlace.run ensemble = .error failure after → after = ensemble) ∧
      ∀ after,
        request.inPlace.run ensemble = .ok () after →
        ensemble.SameModels after ∧ after.pending = request.wanted ensemble := by
  constructor
  · intro completed pending points size tuner padding key first last fitted whole success
    have atOnce := (conditioned_of_fit fitted).conditionOn_of_run_appendPending success
    rw [(fit_eq_ok fitted).2.1] at atOnce
    exact ⟨run_replacePending_eq_ok_iff.2 atOnce, fit_of_conditionOn fitted whole atOnce⟩
  · intro ensemble request
    rw [request.run_inPlace]
    cases outcome : ensemble.conditionOn (request.wanted ensemble) with
    | error failure =>
        refine ⟨fun _ after same => ?_, fun after never => ?_⟩
        · cases same
          rfl
        · cases never
    | ok next =>
        refine ⟨fun _ after never => ?_, fun after same => ?_⟩
        · cases never
        · cases same
          exact ⟨sameModels_of_conditionOn outcome, (conditionOn_eq_ok outcome).2.2.1⟩

theorem pending_points_one_by_one_or_at_once_of_two_members :
    ∃ first last : Ensemble ℝ,
      fit (.ofPoints [[0], [1]] [1, 2] 1) [[2]] 2 RestartSearch.standard.tune
          PaddingRule.powersOfTwo.capacity (.ofSeed 1) = .ok first ∧
        first.members.length = 2 ∧
          (List.forM [[3], [4]] appendPending).run first = .ok () last ∧
            (replacePending [[2], [3], [4]]).run first = .ok () last ∧
              fit (.ofPoints [[0], [1]] [1, 2] 1) [[2], [3], [4]] 2
                  RestartSearch.standard.tune PaddingRule.powersOfTwo.capacity
                  (.ofSeed 1) = .ok last := by
  obtain ⟨first, fitted, proper, dimension, whole⟩ := exists_fit_two_points
  obtain ⟨last, added⟩ :
      ∃ last, (List.forM [[3], [4]] appendPending).run first = .ok () last :=
    (conditioned_of_fit fitted).exists_run_appendPending proper
      (by simp [dimension])
  obtain ⟨atOnce, before⟩ :=
    (pending_points_one_by_one_or_at_once ℝ).1 _ _ _ _ _ _ _ first last fitted whole added
  exact ⟨first, last, fitted, whole, added, atOnce, before⟩

end Requests

end Ensemble

end BatchBayes
