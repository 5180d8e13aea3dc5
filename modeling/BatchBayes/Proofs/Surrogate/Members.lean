import Mathlib
import BatchBayes.Proofs.Surrogate.Feasible
/-!
The members of an ensemble do not know of each other. Each is fitted with the key of its
own index, a larger ensemble begins with the members of a smaller one, and a member that
fails leaves the others as they are.
-/

namespace BatchBayes

/-- One way to choose parameters gives those of another, where it gives any. -/
def Tuner.WeakerThan {K : Type} (other tuner : Tuner K) : Prop :=
  ∀ data key parameters,
    other data key = .ok parameters → tuner data key = .ok parameters

/-- The search, without an answer for one key. -/
noncomputable def RestartSearch.tuneWithout (search : RestartSearch ℝ) (missing : Key) :
    Tuner ℝ := fun data key =>
  if key = missing then .error .nonFiniteLikelihood else search.tune data key

namespace Member

variable {search : RestartSearch ℝ} {completed : Observations ℝ} {padding : Padding}
  {pending : List (List ℝ)} {missing : Key}

theorem exists_fitted_tuneWithout {key : Key} (different : key ≠ missing)
    (rows : ∀ row ∈ completed.validRows, row.features.length = completed.dimension)
    (lengths : ∀ point ∈ pending, point.length = completed.dimension) :
    ∃ member : Member ℝ,
      member.Fitted completed padding pending (search.tuneWithout missing) key := by
  obtain ⟨member, success⟩ := exists_fit search completed padding rows lengths key
  obtain ⟨conditioned, tuned⟩ := fit_eq_ok_iff.1 success
  refine ⟨member, conditioned, ?_⟩
  rw [RestartSearch.tuneWithout, if_neg different, tuned]

theorem not_fitted_tuneWithout (member : Member ℝ) :
    ¬member.Fitted completed padding pending (search.tuneWithout missing) missing := by
  intro fitted
  have tuned := fitted.tuned
  rw [RestartSearch.tuneWithout, if_pos rfl] at tuned
  cases tuned

end Member

namespace Ensemble

section Sizes

variable {K : Type} [Scalar K] {completed : Observations K} {pending : List (List K)}
  {tuner other : Tuner K} {padding : Padding} {key : Key} {size : Nat}
  {ensemble : Ensemble K}

/-! ## Members that succeed -/

theorem fit_eq_error_iff {failure : FitError} :
    fit completed pending size tuner padding key = .error failure ↔
      failure = .emptyEnsemble (max size 1) ∧
        survivors completed.unpadded pending tuner padding (key.children (max size 1)) =
          [] := by
  rw [fit, ← survivors, Key.length_children]
  split
  case isTrue none =>
      rw [List.isEmpty_iff] at none
      simp [none, eq_comm]
  case isFalse some =>
      rw [List.isEmpty_iff] at some
      simp [some]

theorem survivors_eq_nil_iff {count : Nat} :
    survivors completed pending tuner padding (key.children count) = [] ↔
      ∀ index < count,
        ∀ member : Member K,
          ¬member.Fitted completed padding pending tuner
            (key.fold (UInt64.ofNat index)) := by
  simp only [survivors, List.filterMap_eq_nil_iff, Key.children, List.forall_mem_map,
    List.mem_range, toOption_eq_none_iff, Member.fit_eq_ok_iff, Ne]

/-- The members that survive, each with its index. -/
theorem exists_indices_survivors (completed : Observations K) (pending : List (List K))
    (tuner : Tuner K) (padding : Padding) (key : Key) (count : Nat) :
    ∃ indices : List Nat,
      indices.Pairwise (· < ·) ∧
        (∀ index,
          index ∈ indices ↔
            index < count ∧
              ∃ member : Member K,
                member.Fitted completed padding pending tuner
                  (key.fold (UInt64.ofNat index))) ∧
          List.Forall₂
            (fun index (member : Member K) =>
              member.Fitted completed padding pending tuner
                (key.fold (UInt64.ofNat index)))
            indices (survivors completed pending tuner padding (key.children count)) := by
  obtain ⟨indices, sublist, kept, pairs⟩ :=
    exists_kept_filterMap_toOption
      (fun index =>
        Member.fit completed padding tuner pending (key.fold (UInt64.ofNat index)))
      (List.range count)
  simp only [Member.fit_eq_ok_iff, List.mem_range] at kept pairs
  refine ⟨indices, List.pairwise_lt_range.sublist sublist, kept, ?_⟩
  rw [survivors, Key.children, List.filterMap_map]
  exact pairs

/-! ## Ensembles of different sizes -/

theorem survivors_prefix (completed : Observations K) (pending : List (List K))
    (tuner : Tuner K) (padding : Padding) (key : Key) {few many : Nat}
    (fewer : few ≤ many) :
    survivors completed pending tuner padding (key.children few) <+:
      survivors completed pending tuner padding (key.children many) := by
  rw [← key.children_take fewer]
  exact (List.take_prefix few (key.children many)).filterMap _

theorem exists_fit_of_le {few many : Nat} (fewer : few ≤ many)
    (success : fit completed pending few tuner padding key = .ok ensemble) :
    ∃ later,
      fit completed pending many tuner padding key =
        .ok { ensemble with members := ensemble.members ++ later } := by
  obtain ⟨nonempty, rfl⟩ := fit_eq_ok_iff.1 success
  obtain ⟨later, begins⟩ :=
    survivors_prefix completed.unpadded pending tuner padding key (max_le_max_right 1 fewer)
  refine ⟨later, fit_eq_ok_iff.2 ⟨?_, ?_⟩⟩
  · rw [← begins]
    exact List.append_ne_nil_of_left_ne_nil nonempty later
  · rw [← begins]

/-! ## Failing members -/

theorem survivors_sublist (weaker : other.WeakerThan tuner) (completed : Observations K)
    (pending : List (List K)) (padding : Padding) (keys : List Key) :
    (survivors completed pending other padding keys).Sublist
      (survivors completed pending tuner padding keys) := by
  refine filterMap_sublist_filterMap (fun key member success => ?_) keys
  rw [toOption_eq_some_iff, Member.fit_eq_ok_iff] at success ⊢
  exact ⟨success.toConditioned, weaker _ _ _ success.tuned⟩

theorem exists_fit_of_weaker (weaker : other.WeakerThan tuner)
    (success : fit completed pending size other padding key = .ok ensemble) :
    ∃ members,
      ensemble.members.Sublist members ∧
        fit completed pending size tuner padding key =
          .ok { ensemble with members } := by
  obtain ⟨nonempty, rfl⟩ := fit_eq_ok_iff.1 success
  have sublist :=
    survivors_sublist weaker completed.unpadded pending padding (key.children (max size 1))
  refine ⟨_, sublist, fit_eq_ok_iff.2 ⟨fun none => nonempty ?_, rfl⟩⟩
  rw [none] at sublist
  exact List.sublist_nil.1 sublist

end Sizes

/-- The members of a fitted ensemble are, in the order of their indices, those that can be
fitted with the keys of their own indices, and fitting fails only where none can. More
members continue those of a smaller ensemble, and where parameters are found for more of
the keys, members come in between and the others stay as they are. -/
theorem members_with_keys_of_their_own {K : Type} [Scalar K] (completed : Observations K)
    (pending : List (List K)) (tuner : Tuner K) (padding : Padding) (key : Key) :
    (∀ size ensemble,
      fit completed pending size tuner padding key = .ok ensemble →
      ∃ indices : List Nat,
        indices.Pairwise (· < ·) ∧
          (∀ index,
            index ∈ indices ↔
              index < max size 1 ∧
                ∃ member : Member K,
                  member.Fitted completed.unpadded padding pending tuner
                    (key.fold (UInt64.ofNat index))) ∧
            List.Forall₂
              (fun index (member : Member K) =>
                member.Fitted completed.unpadded padding pending tuner
                  (key.fold (UInt64.ofNat index)))
              indices ensemble.members) ∧
    (∀ size failure,
      fit completed pending size tuner padding key = .error failure ↔
        failure = .emptyEnsemble (max size 1) ∧
          ∀ index < max size 1,
            ∀ member : Member K,
              ¬member.Fitted completed.unpadded padding pending tuner
                (key.fold (UInt64.ofNat index))) ∧
    (∀ few many first,
      few ≤ many →
      fit completed pending few tuner padding key = .ok first →
      ∃ later,
        fit completed pending many tuner padding key =
          .ok { first with members := first.members ++ later }) ∧
    (∀ other : Tuner K,
      other.WeakerThan tuner →
      ∀ size fewer,
        fit completed pending size other padding key = .ok fewer →
        ∃ members,
          fewer.members.Sublist members ∧
            fit completed pending size tuner padding key =
              .ok { fewer with members }) := by
  refine ⟨fun size ensemble success => ?_, fun size failure => ?_,
    fun few many first fewer success => exists_fit_of_le fewer success,
    fun other weaker size fewer success => exists_fit_of_weaker weaker success⟩
  · obtain ⟨_, rfl⟩ := fit_eq_ok_iff.1 success
    exact exists_indices_survivors _ _ _ _ _ _
  · rw [fit_eq_error_iff, survivors_eq_nil_iff]

/-- Where the search has no answer for the second of three members, the first and the
third remain. -/
theorem members_with_keys_of_their_own_without_second :
    let data : Observations ℝ := .ofPoints [[0], [1]] [1, 2] 1
    let tuner := RestartSearch.standard.tuneWithout ((Key.ofSeed 1).fold 1)
    let padding := PaddingRule.powersOfTwo.capacity
    ∃ (first third : Member ℝ) (start : Ensemble ℝ),
      first.Fitted data.unpadded padding [[2]] tuner ((Key.ofSeed 1).fold 0) ∧
        third.Fitted data.unpadded padding [[2]] tuner ((Key.ofSeed 1).fold 2) ∧
          start.members = [first] ∧
            fit data [[2]] 0 tuner padding (.ofSeed 1) = .ok start ∧
              fit data [[2]] 3 tuner padding (.ofSeed 1) =
                .ok { start with members := [first, third] } := by
  intro data tuner padding
  have others : ∀ {key : Key}, key ≠ (Key.ofSeed 1).fold 1 →
      ∃ member : Member ℝ, member.Fitted data.unpadded padding [[2]] tuner key := by
    intro key different
    refine Member.exists_fitted_tuneWithout different ?_ (by simp [data, Observations.ofPoints])
    rw [Observations.validRows_unpadded]
    exact Observations.row_length_ofPoints (by simp) [1, 2]
  have succeeds : ∀ index < 3,
      (∃ member : Member ℝ,
          member.Fitted data.unpadded padding [[2]] tuner
            ((Key.ofSeed 1).fold (UInt64.ofNat index))) ↔
        index ≠ 1 := by
    intro index bound
    constructor
    · rintro ⟨member, fitted⟩ rfl
      exact Member.not_fitted_tuneWithout member fitted
    · intro different
      apply others
      interval_cases index
      · decide
      · exact absurd rfl different
      · decide
  obtain ⟨kept, fails, larger, _⟩ :=
    members_with_keys_of_their_own data [[2]] tuner padding (.ofSeed 1)
  cases alone : fit data [[2]] 0 tuner padding (.ofSeed 1) with
  | error failure =>
      obtain ⟨member, fitted⟩ := (succeeds 0 (by decide)).2 (by decide)
      exact absurd fitted (((fails 0 failure).1 alone).2 0 (by decide) member)
  | ok start =>
      -- At least one member is tried, so that the size zero gives the first of the three.
      obtain ⟨later, continued⟩ := larger 0 3 start (by decide) alone
      obtain ⟨indices, sorted, each, pairs⟩ := kept 0 start alone
      obtain ⟨all, sortedAll, eachAll, pairsAll⟩ := kept 3 _ continued
      obtain rfl : indices = [0] := by
        refine sorted.eq_of_mem_iff (by decide) fun index => ?_
        rw [each, List.mem_singleton]
        constructor
        · rintro ⟨bound, _⟩
          omega
        · rintro rfl
          exact ⟨by decide, (succeeds 0 (by decide)).2 (by decide)⟩
      obtain rfl : all = [0, 2] := by
        refine sortedAll.eq_of_mem_iff (by decide) fun index => ?_
        rw [eachAll, List.mem_pair]
        constructor
        · rintro ⟨bound, found⟩
          have different := (succeeds index bound).1 found
          omega
        · rintro (rfl | rfl)
          · exact ⟨by decide, (succeeds 0 (by decide)).2 (by decide)⟩
          · exact ⟨by decide, (succeeds 2 (by decide)).2 (by decide)⟩
      obtain ⟨first, _, fitted, none, members⟩ := List.forall₂_cons_left_iff.1 pairs
      obtain rfl := List.forall₂_nil_left_iff.1 none
      rw [members] at pairsAll continued
      obtain ⟨_, rest⟩ := List.forall₂_cons.1 pairsAll
      obtain ⟨third, _, fittedThird, none, rfl⟩ := List.forall₂_cons_left_iff.1 rest
      obtain rfl := List.forall₂_nil_left_iff.1 none
      exact ⟨first, third, start, fitted, fittedThird, members, rfl, continued⟩

end Ensemble

end BatchBayes
