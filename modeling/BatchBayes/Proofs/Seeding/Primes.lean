import Mathlib
import BatchBayes.Double
import BatchBayes.Proofs.Loop
import BatchBayes.Proofs.Random.Draws
import BatchBayes.Seeding.Seeder
/-!
The bases of the low-discrepancy sequence. Trial division tells the primes, the search among
odd numbers ends at the prime that is asked for, and so every parameter of a space has a prime
of its own as its base.
-/

namespace BatchBayes

/-! ## Trial division -/

/-- A property of all numbers up to some number holds of the numbers taken and no others. -/
theorem mem_takeWhile_range' {property : Nat → Bool}
    (closed : ∀ small large, small ≤ large → property large = true → property small = true)
    {start length number : Nat} :
    number ∈ (List.range' start length).takeWhile property ↔
      start ≤ number ∧ number < start + length ∧ property number = true := by
  induction length generalizing start with
  | zero =>
      rw [List.range'_zero, List.takeWhile_nil]
      refine iff_of_false List.not_mem_nil ?_
      omega
  | succ length inductionHypothesis =>
      rw [List.range'_succ]
      by_cases holds : property start = true
      · rw [List.takeWhile_cons_of_pos holds, List.mem_cons, inductionHypothesis]
        constructor
        · rintro (rfl | ⟨above, below, inside⟩)
          · exact ⟨le_rfl, by omega, holds⟩
          · exact ⟨by omega, by omega, inside⟩
        · rintro ⟨above, below, inside⟩
          rcases above.eq_or_lt with rfl | later
          · exact .inl rfl
          · exact .inr ⟨later, by omega, inside⟩
      · rw [List.takeWhile_cons_of_neg holds]
        refine iff_of_false List.not_mem_nil ?_
        rintro ⟨above, _, inside⟩
        exact holds (closed start number above inside)

theorem isPrime_iff (n : Nat) : isPrime n = true ↔ n.Prime := by
  have closed : ∀ small large : Nat, small ≤ large →
      decide (large * large ≤ n) = true → decide (small * small ≤ n) = true := by
    intro small large order inside
    rw [decide_eq_true_iff] at inside ⊢
    exact (Nat.mul_le_mul order order).trans inside
  rw [isPrime, Nat.prime_def_le_sqrt, Bool.and_eq_true, decide_eq_true_iff,
    List.all_eq_true]
  refine and_congr_right fun _ => forall_congr' fun divisor => ?_
  rw [mem_takeWhile_range' closed, decide_eq_true_iff, bne_iff_ne, Ne,
    ← Nat.dvd_iff_mod_eq_zero, Nat.le_sqrt]
  constructor
  · intro untouched proper small
    have below := Nat.le_mul_self divisor
    exact untouched ⟨proper, by omega, small⟩
  · rintro untouched ⟨proper, _, small⟩
    exact untouched proper small

theorem count_prime_eq (n : Nat) :
    Nat.count Nat.Prime n = (List.range n).countP isPrime := by
  induction n with
  | zero => rfl
  | succ n inductionHypothesis =>
      rw [Nat.count_succ, inductionHypothesis, List.range_succ, List.countP_append,
        List.countP_singleton]
      simp only [isPrime_iff]

/-! ## The search -/

namespace PrimeSearch

variable {index : Nat} {search later : PrimeSearch index}

/-- All that a turn can do. -/
theorem turn_cases (next : search.turn = some later) :
    later.candidate = search.candidate + 2 ∧
      (search.candidate.Prime ∧ search.count ≠ index ∧ later.count = search.count + 1 ∨
        ¬ search.candidate.Prime ∧ later.count = search.count) := by
  rw [turn] at next
  by_cases prime : search.candidate.Prime
  · rw [if_pos ((isPrime_iff _).2 prime)] at next
    by_cases last : search.count = index
    · rw [dif_pos last] at next
      cases next
    · rw [dif_neg last] at next
      obtain rfl := Option.some.inj next
      exact ⟨rfl, .inl ⟨prime, last, rfl⟩⟩
  · rw [if_neg (mt (isPrime_iff _).1 prime)] at next
    obtain rfl := Option.some.inj next
    exact ⟨rfl, .inr ⟨prime, rfl⟩⟩

theorem prime_of_turn_eq_none (last : search.turn = none) :
    search.candidate.Prime ∧ search.count = index := by
  rw [turn] at last
  by_cases prime : search.candidate.Prime
  · refine ⟨prime, ?_⟩
    by_contra earlier
    rw [if_pos ((isPrime_iff _).2 prime), dif_neg earlier] at last
    cases last
  · rw [if_neg (mt (isPrime_iff _).1 prime)] at last
    cases last

/-- The even number that is left out is no prime. -/
theorem count_add_two (search : PrimeSearch index) :
    Nat.count Nat.Prime (search.candidate + 2) =
      Nat.count Nat.Prime search.candidate + if search.candidate.Prime then 1 else 0 := by
  have even : ¬ (search.candidate + 1).Prime := by
    intro prime
    have odd := search.odd
    have above := search.above
    rcases prime.eq_two_or_odd with two | oddNext
    · omega
    · omega
  rw [Nat.count_succ, Nat.count_succ, if_neg even, Nat.add_zero]

/-- The prime that is searched for: it has the primes below the candidate before it, and those
that are still to be counted. -/
noncomputable def target (search : PrimeSearch index) : Nat :=
  Nat.nth Nat.Prime (Nat.count Nat.Prime search.candidate + (index - search.count))

/-- There are infinitely many primes, so the one that is searched for is still to come. -/
theorem candidate_le_target (search : PrimeSearch index) :
    search.candidate ≤ search.target := by
  rw [target, ← Nat.count_le_iff_le_nth Nat.infinite_setOfPred_prime]
  exact Nat.le_add_right _ _

theorem target_eq_of_turn (next : search.turn = some later) :
    later.target = search.target := by
  obtain ⟨candidate, ⟨prime, notLast, count⟩ | ⟨composite, count⟩⟩ := turn_cases next
  · have ahead := search.ahead
    rw [target, candidate, count, count_add_two, if_pos prime, target]
    congr 1
    omega
  · rw [target, candidate, count, count_add_two, if_neg composite, Nat.add_zero, target]

theorem ends : Loop.Ends (turn : PrimeSearch index → Option (PrimeSearch index)) := by
  refine .of_decreasing (fun search => search.target - search.candidate) ?_
  intro earlier later next
  -- A turn comes nearer to the prime and does not pass it.
  have same := target_eq_of_turn next
  have notPassed := later.candidate_le_target
  obtain ⟨candidate, _⟩ := turn_cases next
  omega

theorem candidate_run (search : PrimeSearch index) :
    (Loop.run turn search).candidate = search.target := by
  obtain ⟨prime, last⟩ := prime_of_turn_eq_none (ends.turn_run search)
  rw [← ends.run_invariant target target_eq_of_turn search, target, last, Nat.sub_self,
    Nat.add_zero, Nat.nth_count prime]

end PrimeSearch

/-! ## Primes by number -/

theorem nth_prime_of_kept {index prime : Nat} (kept : firstPrimes[index]? = some prime) :
    Nat.nth Nat.Prime index = prime := by
  have table : ∀ entry ∈ firstPrimes.zipIdx,
      isPrime entry.1 = true ∧ (List.range entry.1).countP isPrime = entry.2 := by
    decide +kernel
  obtain ⟨isPrime, count⟩ :=
    table (prime, index) (List.mk_mem_zipIdx_iff_getElem?.2 kept)
  rw [← count_prime_eq] at count
  dsimp only at count
  rw [← count, Nat.nth_count ((isPrime_iff prime).1 isPrime)]

theorem target_start {index : Nat} (beyond : firstPrimes.length ≤ index) :
    (PrimeSearch.start beyond).target = Nat.nth Nat.Prime index := by
  have counted :
      Nat.count Nat.Prime (firstPrimes.getLastD 0 + 2) = firstPrimes.length := by
    rw [count_prime_eq]
    decide +kernel
  rw [PrimeSearch.target, PrimeSearch.start, counted, Nat.add_sub_of_le beyond]

theorem nthPrime_eq (index : Nat) : nthPrime index = Nat.nth Nat.Prime index := by
  rw [nthPrime]
  split
  case h_1 prime kept =>
    rw [nth_prime_of_kept kept]
  case h_2 kept =>
    rw [PrimeSearch.candidate_run, target_start]

/-! ## Bases -/

/-- The bases of the sequence over a space, one for each parameter. -/
def Space.bases {K : Type} (space : Space K) : List Nat :=
  (List.range space.parameters.length).map nthPrime

section Bases

variable {K : Type}

theorem Space.length_bases (space : Space K) :
    space.bases.length = space.parameters.length := by
  rw [bases, List.length_map, List.length_range]

theorem Space.nodup_bases (space : Space K) : space.bases.Nodup := by
  refine List.Nodup.map ?_ List.nodup_range
  intro first second same
  rw [nthPrime_eq, nthPrime_eq] at same
  exact Nat.nth_injective Nat.infinite_setOfPred_prime same

theorem Space.prime_of_mem_bases {space : Space K} {base : Nat} (member : base ∈ space.bases) :
    base.Prime := by
  obtain ⟨index, _, rfl⟩ := List.mem_map.1 member
  rw [nthPrime_eq]
  exact Nat.prime_nth_prime index

theorem shiftedPoint_succ [Scalar K] {space : Space K} {shift : List K}
    (length : shift.length = space.parameters.length) (index : Nat) :
    shiftedPoint shift (index + 1) =
      List.zipWith
        (fun base move => Scalar.fractional (radicalInverse base (index + 1) + move))
        space.bases shift := by
  rw [shiftedPoint, if_neg (Nat.succ_ne_zero index), Space.bases, ← length,
    List.zipIdx_eq_zip_range', List.zipWith_map_left, List.zip_eq_zipWith,
    List.map_zipWith, ← List.range_eq_range', List.zipWith_comm]

/-- The search for a prime by its number comes to an end from everywhere on its way, and the
prime found has that number, also past the primes kept ready. So the bases of the sequence over
a space are primes that differ from each other, one for each parameter, however many there are,
and the coordinates of all points but the first are radical inverses to these bases, moved round
by the draws of the key. -/
theorem bases_distinct_primes [Scalar K] :
    nthPrime 0 = 2 ∧
    (∀ index,
      Loop.Ends (PrimeSearch.turn : PrimeSearch index → Option (PrimeSearch index)) ∧
      nthPrime index = Nat.nth Nat.Prime index) ∧
    ∀ space : Space K,
      space.bases.length = space.parameters.length ∧
      space.bases.Nodup ∧
      (∀ base ∈ space.bases, base.Prime) ∧
      ∀ (key : Key) (index : Nat),
        let shift : List K :=
          (Generator.times Generator.unit space.parameters.length key.generator).1
        shiftedPoint shift (index + 1) =
          List.zipWith
            (fun base move => Scalar.fractional (radicalInverse base (index + 1) + move))
            space.bases shift := by
  refine ⟨rfl, fun index => ⟨PrimeSearch.ends, nthPrime_eq index⟩, fun space =>
    ⟨space.length_bases, space.nodup_bases, fun _ => Space.prime_of_mem_bases, ?_⟩⟩
  intro key index shift
  exact shiftedPoint_succ (Generator.length_times _ _ _) index

/-- One parameter more than there are primes kept ready. -/
theorem bases_distinct_primes_past_kept :
    let space : Space Float := ⟨List.replicate 33 ⟨"weight", .linear 0 1⟩⟩
    space.bases.length = 33 ∧ space.bases.Nodup ∧ 137 ∈ space.bases ∧ Nat.Prime 137 := by
  intro space
  obtain ⟨_, numbered, bases⟩ := bases_distinct_primes (K := Float)
  obtain ⟨length, distinct, primes, _⟩ := bases space
  have last : nthPrime 32 = 137 := by
    have prime : Nat.Prime 137 := (isPrime_iff 137).1 (by decide +kernel)
    have count : Nat.count Nat.Prime 137 = 32 := by
      rw [count_prime_eq]
      decide +kernel
    rw [(numbered 32).2, ← count, Nat.nth_count prime]
  have member : 137 ∈ space.bases := List.mem_map.2 ⟨32, by decide, last⟩
  exact ⟨length, distinct, member, primes 137 member⟩

end Bases

end BatchBayes
