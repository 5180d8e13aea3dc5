import BatchBayes.Acquisition.Evolution
import BatchBayes.Proofs.Comparison
import BatchBayes.Proofs.Random.Draws
import BatchBayes.Proofs.Space.Settled
/-!
The search by generations. It values as many sets as its budget allows, all of them sets
of points of the domain, and what it finds is worth at least as much as every set that it
valued: a member only makes way for a child that is worth more.
-/

namespace BatchBayes

/-! ## The largest of a list -/

section Largest

variable {K : Type} [Scalar K] [OrderedScalar K] [LinearScalar K]

theorem exists_foldl_largestStep {earlier values : List K} {best : Nat} {bestValue : K}
    (numbers : ∀ value ∈ earlier ++ values, Scalar.isNaN value = false)
    (found : earlier[best]? = some bestValue)
    (largest : ∀ value ∈ earlier, value ≤ bestValue) :
    ∃ value,
      (earlier ++ values)[
          (values.foldl largestStep (best, bestValue, earlier.length)).1]? =
        some value ∧
      ∀ other ∈ earlier ++ values, other ≤ value := by
  induction values generalizing earlier best bestValue with
  | nil =>
      rw [List.append_nil]
      exact ⟨bestValue, found, largest⟩
  | cons value values inductionHypothesis =>
      have moved : earlier ++ value :: values = (earlier ++ [value]) ++ values := by simp
      have bestNumber : Scalar.isNaN bestValue = false :=
        numbers bestValue
          (List.mem_append_left _ (List.mem_of_getElem? found))
      have valueNumber : Scalar.isNaN value = false :=
        numbers value (List.mem_append_right _ List.mem_cons_self)
      have length : earlier.length + 1 = (earlier ++ [value]).length := by simp
      rw [moved] at numbers ⊢
      rw [List.foldl_cons, largestStep]
      by_cases better : bestValue < value
      · rw [if_pos better, length]
        refine inductionHypothesis numbers (by simp) fun other member => ?_
        rcases List.mem_append.1 member with old | new
        · exact OrderedScalar.le_trans (largest other old)
            (LinearScalar.le_of_lt bestNumber valueNumber better)
        · obtain rfl := List.mem_singleton.1 new
          exact LinearScalar.le_refl valueNumber
      · rw [if_neg better, length]
        refine inductionHypothesis numbers ?_ fun other member => ?_
        · rw [List.getElem?_append_left (List.getElem?_eq_some_iff.1 found).1, found]
        · rcases List.mem_append.1 member with old | new
          · exact largest other old
          · obtain rfl := List.mem_singleton.1 new
            exact (LinearScalar.le_iff_not_lt valueNumber bestNumber).2 better

theorem exists_indexOfLargest {values : List K} (nonempty : values ≠ [])
    (numbers : ∀ value ∈ values, Scalar.isNaN value = false) :
    ∃ value,
      values[indexOfLargest values]? = some value ∧ ∀ other ∈ values, other ≤ value := by
  cases values with
  | nil => exact absurd rfl nonempty
  | cons first rest =>
      have firstNumber := numbers first List.mem_cons_self
      rw [← List.singleton_append] at numbers
      exact exists_foldl_largestStep numbers rfl fun value member => by
        obtain rfl := List.mem_singleton.1 member
        exact LinearScalar.le_refl firstNumber

end Largest

/-- Drawing gives vectors of the domain, and so does projecting a vector that is as long
as one of the domain. -/
structure Domain.Closed {K : Type} (domain : Domain K) : Prop where
  contains_sample : ∀ generator, domain.contains (domain.sample generator).1 = true
  contains_project : ∀ vector member,
    domain.contains member = true → vector.length = member.length →
      domain.contains (domain.project vector) = true

namespace Evolution

variable {K : Type} [Scalar K]

/-! ## Worth -/

/-- What a set is worth: its value, or the lowest where that is no number. -/
def worth (scorer : Scorer K) (points : List (List K)) : K :=
  if Scalar.isNaN (scorer points) then -Scalar.infinity else scorer points

variable [OrderedScalar K] [LinearScalar K]

theorem isNaN_worth (scorer : Scorer K) (points : List (List K)) :
    Scalar.isNaN (worth scorer points) = false := by
  rw [worth]
  cases number : Scalar.isNaN (scorer points) with
  | true => exact LinearScalar.isNaN_lowest
  | false => exact number

/-! ## Populations -/

section Members

variable {members children : List (Candidate K)}

theorem leader_spec (nonempty : members ≠ [])
    (numbers : ∀ member ∈ members, Scalar.isNaN member.score = false) :
    leader members ∈ members ∧
      ∀ member ∈ members, member.score ≤ (leader members).score := by
  have scores : members.map (·.score) ≠ [] := by simpa using nonempty
  obtain ⟨score, found, largest⟩ :=
    exists_indexOfLargest scores (by simpa using numbers)
  rw [List.getElem?_map, Option.map_eq_some_iff] at found
  obtain ⟨best, found, rfl⟩ := found
  have leads : leader members = best := by
    rw [leader, List.getD_eq_getElem?_getD, found, Option.getD_some]
  rw [leads]
  exact ⟨List.mem_of_getElem? found, fun member inside =>
    largest member.score (List.mem_map_of_mem inside)⟩

omit [OrderedScalar K] [LinearScalar K] in
theorem length_replace (members children : List (Candidate K)) :
    (replace members children).length = members.length := by
  induction members generalizing children with
  | nil => rfl
  | cons member members inductionHypothesis =>
      cases children with
      | nil => rfl
      | cons child children =>
          rw [replace, List.length_cons, inductionHypothesis, List.length_cons]

omit [OrderedScalar K] [LinearScalar K] in
theorem mem_of_mem_replace {candidate : Candidate K}
    (member : candidate ∈ replace members children) :
    candidate ∈ members ∨ candidate ∈ children := by
  induction members generalizing children with
  | nil => cases member
  | cons first members inductionHypothesis =>
      cases children with
      | nil => exact .inl member
      | cons child children =>
          rw [replace] at member
          rcases List.mem_cons.1 member with rfl | later
          · split
            · exact .inr List.mem_cons_self
            · exact .inl List.mem_cons_self
          · exact (inductionHypothesis later).imp (List.mem_cons_of_mem _)
              (List.mem_cons_of_mem _)

/-- A member that makes way for a child that is worth more, else stays. -/
theorem le_score_winner {member child : Candidate K}
    (memberNumber : Scalar.isNaN member.score = false)
    (childNumber : Scalar.isNaN child.score = false) :
    member.score ≤ (if member.score < child.score then child else member).score ∧
      child.score ≤ (if member.score < child.score then child else member).score := by
  by_cases better : member.score < child.score
  · rw [if_pos better]
    exact ⟨LinearScalar.le_of_lt memberNumber childNumber better,
      LinearScalar.le_refl childNumber⟩
  · rw [if_neg better]
    exact ⟨LinearScalar.le_refl memberNumber,
      (LinearScalar.le_iff_not_lt childNumber memberNumber).2 better⟩

/-- Each member and each child is matched by what is in its place afterwards. -/
theorem exists_mem_replace (enough : children.length ≤ members.length)
    (numbers : ∀ candidate ∈ members ++ children,
      Scalar.isNaN candidate.score = false)
    {candidate : Candidate K} (member : candidate ∈ members ++ children) :
    ∃ other ∈ replace members children, candidate.score ≤ other.score := by
  induction members generalizing children with
  | nil =>
      obtain rfl := List.length_eq_zero_iff.1 (Nat.le_zero.1 enough)
      cases member
  | cons first members inductionHypothesis =>
      cases children with
      | nil =>
          rw [List.append_nil] at member numbers
          exact ⟨candidate, member, LinearScalar.le_refl (numbers candidate member)⟩
      | cons child children =>
          have firstNumber := numbers first (by simp)
          have childNumber := numbers child (by simp)
          rw [replace]
          simp only [List.mem_append, List.mem_cons] at member numbers ⊢
          have rest :
              candidate ∈ members ∨ candidate ∈ children →
                ∃ other ∈ replace members children,
                  candidate.score ≤ other.score := by
            intro later
            refine inductionHypothesis (Nat.le_of_succ_le_succ enough) ?_
              (List.mem_append.2 later)
            intro other inside
            rcases List.mem_append.1 inside with old | new
            · exact numbers other (.inl (.inr old))
            · exact numbers other (.inr (.inr new))
          have winner := le_score_winner firstNumber childNumber
          rcases member with (rfl | old) | rfl | new
          · exact ⟨_, .inl rfl, winner.1⟩
          · obtain ⟨other, inside, below⟩ := rest (.inl old)
            exact ⟨other, .inr inside, below⟩
          · exact ⟨_, .inl rfl, winner.2⟩
          · obtain ⟨other, inside, below⟩ := rest (.inr new)
            exact ⟨other, .inr inside, below⟩

end Members

/-! ## Generations -/

section Generations

variable [NormalSource K] (evolution : Evolution K) (scorer : Scorer K)
  (domain : Domain K)

omit [OrderedScalar K] [LinearScalar K]

/-- The sets of the first population. -/
def drawn (domain : Domain K) (size count : Nat) (key : Key) : List (List (List K)) :=
  (Generator.times (Generator.times domain.sample size) count key.generator).1

/-- The children of the first members. -/
def offspring (state : Evolving K) (count : Nat) : List (List (List K)) × Generator :=
  Generator.forEach
    (evolution.child domain (leader state.members).points state.step)
    (state.members.take count) state.generator

/-- The children of the first members, valued. -/
def brood (state : Evolving K) (count : Nat) : List (Candidate K) :=
  (evolution.offspring domain state count).1.map (valued scorer)

theorem members_generation (state : Evolving K) (count : Nat) :
    (evolution.generation scorer domain state count).members =
      replace state.members (evolution.brood scorer domain state count) := rfl

theorem history_generation (state : Evolving K) (count : Nat) :
    (evolution.generation scorer domain state count).history =
      (evolution.brood scorer domain state count).reverse ++ state.history := rfl

theorem length_brood (state : Evolving K) (count : Nat) :
    (evolution.brood scorer domain state count).length =
      min count state.members.length := by
  rw [brood, List.length_map, offspring, Generator.length_forEach, List.length_take]

theorem score_of_mem_brood {state : Evolving K} {count : Nat} {candidate : Candidate K}
    (member : candidate ∈ evolution.brood scorer domain state count) :
    candidate.score = worth scorer candidate.points := by
  obtain ⟨points, _, rfl⟩ := List.mem_map.1 member
  rfl

omit [NormalSource K] in
theorem members_populate (size count : Nat) (key : Key) :
    (evolution.populate scorer domain size count key).members =
      (drawn domain size count key).map (valued scorer) := rfl

omit [NormalSource K] in
theorem history_populate (size count : Nat) (key : Key) :
    (evolution.populate scorer domain size count key).history =
      ((drawn domain size count key).map (valued scorer)).reverse := rfl

/-- What holds of each first population and is kept by each generation holds at the end
of a search. -/
theorem run_induction {invariant : Evolving K → Prop} {size : Nat} {key : Key}
    (start : ∀ count, 0 < count →
      invariant (evolution.populate scorer domain size count key))
    (step : ∀ state count, invariant state →
      invariant (evolution.generation scorer domain state count)) :
    invariant (evolution.run scorer domain size key) := by
  have later : ∀ (sizes : List Nat) (state : Evolving K), invariant state →
      invariant (sizes.foldl (evolution.generation scorer domain) state) := by
    intro sizes
    induction sizes with
    | nil => exact fun state kept => kept
    | cons count sizes inductionHypothesis =>
        exact fun state kept => inductionHypothesis _ (step state count kept)
  exact later _ _ (start _ (by omega))

end Generations

/-! ## No ground is lost -/

/-- The sets that were valued have their worth, the members are among them, and each of
them is matched by a member. -/
structure Elitist (scorer : Scorer K) (state : Evolving K) : Prop where
  nonempty : state.members ≠ []
  scored : ∀ candidate ∈ state.history, candidate.score = worth scorer candidate.points
  members : ∀ member ∈ state.members, member ∈ state.history
  matched : ∀ candidate ∈ state.history,
    ∃ member ∈ state.members, candidate.score ≤ member.score

section Elitist

variable {scorer : Scorer K} {state : Evolving K}

theorem Elitist.isNaN_score (elitist : Elitist scorer state) {candidate : Candidate K}
    (member : candidate ∈ state.history) : Scalar.isNaN candidate.score = false := by
  rw [elitist.scored candidate member]
  exact isNaN_worth scorer candidate.points

theorem Elitist.leader (elitist : Elitist scorer state) :
    leader state.members ∈ state.history ∧
      ∀ candidate ∈ state.history, candidate.score ≤ (leader state.members).score := by
  obtain ⟨inside, largest⟩ := leader_spec elitist.nonempty fun member inside =>
    elitist.isNaN_score (elitist.members member inside)
  refine ⟨elitist.members _ inside, fun candidate valued => ?_⟩
  obtain ⟨member, inMembers, below⟩ := elitist.matched candidate valued
  exact OrderedScalar.le_trans below (largest member inMembers)

variable [NormalSource K] (evolution : Evolution K) (domain : Domain K)

omit [NormalSource K] in
theorem elitist_populate (size : Nat) {count : Nat} (positive : 0 < count) (key : Key) :
    Elitist scorer (evolution.populate scorer domain size count key) := by
  have length : (drawn domain size count key).length = count :=
    Generator.length_times _ count _
  refine ⟨?_, fun candidate member => ?_, fun member inside => ?_, fun candidate member => ?_⟩
  · rw [members_populate, Ne, List.map_eq_nil_iff, ← List.length_eq_zero_iff, length]
    exact Nat.pos_iff_ne_zero.1 positive
  · rw [history_populate, List.mem_reverse] at member
    obtain ⟨points, _, rfl⟩ := List.mem_map.1 member
    rfl
  · rw [history_populate, List.mem_reverse]
    exact inside
  · rw [history_populate, List.mem_reverse] at member
    refine ⟨candidate, member, LinearScalar.le_refl ?_⟩
    obtain ⟨points, _, rfl⟩ := List.mem_map.1 member
    exact isNaN_worth scorer points

theorem Elitist.generation (elitist : Elitist scorer state) (count : Nat) :
    Elitist scorer (evolution.generation scorer domain state count) := by
  have scored : ∀ candidate ∈ (evolution.generation scorer domain state count).history,
      candidate.score = worth scorer candidate.points := by
    intro candidate member
    rw [history_generation, List.mem_append, List.mem_reverse] at member
    rcases member with new | old
    · exact score_of_mem_brood evolution scorer domain new
    · exact elitist.scored candidate old
  -- The members and their children are all numbers, so that places only get better.
  have kept : ∀ candidate ∈ state.members ++ evolution.brood scorer domain state count,
      ∃ member ∈ (evolution.generation scorer domain state count).members,
        candidate.score ≤ member.score := by
    intro candidate member
    rw [members_generation]
    refine exists_mem_replace ?_ (fun other inside => ?_) member
    · rw [length_brood]
      exact Nat.min_le_right _ _
    · rcases List.mem_append.1 inside with old | new
      · exact elitist.isNaN_score (elitist.members other old)
      · rw [score_of_mem_brood evolution scorer domain new]
        exact isNaN_worth scorer other.points
  refine ⟨?_, scored, fun member inside => ?_, fun candidate member => ?_⟩
  · rw [members_generation, Ne, ← List.length_eq_zero_iff, length_replace,
      List.length_eq_zero_iff]
    exact elitist.nonempty
  · rw [history_generation, List.mem_append, List.mem_reverse]
    rw [members_generation] at inside
    rcases mem_of_mem_replace inside with old | new
    · exact .inr (elitist.members member old)
    · exact .inl new
  · rw [history_generation, List.mem_append, List.mem_reverse] at member
    rcases member with new | old
    · exact kept candidate (List.mem_append_right _ new)
    · obtain ⟨before, inside, below⟩ := elitist.matched candidate old
      obtain ⟨after, inAfter, above⟩ := kept before (List.mem_append_left _ inside)
      exact ⟨after, inAfter, OrderedScalar.le_trans below above⟩

theorem elitist_run (size : Nat) (key : Key) :
    Elitist scorer (evolution.run scorer domain size key) :=
  evolution.run_induction scorer domain
    (fun _ positive => elitist_populate evolution domain size positive key)
    fun _ count elitist => elitist.generation evolution domain count

end Elitist

/-! ## Staying in the domain -/

section Inside

omit [OrderedScalar K] [LinearScalar K]

variable [NormalSource K] (evolution : Evolution K) {scorer : Scorer K}
  {domain : Domain K}

/-- A set of that many points of the domain. -/
structure Fits (domain : Domain K) (size : Nat) (points : List (List K)) : Prop where
  length : points.length = size
  inside : ∀ point ∈ points, domain.contains point = true

/-- A moved point lies in the domain if both points that it comes from do. -/
theorem contains_movePoint (closed : domain.Closed) {pair : List K × List K}
    (inside : domain.contains pair.1 = true) (bestInside : domain.contains pair.2 = true)
    (pull step : K) (generator : Generator) :
    domain.contains (movePoint domain pull step pair generator).1 = true := by
  have length :
      (Generator.forEach (moveCoordinate pull step) (pair.1.zip pair.2)
          generator).1.length = min pair.1.length pair.2.length := by
    rw [Generator.length_forEach, List.length_zip]
  rw [movePoint]
  rcases Nat.le_total pair.1.length pair.2.length with shorter | longer
  · rw [Nat.min_eq_left shorter] at length
    exact closed.contains_project _ pair.1 inside length
  · rw [Nat.min_eq_right longer] at length
    exact closed.contains_project _ pair.2 bestInside length

theorem fits_child (closed : domain.Closed) {size : Nat} {best : List (List K)}
    {parent : Candidate K} (bestFits : Fits domain size best)
    (parentFits : Fits domain size parent.points) (step : K) (generator : Generator) :
    Fits domain size (evolution.child domain best step parent generator).1 := by
  rw [child]
  rcases (Generator.unit generator : K × Generator) with ⟨share, generator⟩
  refine ⟨?_, fun point member => ?_⟩
  · rw [Generator.length_forEach, List.length_zip, parentFits.length, bestFits.length,
      Nat.min_self]
  · obtain ⟨pair, inPairs, before, rfl⟩ := Generator.exists_of_mem_forEach member
    obtain ⟨inParent, inBest⟩ := List.of_mem_zip inPairs
    exact contains_movePoint closed (parentFits.inside pair.1 inParent)
      (bestFits.inside pair.2 inBest) _ step before

theorem fits_of_mem_offspring (closed : domain.Closed) {size : Nat} {state : Evolving K}
    (bestFits : Fits domain size (leader state.members).points)
    (fits : ∀ member ∈ state.members, Fits domain size member.points) {count : Nat}
    {points : List (List K)} (member : points ∈ (evolution.offspring domain state count).1) :
    Fits domain size points := by
  obtain ⟨parent, inMembers, before, rfl⟩ := Generator.exists_of_mem_forEach member
  exact fits_child evolution closed bestFits
    (fits parent (List.mem_of_mem_take inMembers)) state.step before

end Inside

/-- A search that loses no ground and has only valued sets of that many points of the
domain. -/
structure Confined (scorer : Scorer K) (domain : Domain K) (size : Nat)
    (state : Evolving K) : Prop extends Elitist scorer state where
  fits : ∀ candidate ∈ state.history, Fits domain size candidate.points

section Confined

variable [NormalSource K] (evolution : Evolution K) {scorer : Scorer K}
  {domain : Domain K} {size : Nat}

theorem Confined.generation (closed : domain.Closed) {state : Evolving K}
    (confined : Confined scorer domain size state) (count : Nat) :
    Confined scorer domain size (evolution.generation scorer domain state count) := by
  refine ⟨confined.toElitist.generation evolution domain count, fun candidate member => ?_⟩
  rw [history_generation, List.mem_append, List.mem_reverse] at member
  rcases member with new | old
  · obtain ⟨points, inOffspring, rfl⟩ := List.mem_map.1 new
    exact fits_of_mem_offspring evolution closed
      (confined.fits _ confined.toElitist.leader.1)
      (fun member inside => confined.fits member (confined.members member inside))
      inOffspring
  · exact confined.fits candidate old

end Confined

/-! ## The budget -/

theorem generationSizes_zero (population : Nat) : generationSizes population 0 = [] := by
  simp [generationSizes]

/-- A generation is full where enough is left. -/
theorem generationSizes_of_pos {population left : Nat} (populated : 0 < population)
    (positive : 0 < left) :
    generationSizes population left =
      min population left :: generationSizes population (left - population) := by
  rcases Nat.lt_or_ge left population with partly | fully
  · rw [Nat.min_eq_right partly.le, Nat.sub_eq_zero_of_le partly.le,
      generationSizes_zero, generationSizes, Nat.div_eq_of_lt partly,
      Nat.mod_eq_of_lt partly, if_neg (Nat.pos_iff_ne_zero.1 positive)]
    rfl
  · rw [Nat.min_eq_left fully, generationSizes, generationSizes,
      Nat.div_eq_sub_div populated fully, Nat.mod_eq_sub_mod fully, List.replicate_succ,
      List.cons_append]

section Budget

omit [OrderedScalar K] [LinearScalar K]

variable [NormalSource K] (evolution : Evolution K) (scorer : Scorer K)
  (domain : Domain K)

theorem length_members_generation (state : Evolving K) (count : Nat) :
    (evolution.generation scorer domain state count).members.length =
      state.members.length := by
  rw [members_generation, length_replace]

omit [NormalSource K] in
theorem length_populate (size count : Nat) (key : Key) :
    (evolution.populate scorer domain size count key).members.length = count ∧
      (evolution.populate scorer domain size count key).history.length = count := by
  rw [history_populate, List.length_reverse, members_populate, List.length_map]
  exact ⟨Generator.length_times _ count _, Generator.length_times _ count _⟩

/-- The sets that a search values, in the order in which it does. -/
def evaluated (evolution : Evolution K) (scorer : Scorer K) (domain : Domain K)
    (size : Nat) (key : Key) : List (List (List K)) :=
  (evolution.run scorer domain size key).history.reverse.map (·.points)

theorem maximize_of_pos {size : Nat} (positive : 0 < size) (key : Key) :
    evolution.maximize scorer domain size key =
      ⟨(leader (evolution.run scorer domain size key).members).points,
        (leader (evolution.run scorer domain size key).members).score,
        (evolution.run scorer domain size key).history.length⟩ := by
  rw [maximize, if_neg (Nat.pos_iff_ne_zero.1 positive)]

end Budget

section Partial

/-- A real parameter and a choice. -/
def mixedSpace : Space ℝ :=
  ⟨[⟨"rate", .linear 0 1⟩, ⟨"kernel", .choice [.text "rbf", .text "linear"]⟩]⟩

/-- The last generation has one child only. -/
noncomputable def partialSearch : Evolution ℝ :=
  ((standard : Evolution ℝ).withPopulation 3).withBudget 7

end Partial

end Evolution

end BatchBayes
