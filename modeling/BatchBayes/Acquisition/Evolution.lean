import BatchBayes.Acquisition.Search
import BatchBayes.Random.Normal
/-!
Search by a population of candidate sets. In each generation every member has
one child, drawn towards the best member and disturbed by normal noise, which
takes the member's place if it is worth more. The noise shrinks from
generation to generation.
-/

namespace BatchBayes

/-- The size of the search and of its moves. -/
structure Evolution (K : Type) where
  /-- The number of sets to value. -/
  budget : Nat
  population : Nat
  /-- The noise of the first generation. -/
  initialStep : K
  stepDecay : K
  leastStep : K
  /-- The largest share of the way to the best member. -/
  attraction : K

/-- A set of points with its score. -/
structure Candidate (K : Type) where
  points : List (List K)
  score : K

/-- A search under way: its population, the generator, the noise of the next
generation, and all candidates valued so far, the last one first. -/
structure Evolving (K : Type) where
  members : List (Candidate K)
  generator : Generator
  step : K
  history : List (Candidate K)

namespace Evolution

variable {K : Type} [Scalar K] [NormalSource K]

def standard : Evolution K :=
  { budget := 2000
    population := 40
    initialStep := 0.2
    stepDecay := 0.9
    leastStep := 1e-3
    attraction := 0.5 }

/-- The search with another budget, at least one. -/
def withBudget (evolution : Evolution K) (budget : Nat) : Evolution K :=
  { evolution with budget := max budget 1 }

/-- The search with another population, at least one. -/
def withPopulation (evolution : Evolution K) (population : Nat) : Evolution K :=
  { evolution with population := max population 1 }

/-! ## Candidates -/

/-- Value a set; a value that is no number counts as the lowest. -/
def valued (scorer : Scorer K) (points : List (List K)) : Candidate K :=
  let score := scorer points
  ⟨points, if Scalar.isNaN score then -Scalar.infinity else score⟩

/-- The first member that no later one exceeds. -/
def leader (members : List (Candidate K)) : Candidate K :=
  members.getD (indexOfLargest (members.map (·.score))) ⟨[], -Scalar.infinity⟩

/-! ## Children -/

/-- A coordinate moved by a share of the way to that of the best point, and by
noise. -/
def moveCoordinate (pull step : K) (pair : K × K) (generator : Generator) :
    K × Generator :=
  let (value, target) := pair
  let (noise, generator) := NormalSource.normal generator
  (value + pull * (target - value) + step * noise, generator)

/-- A point moved towards that of the best member and put into the domain. -/
def movePoint (domain : Domain K) (pull step : K)
    (pair : List K × List K) (generator : Generator) : List K × Generator :=
  let (moved, generator) :=
    Generator.forEach (moveCoordinate pull step) (pair.1.zip pair.2) generator
  (domain.project moved, generator)

/-- The child of one member. -/
def child (evolution : Evolution K) (domain : Domain K) (best : List (List K))
    (step : K) (parent : Candidate K) (generator : Generator) :
    List (List K) × Generator :=
  let (share, generator) := Generator.unit generator
  Generator.forEach (movePoint domain (evolution.attraction * share) step)
    (parent.points.zip best) generator

/-- Put each child that is worth more in the place of its parent. -/
def replace : List (Candidate K) → List (Candidate K) → List (Candidate K)
  | member :: members, child :: children =>
      (if member.score < child.score then child else member) ::
        replace members children
  | members, _ => members

/-! ## Generations -/

/-- A generation in which the first `count` members have children. -/
def generation (evolution : Evolution K) (scorer : Scorer K) (domain : Domain K)
    (state : Evolving K) (count : Nat) : Evolving K :=
  let best := leader state.members
  let (children, generator) :=
    Generator.forEach (evolution.child domain best.points state.step)
      (state.members.take count) state.generator
  let children := children.map (valued scorer)
  { members := replace state.members children
    generator
    step := Scalar.max (state.step * evolution.stepDecay) evolution.leastStep
    history := children.reverse ++ state.history }

/-- The numbers of children by generation: full generations, and a last one
with what is left. -/
def generationSizes (population left : Nat) : List Nat :=
  List.replicate (left / population) population ++
    if left % population = 0 then [] else [left % population]

/-- The first population, drawn from the domain. -/
def populate (evolution : Evolution K) (scorer : Scorer K) (domain : Domain K)
    (size count : Nat) (key : Key) : Evolving K :=
  let (drawn, generator) :=
    Generator.times (Generator.times domain.sample size) count key.generator
  let members := drawn.map (valued scorer)
  { members
    generator
    step := evolution.initialStep
    history := members.reverse }

/-- The search at its end. -/
def run (evolution : Evolution K) (scorer : Scorer K) (domain : Domain K)
    (size : Nat) (key : Key) : Evolving K :=
  let budget := max evolution.budget 1
  let count := min (max evolution.population 1) budget
  (generationSizes count (budget - count)).foldl
    (evolution.generation scorer domain)
    (evolution.populate scorer domain size count key)

/-- The best set of the given size that the search finds. -/
def maximize (evolution : Evolution K) (scorer : Scorer K) (domain : Domain K)
    (size : Nat) (key : Key) : Found K :=
  if size = 0 then ⟨[], -Scalar.infinity, 0⟩
  else
    let final := evolution.run scorer domain size key
    let best := leader final.members
    ⟨best.points, best.score, final.history.length⟩

/-- The search as a maximizer. -/
def maximizer (evolution : Evolution K) : Maximizer K :=
  ⟨"evolutionary", evolution.maximize⟩

end Evolution

end BatchBayes
