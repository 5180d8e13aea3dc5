import BatchBayes.Random.Generator
import BatchBayes.Space.Features
/-!
Searching a domain for sets of points of high value.
-/

namespace BatchBayes

/-- A set of feature vectors that can be drawn from and projected to. -/
structure Domain (K : Type) where
  dimension : Nat
  sample : Generator → List K × Generator
  project : List K → List K
  contains : List K → Bool

/-- The value of a set of points. -/
abbrev Scorer (K : Type) := List (List K) → K

/-- The best set of a search and the number of sets that were valued. -/
structure Found (K : Type) where
  points : List (List K)
  score : K
  evaluations : Nat

/-- A way to search a domain for a set of a given size. -/
structure Maximizer (K : Type) where
  name : String
  maximize : Scorer K → Domain K → Nat → Key → Found K

/-- The feature vectors of a space. -/
def Space.domain {K : Type} [Scalar K] [DecimalText K] (space : Space K) :
    Domain K :=
  { dimension := space.dimension
    sample := space.sample
    project := space.project
    contains := space.accepts }

end BatchBayes
