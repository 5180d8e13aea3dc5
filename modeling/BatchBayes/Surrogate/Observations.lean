import BatchBayes.Scalar
/-!
The rows a model is fitted to, and the filler rows that bring their number up
to a capacity.
-/

namespace BatchBayes

/-- A feature vector with its label. A row that is not valid is filler. -/
structure Observation (K : Type) where
  features : List K
  label : K
  valid : Bool

/-- Rows over a feature space of a given dimension, column by column. -/
structure Observations (K : Type) where
  features : List (List K)
  labels : List K
  /-- Which rows were observed; the others are filler. -/
  mask : List Bool
  dimension : Nat

/-- The capacity to provide for a number of rows. -/
abbrev Padding := Nat → Nat

/-! ## Capacities -/

/-- The capacities that come in steps. -/
inductive PaddingRule where
  | exact
  | multiplesOfTen
  | powersOfTwo
deriving DecidableEq, Repr

instance : Inhabited PaddingRule := ⟨.exact⟩

/-- The least capacity of the rule for `count` rows. -/
def PaddingRule.capacity : PaddingRule → Padding
  | .exact, count => count
  | .multiplesOfTen, count => (count + 9) / 10 * 10
  | .powersOfTwo, count => if count = 0 then 0 else count.nextPowerOfTwo

namespace Observations

variable {K : Type} [Scalar K]

/-- Observed rows of the given feature vectors and labels. -/
def ofPoints (points : List (List K)) (labels : List K) (dimension : Nat) :
    Observations K :=
  ⟨points, labels, List.replicate points.length true, dimension⟩

/-- The number of rows, filler included. -/
def size (data : Observations K) : Nat :=
  data.features.length

def isEmpty (data : Observations K) : Bool :=
  data.features.isEmpty

/-- The number of rows that are not filler. -/
def numValid (data : Observations K) : Nat :=
  data.mask.count true

/-- The rows that have an entry in every column. -/
def rows (data : Observations K) : List (Observation K) :=
  List.zipWith (fun entry valid => ⟨entry.1, entry.2, valid⟩)
    (data.features.zip data.labels) data.mask

/-- The rows that are not filler. -/
def validRows (data : Observations K) : List (Observation K) :=
  data.rows.filter (·.valid)

/-- The data without filler. -/
def unpadded (data : Observations K) : Observations K :=
  ofPoints (data.validRows.map (·.features)) (data.validRows.map (·.label))
    data.dimension

/-- The data without filler and with more observed rows at the end. -/
def extend (data : Observations K) (points : List (List K)) (labels : List K) :
    Observations K :=
  let kept := data.unpadded
  { features := kept.features ++ points
    labels := kept.labels ++ labels
    mask := kept.mask ++ List.replicate points.length true
    dimension := data.dimension }

/-- The data with rows of zeros as filler at the end, up to the capacity for
the number of its observed rows. -/
def pad (data : Observations K) (padding : Padding) : Observations K :=
  let kept := data.unpadded
  let missing := padding kept.size - kept.size
  { features :=
      kept.features ++ List.replicate missing (List.replicate data.dimension 0)
    labels := kept.labels ++ List.replicate missing 0
    mask := kept.mask ++ List.replicate missing false
    dimension := data.dimension }

end Observations

end BatchBayes
