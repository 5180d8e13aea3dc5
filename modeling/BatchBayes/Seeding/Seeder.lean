import BatchBayes.Seeding.Sequence
/-!
Ways to choose points before there is a model.
-/

namespace BatchBayes

/-- A request for a number of points, with a key. -/
structure SeedRequest where
  count : Nat
  key : Key
deriving DecidableEq, Repr

/-- A way to answer requests for points, given the earlier requests, the last
one first. -/
structure Seeder (K : Type) where
  name : String
  answer : List SeedRequest → SeedRequest → List (Assignment K)

namespace Seeder

variable {K : Type} [Scalar K]

/-- The number of points asked for. -/
def pointsAsked (requests : List SeedRequest) : Nat :=
  requests.foldr (fun request total => request.count + total) 0

/-! ## Quasi-random points -/

/-- The middle of the space, then a shifted low-discrepancy sequence; requests
go on where earlier ones ended. -/
def quasiRandom (space : Space K) (key : Key) : Seeder K :=
  let (shift, _) :=
    Generator.times Generator.unit space.parameters.length key.generator
  { name := "quasi_random"
    answer := fun earlier request =>
      (List.range' (pointsAsked earlier) request.count).map fun index =>
        space.pointAt (shiftedPoint shift index) }

/-! ## Random points -/

/-- Points drawn evenly with the key of the request. -/
def random (space : Space K) : Seeder K :=
  let drawPoint := Generator.times Generator.unit space.parameters.length
  { name := "random"
    answer := fun _ request =>
      (Generator.times drawPoint request.count request.key.generator).1.map
        space.pointAt }

/-! ## Grid points -/

/-- The values that differ from the last one kept before them. -/
def changesFrom (last : Value K) : List (Value K) → List (Value K)
  | [] => []
  | value :: values =>
      if last.same value then changesFrom last values
      else value :: changesFrom value values

/-- Drop values that equal the one before. -/
def dropRepeats : List (Value K) → List (Value K)
  | [] => []
  | first :: rest => first :: changesFrom first rest

/-- Whether the ends of a range of integers differ by more than such an integer can say. -/
def isTooWide : Range K → Bool
  | .integer low high => (high - low).toInt != high.toInt - low.toInt
  | _ => false

/-- All integers from `low` to `high`. -/
def integersBetween (low high : Int64) : List (Value K) :=
  (List.range (high.toInt - low.toInt + 1).toNat).map fun (offset : Nat) =>
    .integer (Int64.ofInt (low.toInt + (offset : Int)))

/-- The values of a range at `steps` evenly spaced coordinates. -/
def spacedValues (steps : Nat) (range : Range K) : List (Value K) :=
  dropRepeats ((List.range steps).map fun index =>
    range.valueAt (Scalar.ofNat index / Scalar.ofNat (steps - 1)))

/-- The values of a range on a grid with `steps` points to an axis: all labels,
all integers where they are no more, and evenly spaced values otherwise. -/
def axis (steps : Nat) (range : Range K) : List (Value K) :=
  match range with
  | .integer low high =>
      if high - low < Int64.ofNat steps then integersBetween low high
      else spacedValues steps range
  | .choice labels => labels.map .label
  | _ => spacedValues steps range

/-- All points of a grid, the last parameter changing fastest. -/
def gridPoints (space : Space K) (steps : Nat) : List (Assignment K) :=
  space.parameters.foldl
    (fun points parameter =>
      points.flatMap fun point =>
        (axis (max steps 2) parameter.range).map (point.insert parameter.name ·))
    [Table.empty]

/-- The points of a list over and over again. -/
def cycling (name : String) (points : Array (Assignment K)) : Seeder K :=
  { name
    answer := fun earlier request =>
      (List.range' (pointsAsked earlier) request.count).filterMap fun index =>
        points[index % points.size]? }

/-- The points of a grid over and over again. -/
def grid (space : Space K) (steps : Nat) : Seeder K :=
  cycling "grid" (gridPoints space steps).toArray

/-- The points of a grid over and over again; there is no grid of ranges that are too
wide. -/
def grid? (space : Space K) (steps : Nat) : Option (Seeder K) :=
  if space.parameters.any fun parameter => isTooWide parameter.range then none
  else some (grid space steps)

end Seeder

end BatchBayes
