import BatchBayes.Random.Generator
import BatchBayes.Seeding.Prime
import BatchBayes.Space.Basic
/-!
Points of a space by unit coordinates, and the low-discrepancy sequence of
such coordinates.
-/

namespace BatchBayes

variable {K : Type} [Scalar K]

/-! ## Values by coordinate -/

namespace Range

/-- The value of a range at a coordinate of the unit interval. Integers and
labels have parts of equal length. -/
def valueAt (range : Range K) (coordinate : K) : Value K :=
  let place : K :=
    if Scalar.isFinite coordinate then Scalar.clamp coordinate 0 1 else 0.5
  match range with
  | linear low high => .real (Scalar.clamp (low + place * (high - low)) low high)
  | integer low high =>
      let last := high.toInt - low.toInt
      let offset := min (Scalar.floor (place * Scalar.ofInt (last + 1))) last
      .integer (Int64.ofInt (low.toInt + offset))
  | logarithmic low high =>
      let (logLow, logHigh) := (Scalar.log low, Scalar.log high)
      .real (Scalar.clamp
        (Scalar.exp (logLow + place * (logHigh - logLow))) low high)
  | choice labels =>
      let index := (Scalar.floor (place * Scalar.ofNat labels.length)).toNat
      .label (labels.getD (min index (labels.length - 1)) .null)

end Range

/-- The assignment at some coordinates, one for each parameter. -/
def Space.pointAt (space : Space K) (coordinates : List K) : Assignment K :=
  Table.ofList (List.zipWith
    (fun parameter coordinate => (parameter.name, parameter.range.valueAt coordinate))
    space.parameters coordinates)

/-! ## The sequence -/

/-- How far the digits of an index are written behind the point: the digits that are left,
the place of the lowest of them, and the sum of the others. -/
structure Reflection (K : Type) where
  index : Nat
  place : K
  total : K

/-- Write the lowest digit that is left; `inverse` is one over the base. -/
def Reflection.turn (base : Nat) (inverse : K) (digits : Reflection K) :
    Option (Reflection K) :=
  if 0 < digits.index then
    some
      { index := digits.index / base
        place := digits.place * inverse
        total := digits.total + Scalar.ofNat (digits.index % base) * digits.place }
  else none

/-- The digits of `index` written behind the point in reverse order. -/
def radicalInverse (base index : Nat) : K :=
  let inverse : K := 1 / Scalar.ofNat base
  (Loop.run (Reflection.turn base inverse)
    { index, place := inverse, total := 0 }).total

/-- The coordinates of the point with the number `index`: the middle first,
then the radical inverses to prime bases, moved round by `shift`. -/
def shiftedPoint (shift : List K) (index : Nat) : List K :=
  if index = 0 then shift.map fun _ => 0.5
  else
    (List.zipIdx shift).map fun (move, dimension) =>
      Scalar.fractional (radicalInverse (nthPrime dimension) index + move)

end BatchBayes
