import BatchBayes.Random.Generator
import BatchBayes.Random.NormalTable
import BatchBayes.Double
/-!
Draws from the standard normal distribution by layers of equal area: a layer
and a place in it are drawn, and the place is taken at once where the layer
lies under the curve.
-/

namespace BatchBayes

/-- Numbers with draws from the standard normal distribution. -/
class NormalSource (K : Type) where
  normal : Generator → K × Generator

namespace Generator

/-- The right edge of the lowest layer without its tail. -/
private def tailStart : Float :=
  layerEdges.getD 1 0.0

/-- Uniform strictly between 0 and 1. -/
private def openUnit (generator : Generator) : Float × Generator :=
  let (value, generator) := fraction52 (K := Float) generator
  ((value + 1.0) - (1.0 - 1.1102230246251565e-16), generator)

/-- The number of tries after which a draw gives up. Each try fails with a
probability below one half. -/
private def tries : Nat := 4096

/-- The start of the tail less a value in it, from pairs of uniform draws
until one lies under the curve. -/
private def tailOffset : Nat → Generator → Float × Generator
  | 0, generator => (0.0, generator)
  | rounds + 1, generator =>
      let (first, generator) := openUnit generator
      let (second, generator) := openUnit generator
      let offset := Float.log first / tailStart
      let height := Float.log second
      if -2.0 * height < offset * offset then tailOffset rounds generator
      else (offset, generator)

/-- A draw from the layers. -/
private def layered : Nat → Generator → Float × Generator
  | 0, generator => (0.0, generator)
  | rounds + 1, generator =>
      let (bits, generator) := generator.next64
      let layer := (bits &&& 255).toNat
      let place := (bits >>> 12).toNat.toFloat * 4.440892098500626e-16 - 1.0
      let value := place * layerEdges.getD layer 0.0
      if value.abs < layerEdges.getD (layer + 1) 0.0 then (value, generator)
      else if layer = 0 then
        let (offset, generator) := tailOffset tries generator
        (if place < 0.0 then offset - tailStart else tailStart - offset,
          generator)
      else
        let (share, generator) := unit (K := Float) generator
        let low := layerHeights.getD (layer + 1) 0.0
        let high := layerHeights.getD layer 0.0
        if low + (high - low) * share < Float.exp (-value * value / 2.0) then
          (value, generator)
        else layered rounds generator

/-- A draw from the standard normal distribution. -/
def standardNormal (generator : Generator) : Float × Generator :=
  layered tries generator

end Generator

instance : NormalSource Float where
  normal := Generator.standardNormal

end BatchBayes
