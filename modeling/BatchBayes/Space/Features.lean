import BatchBayes.Random.Generator
import BatchBayes.Space.Basic
/-!
Assignments as feature vectors. A numeric parameter is one coordinate of the
unit interval, in the scale of its range; a choice is a block with a one at
the chosen label and zeros elsewhere. The blocks follow the order of the
parameters.
-/

namespace BatchBayes

variable {K : Type} [Scalar K] [DecimalText K]

/-! ## Coordinates -/

/-- Where a value lies between two ends, as a number from 0 to 1; the middle
where the ends coincide. -/
def toUnit (value low high : K) : K :=
  if low < high then Scalar.clamp ((value - low) / (high - low)) 0 1 else 0.5

/-- The value at a place between two ends. -/
def ofUnit (place low high : K) : K :=
  if low < high then
    Scalar.clamp (low + Scalar.clamp place 0 1 * (high - low)) low high
  else low

/-- Zeros with a one at `index`. -/
def oneHot (width index : Nat) : List K :=
  (List.range width).map fun place => if place = index then 1 else 0

/-- A finite coordinate, or else the middle. -/
def finiteOrMiddle (place : K) : K :=
  if Scalar.isFinite place then place else 0.5

namespace Range

/-- The number of coordinates of a block. -/
def width : Range K → Nat
  | choice labels => labels.length
  | _ => 1

/-- The block of a value. -/
def encode (name : String) (range : Range K) (value : Value K) :
    Except SpaceError (List K) :=
  match range, value with
  | linear low high, .real number => .ok [toUnit number low high]
  | logarithmic low high, .real number =>
      if number ≤ 0 then .error (.outOfBounds name value.text)
      else
        .ok [toUnit (Scalar.log number) (Scalar.log low) (Scalar.log high)]
  | integer low high, .integer number =>
      .ok [toUnit (Scalar.ofInt number.toInt) (Scalar.ofInt low.toInt)
        (Scalar.ofInt high.toInt)]
  | choice labels, .label chosen =>
      match labels.findIdx? (· == chosen) with
      | some index => .ok (oneHot labels.length index)
      | none => .error (.outOfBounds name value.text)
  | _, _ => .error (.wrongType name value.text)

/-- The value of a block; missing coordinates stand in the middle, and of
several largest ones the first is chosen. -/
def decode (range : Range K) (block : List K) : Value K :=
  let place := block.headD 0.5
  match range with
  | linear low high => .real (ofUnit place low high)
  | logarithmic low high =>
      .real (Scalar.clamp
        (Scalar.exp (ofUnit place (Scalar.log low) (Scalar.log high))) low high)
  | integer low high =>
      let nearest :=
        Scalar.round
          (ofUnit place (Scalar.ofInt low.toInt) (Scalar.ofInt high.toInt))
      .integer (Int64.ofInt (max low.toInt (min nearest high.toInt)))
  | choice labels => .label (labels.getD (indexOfLargest block) .null)

/-- The nearest block that stands for a value. -/
def project (range : Range K) (block : List K) : List K :=
  match range with
  | choice labels =>
      let comparable := block.map fun value =>
        if Scalar.isFinite value then value else -Scalar.infinity
      oneHot labels.length (indexOfLargest comparable)
  | integer low high =>
      let (low, high) : K × K :=
        (Scalar.ofInt low.toInt, Scalar.ofInt high.toInt)
      let place := finiteOrMiddle (block.headD 0.5)
      [toUnit (Scalar.ofInt (Scalar.round (ofUnit place low high))) low high]
  | _ =>
      let place := block.headD 0.5
      [if Scalar.isFinite place then Scalar.clamp place 0 1 else 0.5]

/-- Whether a block is one-hot, or a coordinate of the unit interval. -/
def accepts (range : Range K) (block : List K) : Bool :=
  match range with
  | choice _ =>
      block.all (fun value => value == 0 || value == 1) &&
        block.countP (· == 1) == 1
  | _ => block.all fun place => Scalar.isFinite place && Scalar.within place 0 1

/-- A block drawn evenly, before projection. -/
def draw (range : Range K) (generator : Generator) : List K × Generator :=
  match range with
  | choice labels =>
      let (index, generator) := generator.index labels.length
      (oneHot labels.length index, generator)
  | _ =>
      let (place, generator) := Generator.unit generator
      ([place], generator)

end Range

namespace Space

/-! ## Feature vectors -/

/-- The number of features. -/
def dimension (space : Space K) : Nat :=
  space.parameters.foldr (fun parameter total => parameter.range.width + total) 0

/-- Cut a feature vector into the blocks of the parameters. -/
def blocks : List (Parameter K) → List K → List (Parameter K × List K)
  | [], _ => []
  | parameter :: parameters, features =>
      let width := parameter.range.width
      (parameter, features.take width) :: blocks parameters (features.drop width)

/-- The features of a parameter's value in an assignment. -/
def encodeParameter (assignment : Assignment K) (parameter : Parameter K) :
    Except SpaceError (List K) :=
  match assignment.find? parameter.name with
  | none => .error (.missingParameter parameter.name)
  | some value => parameter.range.encode parameter.name value

/-- The features of an assignment. -/
def encode (space : Space K) (assignment : Assignment K) :
    Except SpaceError (List K) :=
  (space.parameters.mapM (encodeParameter assignment)).map List.flatten

/-- The assignment that a feature vector stands for. Of parameters with one
name the last one counts. -/
def decode (space : Space K) (features : List K) : Assignment K :=
  Table.ofList ((blocks space.parameters features).map fun (parameter, block) =>
    (parameter.name, parameter.range.decode block))

/-- The nearest feature vector that stands for an assignment. What lies beyond
the last block stays. -/
def project (space : Space K) (features : List K) : List K :=
  let projected :=
    (blocks space.parameters features).flatMap fun (parameter, block) =>
      parameter.range.project block
  projected ++ features.drop space.dimension

/-- Whether a vector has the length and the blocks of feature vectors. -/
def accepts (space : Space K) (features : List K) : Bool :=
  features.length == space.dimension &&
    (blocks space.parameters features).all fun (parameter, block) =>
      parameter.range.accepts block

/-- A feature vector drawn evenly. -/
def sample (space : Space K) (generator : Generator) : List K × Generator :=
  let (drawn, generator) :=
    Generator.forEach (fun parameter => parameter.range.draw) space.parameters
      generator
  (space.project drawn.flatten, generator)

end Space

end BatchBayes
