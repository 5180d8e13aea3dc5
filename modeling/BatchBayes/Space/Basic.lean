import BatchBayes.Failure
import BatchBayes.Json.Printer
import BatchBayes.Scalar
/-!
Search spaces: named parameters, each with a range, and assignments of values
to them.
-/

namespace BatchBayes

/-- The values that a parameter may take. -/
inductive Range (K : Type) where
  /-- All numbers from `low` to `high`. -/
  | linear (low high : K)
  /-- All integers from `low` to `high`. -/
  | integer (low high : Int64)
  /-- All numbers from `low` to `high`, where ratios count and not
  differences. -/
  | logarithmic (low high : K)
  /-- One of the labels. -/
  | choice (labels : List Json)

structure Parameter (K : Type) where
  name : String
  range : Range K

/-- A value of a parameter. -/
inductive Value (K : Type) where
  | real (value : K)
  | integer (value : Int64)
  | label (value : Json)

/-- Values by parameter name. -/
abbrev Assignment (K : Type) := Table String (Value K)

/-- The parameters of a search, in order. -/
structure Space (K : Type) where
  parameters : List (Parameter K)

variable {K : Type} [Scalar K] [DecimalText K]

/-! ## Values -/

namespace Value

/-- The text of a value in messages. -/
def text : Value K → String
  | real value => DecimalText.text value
  | integer value => toString value.toInt
  | label value => value.compact

/-- Whether two values are of one kind and equal. -/
def same : Value K → Value K → Bool
  | real first, real second => first == second
  | integer first, integer second => first == second
  | label first, label second => first == second
  | _, _ => false

end Value

/-! ## Ranges -/

namespace Range

/-- Whether a value is of the kind that the range holds. -/
def hasKind : Range K → Value K → Bool
  | linear _ _, .real _ => true
  | logarithmic _ _, .real _ => true
  | integer _ _, .integer _ => true
  | choice _, .label _ => true
  | _, _ => false

/-- Whether a value lies in the range. -/
def contains : Range K → Value K → Bool
  | linear low high, .real value =>
      Scalar.isFinite value && Scalar.within value low high
  | logarithmic low high, .real value =>
      Scalar.isFinite value && Scalar.within value low high
  | integer low high, .integer value => decide (low ≤ value) && decide (value ≤ high)
  | choice labels, .label value => labels.any (· == value)
  | _, _ => false

/-- Whether both ends are finite and in order. -/
def isOrdered (low high : K) : Bool :=
  Scalar.isFinite low && Scalar.isFinite high && decide (¬ high < low)

/-- The range as an interval in messages. -/
def intervalText (low high : String) : String :=
  s!"[{low}, {high}]"

/-- What is wrong with the range, if anything. -/
def defect? : Range K → Option String
  | linear low high =>
      if isOrdered low high then none
      else
        let interval := intervalText (DecimalText.text low) (DecimalText.text high)
        some s!"{interval} is not a finite ordered range"
  | integer low high =>
      if low ≤ high then none
      else
        let interval := intervalText (toString low.toInt) (toString high.toInt)
        some s!"{interval} is empty"
  | logarithmic low high =>
      if isOrdered low high && decide (¬ low ≤ 0) then none
      else
        let interval := intervalText (DecimalText.text low) (DecimalText.text high)
        some s!"{interval} must be positive and ordered"
  | choice labels => if labels.isEmpty then some "no categories" else none

end Range

/-! ## Assignments -/

namespace Parameter

/-- Why an assignment does not give the parameter a value of its range. -/
def violation? (parameter : Parameter K) (assignment : Assignment K) :
    Option SpaceError :=
  match assignment.find? parameter.name with
  | none => some (.missingParameter parameter.name)
  | some value =>
      if parameter.range.contains value then none
      else if parameter.range.hasKind value then
        some (.outOfBounds parameter.name value.text)
      else some (.wrongType parameter.name value.text)

end Parameter

namespace Space

/-- What is wrong with the first parameter that has something wrong. -/
def defect? (space : Space K) : Option SpaceError :=
  if space.parameters.isEmpty then some .empty
  else
    space.parameters.findSome? fun parameter =>
      parameter.range.defect?.map (.invalidRange parameter.name ·)

/-- Why an assignment does not lie in the space: its first violation. -/
def violation? (space : Space K) (assignment : Assignment K) : Option SpaceError :=
  space.parameters.findSome? (·.violation? assignment)

/-- Whether an assignment gives every parameter a value of its range. -/
def contains (space : Space K) (assignment : Assignment K) : Bool :=
  (space.violation? assignment).isNone

/-- The parameter names in order. -/
def names (space : Space K) : List String :=
  space.parameters.map (·.name)

end Space

end BatchBayes
