import BatchBayes.Decimal.BinaryForm
/-!
Decimal digits of an exact binary value: a fixed number of digits rounded to
nearest, and the fewest digits that read back as the same double.
-/

namespace BatchBayes

/-- The number `digits · 10 ^ exponent`. -/
structure Decimal where
  digits : Nat
  exponent : Int
deriving DecidableEq, Repr

/-- The number of decimal digits of a natural number, 1 for zero. -/
def decimalLength (n : Nat) : Nat :=
  (Nat.toDigits 10 n).length

/-- Which neighbour a number halfway between two goes to. -/
inductive Tie where
  | up
  | even
deriving DecidableEq, Repr

/-- Divide and round to nearest. -/
def roundDiv (tie : Tie) (numerator denominator : Nat) : Nat :=
  let quotient := numerator / denominator
  let twice := 2 * (numerator % denominator)
  if twice < denominator then quotient
  else if denominator < twice then quotient + 1
  else
    match tie with
    | .up => quotient + 1
    | .even => quotient + quotient % 2

/-- The ratio over `10 ^ exponent`, as numerator and denominator. -/
def scaleRatio (ratio : Nat × Nat) : Int → Nat × Nat
  | .ofNat power => (ratio.1, ratio.2 * Nat.pow 10 power)
  | .negSucc power => (ratio.1 * Nat.pow 10 (power + 1), ratio.2)

/-- The place of the leading digit of a positive ratio: the greatest `p` with
`10 ^ p` not above it. -/
def leadingPlace (ratio : Nat × Nat) : Int :=
  let (numerator, denominator) := ratio
  if denominator ≤ numerator then
    (decimalLength (numerator / denominator) : Int) - 1
  else
    let places := decimalLength (denominator / numerator)
    if denominator ≤ numerator * Nat.pow 10 (places - 1) then
      1 - (places : Int)
    else -(places : Int)

namespace Decimal

/-! ## A fixed number of digits -/

/-- A positive ratio rounded to `count` digits, a half going to the even
neighbour. -/
def rounded (count : Nat) (ratio : Nat × Nat) : Decimal :=
  let place := leadingPlace ratio
  let exponent := place - ((count : Int) - 1)
  let (numerator, denominator) := scaleRatio ratio exponent
  let digits := roundDiv .even numerator denominator
  if digits < Nat.pow 10 count then ⟨digits, exponent⟩
  else ⟨digits / 10, exponent + 1⟩

/-! ## The fewest digits -/

/-- The multiples of a quarter unit in the last place between which all reals
round to a double, and whether the two ends do so too. -/
structure RoundingInterval where
  low : Nat
  value : Nat
  high : Nat
  exponent : Int
  closed : Bool

/-- Every real between `low · 2 ^ exponent` and `high · 2 ^ exponent` rounds
to the double. Below a power of two the doubles lie twice as dense. -/
def RoundingInterval.ofForm (form : BinaryForm) : RoundingInterval :=
  let value := 4 * form.mantissa
  let narrow := form.mantissa = BinaryForm.leadingBit ∧ -1074 < form.exponent
  { low := if narrow then value - 1 else value - 2
    value := value
    high := value + 2
    exponent := form.exponent - 2
    closed := form.mantissa % 2 == 0 }

/-- Whether the multiple `point` of the grid unit lies in the interval, whose
ends are given in units of `1 / denominator` of the grid unit. -/
def liesBetween (closed : Bool) (low high denominator point : Nat) : Bool :=
  let scaled := point * denominator
  if closed then decide (low ≤ scaled) && decide (scaled ≤ high)
  else decide (low < scaled) && decide (scaled < high)

/-- The multiple of `10 ^ place` nearest to the double that rounds to it. Only
the two neighbours of the double on the grid need a look. -/
def RoundingInterval.onGrid? (tie : Tie) (interval : RoundingInterval)
    (place : Int) : Option Decimal :=
  let inGridUnits := fun (mantissa : Nat) =>
    scaleRatio (BinaryForm.ratio ⟨false, mantissa, interval.exponent⟩) place
  let (low, denominator) := inGridUnits interval.low
  let (value, _) := inGridUnits interval.value
  let (high, _) := inGridUnits interval.high
  let below := value / denominator
  let fits := liesBetween interval.closed low high denominator
  match fits below, fits (below + 1) with
  | true, true => some ⟨roundDiv tie value denominator, place⟩
  | true, false => some ⟨below, place⟩
  | false, true => some ⟨below + 1, place⟩
  | false, false => none

/-- Ten units of a place as one unit of the next. -/
def carryTen (decimal : Decimal) : Decimal :=
  if decimal.digits = 10 then ⟨1, decimal.exponent + 1⟩ else decimal

/-- The decimal of fewest digits that reads back as the double, and the
nearest of those to it; seventeen digits always do. -/
def shortest (tie : Tie) (form : BinaryForm) : Decimal :=
  let interval := RoundingInterval.ofForm form
  let leading := leadingPlace form.ratio
  let places := (List.range 17).map (fun (count : Nat) => leading - (count : Int))
  carryTen ((places.findSome? (interval.onGrid? tie)).getD (rounded 17 form.ratio))

/-! ## Digit texts -/

/-- The digits from the leading one on. -/
def digitText (decimal : Decimal) : List Char :=
  Nat.toDigits 10 decimal.digits

end Decimal

end BatchBayes
