import BatchBayes.Decimal.Reader
import BatchBayes.Json.Basic
/-!
The numbers of JSON texts. Integers of 64 bits are exact. Every other number
is read through its leading digits, as many as 64 bits hold, which are then
scaled by a power of ten. Both steps round, so that the result need not be the
nearest double.
-/

namespace BatchBayes

namespace Json

/-! ## Leading digits -/

/-- Append digits to a value while the result fits 64 bits; gives the value
and the digits from the first one on that does not fit. -/
def appendDigits (value : Nat) : List Char → Nat × List Char
  | [] => (value, [])
  | digit :: digits =>
      let longer := 10 * value + Decimal.digitValue digit
      if longer < UInt64.size then appendDigits longer digits
      else (value, digit :: digits)

/-! ## Scaling -/

/-- The largest power of ten that a double can hold. -/
def largestPower : Nat := 308

/-- The double nearest to a power of ten. -/
def powerOfTen (power : Nat) : Float :=
  Decimal.toFloat 1 (power : Int)

/-- A double times a power of ten, unless that is too large. -/
def scaleUp? (value : Float) (places : Nat) : Option Float :=
  if places ≤ largestPower then
    let product := value * powerOfTen places
    if product.isFinite then some product else none
  else if value == 0 then some value
  else none

/-- A double divided by a power of ten, by the largest one as long as that is
needed. -/
def scaleDown (value : Float) (places : Nat) : Float :=
  if places ≤ largestPower then value / powerOfTen places
  else if value == 0 then value
  else scaleDown (value / powerOfTen largestPower) (places - largestPower)
termination_by places
decreasing_by
  simp only [largestPower] at *
  omega

/-- The double for `digits · 10 ^ exponent`, unless that is too large. -/
def scaled? (digits : Nat) (exponent : Int) : Option Float :=
  let value := Decimal.toFloat digits 0
  match exponent with
  | .ofNat places => scaleUp? value places
  | .negSucc places => some (scaleDown value (places + 1))

/-! ## Numbers -/

/-- A number that is no integer of 64 bits. -/
def realOf (negative : Bool) (digits : Nat) (exponent : Int) : Json :=
  match scaled? digits exponent with
  | some magnitude => .real (if negative then -magnitude else magnitude)
  | none => .unreadable

/-- A number written with digits only. Negative zero is a double. -/
def wholeOf (negative : Bool) (digits : List Char) : Json :=
  let (value, dropped) := appendDigits 0 digits
  if ¬ dropped.isEmpty then realOf negative value dropped.length
  else if ¬ negative then .integer value
  else if 0 < value ∧ Int64.minValue.toInt ≤ -value then .integer (-value)
  else realOf true value 0

/-- A number written with a point or an exponent. Digits before the point that
were dropped still count as places; digits behind it need not. -/
def fractionOf (negative : Bool) (whole fraction : List Char) (exponent : Int) :
    Json :=
  let (value, droppedWhole) := appendDigits 0 whole
  let (value, droppedFraction) := appendDigits value fraction
  let places : Int := fraction.length - droppedFraction.length
  realOf negative value (droppedWhole.length - places + exponent)

/-- The digits after a point, if there is one, and what follows them. -/
def readFraction? : List Char → Option (List Char × List Char)
  | '.' :: rest =>
      let (digits, afterDigits) := Decimal.spanDigits rest
      if digits.isEmpty then none else some (digits, afterDigits)
  | rest => some ([], rest)

/-- The number of a lexeme: no sign but `-`, no needless leading zero, digits
on both sides of a point. -/
def readNumber? (lexeme : List Char) : Option Json :=
  let (negative, unsigned) :=
    match lexeme with
    | '-' :: rest => (true, rest)
    | _ => (false, lexeme)
  let (whole, afterWhole) := Decimal.spanDigits unsigned
  if whole.isEmpty ∨ (whole.head? = some '0' ∧ whole.length ≠ 1) then none
  else if afterWhole.isEmpty then some (wholeOf negative whole)
  else
    match readFraction? afterWhole with
    | none => none
    | some (fraction, rest) =>
        (Decimal.readExponent? rest).map (fractionOf negative whole fraction)

end Json

end BatchBayes
