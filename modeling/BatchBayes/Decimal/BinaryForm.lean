/-!
The exact value of a double: a sign, a natural mantissa and a power of two.
-/

namespace BatchBayes

/-- The finite number `± mantissa · 2 ^ exponent`. -/
structure BinaryForm where
  negative : Bool
  mantissa : Nat
  exponent : Int
deriving DecidableEq, Repr

namespace BinaryForm

/-- The sign, exponent field and fraction field of a double. -/
def fields (x : Float) : Bool × Nat × Nat :=
  let bits := x.toBits
  (bits >>> 63 == 1, (bits >>> 52 &&& 0x7ff).toNat, (bits &&& 0xfffffffffffff).toNat)

/-- The bit above the fraction, `2 ^ 52`, which all but the smallest doubles
have. -/
def leadingBit : Nat := 0x10000000000000

/-- The exact value of a finite double. The exponent is the same for all
doubles between two powers of two. -/
def ofFloat (x : Float) : BinaryForm :=
  let (negative, exponentField, fraction) := fields x
  if exponentField = 0 then ⟨negative, fraction, -1074⟩
  else ⟨negative, leadingBit + fraction, (exponentField : Int) - 1075⟩

/-- Numerator and denominator of the absolute value. -/
def ratio (form : BinaryForm) : Nat × Nat :=
  match form.exponent with
  | .ofNat power => (form.mantissa <<< power, 1)
  | .negSucc power => (form.mantissa, 1 <<< (power + 1))

/-- Give a magnitude the sign of the number. -/
def withSign (form : BinaryForm) (magnitude : Nat) : Int :=
  if form.negative then -(magnitude : Int) else magnitude

/-- The greatest integer not above the number. -/
def floor (form : BinaryForm) : Int :=
  let (numerator, denominator) := form.ratio
  Int.fdiv (form.withSign numerator) denominator

/-- The nearest integer, a half going away from zero. -/
def round (form : BinaryForm) : Int :=
  let (numerator, denominator) := form.ratio
  form.withSign ((2 * numerator + denominator) / (2 * denominator))

end BinaryForm

end BatchBayes
