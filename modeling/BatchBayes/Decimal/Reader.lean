/-!
Reading a decimal text as the nearest double.
-/

namespace BatchBayes

namespace Decimal

/-- The value of a digit character. -/
def digitValue (digit : Char) : Nat :=
  digit.toNat - '0'.toNat

/-- The number that a list of digits denotes. -/
def digitsValue (digits : List Char) : Nat :=
  digits.foldl (fun value digit => 10 * value + digitValue digit) 0

/-- The leading digits of a text and what follows them. -/
def spanDigits (text : List Char) : List Char × List Char :=
  text.span Char.isDigit

/-- A sign, `+` by default, and what follows it. -/
def readSign : List Char → Bool × List Char
  | '-' :: rest => (true, rest)
  | '+' :: rest => (false, rest)
  | text => (false, text)

/-- The exponent of a number, 0 where none is written. Fails unless it ends
the text. -/
def readExponent? : List Char → Option Int
  | [] => some 0
  | mark :: rest =>
      if mark = 'e' ∨ mark = 'E' then
        let (negative, digits) := readSign rest
        if digits.isEmpty ∨ ¬ digits.all Char.isDigit then none
        else
          let magnitude := (digitsValue digits : Int)
          some (if negative then -magnitude else magnitude)
      else none

/-- The double nearest to `digits · 10 ^ exponent`. -/
def toFloat (digits : Nat) (exponent : Int) : Float :=
  match exponent with
  | .ofNat power => Float.ofScientific digits false power
  | .negSucc power => Float.ofScientific digits true (power + 1)

/-- Digits with an optional point among or beside them and an optional
exponent. -/
def readMagnitude? (text : List Char) : Option Float :=
  let (whole, afterWhole) := spanDigits text
  let (fraction, rest) :=
    match afterWhole with
    | '.' :: afterPoint => spanDigits afterPoint
    | _ => ([], afterWhole)
  if whole.isEmpty ∧ fraction.isEmpty then none
  else
    (readExponent? rest).map fun exponent =>
      toFloat (digitsValue (whole ++ fraction)) (exponent - fraction.length)

/-- The names of infinity and of the value that is no number, in any case. -/
def readName? (text : List Char) : Option Float :=
  match String.ofList (text.map Char.toLower) with
  | "inf" | "infinity" => some (1.0 / 0.0)
  | "nan" => some (0.0 / 0.0)
  | _ => none

/-- The double nearest to a decimal text: an optional sign, then a name or
digits with an optional point and an optional exponent. -/
def readFloat? (text : String) : Option Float :=
  let (negative, magnitude) := readSign text.toList
  ((readName? magnitude).or (readMagnitude? magnitude)).map fun value =>
    if negative then -value else value

end Decimal

end BatchBayes
