import BatchBayes.Decimal.Digits
/-!
How numbers are written: plainly, and as numbers of a JSON document.
-/

namespace BatchBayes

namespace Decimal

/-- A number with the point after the first `point` digits, padded with zeros
on either side; without digits after the point the point is left out. -/
def positional (digits : List Char) (point : Int) : List Char × List Char :=
  match point with
  | .ofNat whole =>
      if whole = 0 then (['0'], digits)
      else
        (digits.take whole ++ List.replicate (whole - digits.length) '0',
          digits.drop whole)
  | .negSucc missing => (['0'], List.replicate (missing + 1) '0' ++ digits)

/-- The place of the point counted from before the leading digit. -/
def pointAfter (decimal : Decimal) : Int :=
  (decimal.digitText.length : Int) + decimal.exponent

/-- All digits in place, without an exponent. -/
def plain (decimal : Decimal) : String :=
  let (whole, rest) := positional decimal.digitText decimal.pointAfter
  String.ofList (if rest.isEmpty then whole else whole ++ '.' :: rest)

/-- One digit, the point, the other digits and the exponent. -/
def scientific (decimal : Decimal) (exponentMark : String) : String :=
  let power := decimal.pointAfter - 1
  let mantissa :=
    match decimal.digitText with
    | [] => []
    | [digit] => [digit]
    | digit :: rest => digit :: '.' :: rest
  String.ofList mantissa ++ "e" ++
    (if power < 0 then "" else exponentMark) ++ toString power

end Decimal

/-! ## Texts of doubles -/

/-- The text of a value that is no finite number. -/
def exceptionalText? (x : Float) : Option String :=
  if x.isNaN then some "NaN"
  else if x.isInf then some (if x < 0 then "-inf" else "inf")
  else none

/-- Put the sign of a number in front of the text of its magnitude. -/
def BinaryForm.signed (form : BinaryForm) (magnitude : String) : String :=
  if form.negative then "-" ++ magnitude else magnitude

/-- The shortest digits that read back, without an exponent; a whole number
has no point. -/
def plainText (x : Float) : String :=
  (exceptionalText? x).getD <|
    let form := BinaryForm.ofFloat x
    form.signed <|
      if form.mantissa = 0 then "0" else (Decimal.shortest .up form).plain

/-- The shortest digits that read back, with at least one digit after the
point from `1e-5` up to `1e16` and in scientific form outside. Values that are
no finite number have no such text and are written `null`. -/
def documentText (x : Float) : String :=
  if x.isFinite then
    let form := BinaryForm.ofFloat x
    form.signed <|
      if form.mantissa = 0 then "0.0"
      else
        let decimal := Decimal.shortest .even form
        let point := (decimal.digitText.length : Int) + decimal.exponent
        if -5 < point ∧ point ≤ 16 then
          let text := decimal.plain
          if decimal.exponent < 0 then text else text ++ ".0"
        else decimal.scientific "+"
  else "null"

end BatchBayes
