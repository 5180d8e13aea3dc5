import BatchBayes.Scalar
import BatchBayes.Decimal.Layout
import BatchBayes.Decimal.Reader
/-!
Doubles as the numbers of a model.
-/

namespace BatchBayes

instance : Scalar Float where
  zero := 0.0
  one := 1.0
  decidableLT := Float.decLt
  decidableLE := Float.decLe
  ofInt := Float.ofInt
  sqrt := Float.sqrt
  exp := Float.exp
  log := Float.log
  floor x := if x.isFinite then (BinaryForm.ofFloat x).floor else 0
  round x := if x.isFinite then (BinaryForm.ofFloat x).round else 0
  isNaN := Float.isNaN
  isFinite := Float.isFinite
  infinity := 1.0 / 0.0
  largest := 1.7976931348623157e308

instance : DecimalText Float where
  text := plainText
  ofText? := Decimal.readFloat?

end BatchBayes
