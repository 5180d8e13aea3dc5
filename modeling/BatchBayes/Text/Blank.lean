/-!
White space of Unicode texts.
-/

namespace BatchBayes

/-- The characters with the Unicode property `White_Space`. -/
def isBlank (char : Char) : Bool :=
  let code := char.toNat
  (0x09 ≤ code && code ≤ 0x0d) || code == 0x20 || code == 0x85 ||
    code == 0xa0 || code == 0x1680 || (0x2000 ≤ code && code ≤ 0x200a) ||
    code == 0x2028 || code == 0x2029 || code == 0x202f || code == 0x205f ||
    code == 0x3000

/-- The characters without the blank ones at the front. -/
def dropBlank (chars : List Char) : List Char :=
  chars.dropWhile isBlank

/-- The text without the blank characters at its two ends. -/
def trimBlank (text : String) : String :=
  String.ofList (dropBlank (dropBlank text.toList).reverse).reverse

example : trimBlank " \t a b\u3000\n" = "a b" := by decide

example : trimBlank "\u00a0\u2003" = "" := by decide

end BatchBayes
