import BatchBayes.Text.Invisible
/-!
Texts between quotes in messages, so that every character can be seen: those
that cannot be seen by themselves are given by their numbers.
-/

namespace BatchBayes

/-- How a character stands between quotes. -/
def quotedChar (char : Char) : List Char :=
  match char with
  | '\x00' => ['\\', '0']
  | '\t' => ['\\', 't']
  | '\r' => ['\\', 'r']
  | '\n' => ['\\', 'n']
  | '\\' => ['\\', '\\']
  | '"' => ['\\', '"']
  | _ =>
      if isInvisible char then
        ['\\', 'u', '\x7b'] ++ Nat.toDigits 16 char.toNat ++ ['\x7d']
      else [char]

/-- A text between quotes. -/
def quoted (text : String) : String :=
  String.ofList ('"' :: text.toList.flatMap quotedChar ++ ['"'])

example : quoted "a\t\"é\u00a0\"" = "\"a\\t\\\"é\\u\x7ba0\x7d\\\"\"" := by decide +kernel

end BatchBayes
