import BatchBayes.Decimal.Layout
import BatchBayes.Json.Basic
/-!
Writing JSON documents, on one line or indented.
-/

namespace BatchBayes

namespace Json

/-! ## Strings -/

def hexDigit (value : Nat) : Char :=
  Nat.digitChar value

/-- Quotes, backslashes and control characters are escaped, all others stand
for themselves. -/
def escapeChar (char : Char) : List Char :=
  match char with
  | '"' => ['\\', '"']
  | '\\' => ['\\', '\\']
  | '\x08' => ['\\', 'b']
  | '\x0c' => ['\\', 'f']
  | '\n' => ['\\', 'n']
  | '\r' => ['\\', 'r']
  | '\t' => ['\\', 't']
  | _ =>
      if char.toNat < 0x20 then
        ['\\', 'u', '0', '0', hexDigit (char.toNat / 16), hexDigit (char.toNat % 16)]
      else [char]

/-- A text between quotes. -/
def quote (text : String) : String :=
  String.ofList ('"' :: text.toList.flatMap escapeChar ++ ['"'])

/-- A value that is not put together from others. -/
def leafText : Json → String
  | .bool true => "true"
  | .bool false => "false"
  | .integer value => toString value
  | .real value => documentText value
  | .text value => quote value
  | _ => "null"

/-! ## On one line -/

mutual

/-- The document without any space. -/
def compact : Json → String
  | .list items => "[" ++ ",".intercalate (compactItems items) ++ "]"
  | .object fields =>
      "\x7b" ++ ",".intercalate (compactFields fields) ++ "\x7d"
  | leaf => leafText leaf
termination_by structural document => document

def compactItems : List Json → List String
  | [] => []
  | item :: items => compact item :: compactItems items
termination_by structural items => items

def compactFields : List (String × Json) → List String
  | [] => []
  | (name, value) :: fields =>
      (quote name ++ ":" ++ compact value) :: compactFields fields
termination_by structural fields => fields

end

/-! ## Indented -/

def newLine (depth : Nat) : String :=
  String.ofList ('\n' :: List.replicate (2 * depth) ' ')

/-- Parts on lines of their own between two brackets, or the bare brackets
where there are none. -/
def block (depth : Nat) (left right : String) (parts : List String) :
    String :=
  if parts.isEmpty then left ++ right
  else
    left ++ newLine (depth + 1) ++
      ("," ++ newLine (depth + 1)).intercalate parts ++ newLine depth ++ right

mutual

/-- Every item and field on a line of its own, two spaces deeper than what it
belongs to. -/
def prettyAt : Json → Nat → String
  | .list items, depth => block depth "[" "]" (prettyItems items (depth + 1))
  | .object fields, depth =>
      block depth "\x7b" "\x7d" (prettyFields fields (depth + 1))
  | leaf, _ => leafText leaf
termination_by structural document => document

def prettyItems : List Json → Nat → List String
  | [], _ => []
  | item :: items, depth => prettyAt item depth :: prettyItems items depth
termination_by structural items => items

def prettyFields : List (String × Json) → Nat → List String
  | [], _ => []
  | (name, value) :: fields, depth =>
      (quote name ++ ": " ++ prettyAt value depth) :: prettyFields fields depth
termination_by structural fields => fields

end

/-- The indented text of a document. -/
def pretty (document : Json) : String :=
  document.prettyAt 0

end Json

end BatchBayes
