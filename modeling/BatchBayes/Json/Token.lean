import BatchBayes.Json.Number
/-!
The tokens of a JSON text. A machine that takes one character at a time cuts
the text; what a token denotes is decided when it ends.
-/

namespace BatchBayes

namespace Json

/-- The pieces that a document is put together from. A string whose surrogate
escapes do not pair up has no text. -/
inductive Token where
  | openList
  | closeList
  | openObject
  | closeObject
  | comma
  | colon
  | string (text : Option String)
  | leaf (value : Json)

/-! ## Strings -/

/-- Where in a string the machine stands. -/
inductive StringPlace where
  | plain
  | escape
  | hex (count value : Nat)

/-- A string that has not ended: its characters, last one first, the first
half of a surrogate pair that waits for the second, and whether all others
paired up. -/
structure OpenString where
  place : StringPlace
  chars : List Char
  waiting : Option Nat
  paired : Bool

namespace OpenString

def start : OpenString := ⟨.plain, [], none, true⟩

/-- A character follows; a waiting surrogate stays alone. -/
def add (string : OpenString) (char : Char) : OpenString :=
  { place := .plain
    chars := char :: string.chars
    waiting := none
    paired := string.paired && string.waiting.isNone }

/-- The code unit of a finished `\u` escape follows. -/
def addUnit (string : OpenString) (unit : Nat) : OpenString :=
  if 0xd800 ≤ unit ∧ unit < 0xdc00 then
    { string with
      place := .plain
      waiting := some unit
      paired := string.paired && string.waiting.isNone }
  else if 0xdc00 ≤ unit ∧ unit < 0xe000 then
    match string.waiting with
    | some high =>
        { string with
          place := .plain
          chars := Char.ofNat
            (0x10000 + (high - 0xd800) * 0x400 + (unit - 0xdc00)) :: string.chars
          waiting := none }
    | none => { string with place := .plain, paired := false }
  else string.add (Char.ofNat unit)

def hexValue? (char : Char) : Option Nat :=
  if char.isDigit then some (char.toNat - '0'.toNat)
  else if 'a' ≤ char ∧ char ≤ 'f' then some (char.toNat - 'a'.toNat + 10)
  else if 'A' ≤ char ∧ char ≤ 'F' then some (char.toNat - 'A'.toNat + 10)
  else none

def escaped? : Char → Option Char
  | '"' => some '"'
  | '\\' => some '\\'
  | '/' => some '/'
  | 'b' => some '\x08'
  | 'f' => some '\x0c'
  | 'n' => some '\n'
  | 'r' => some '\r'
  | 't' => some '\t'
  | _ => none

/-- The text of the string, unless a surrogate stayed alone. -/
def text? (string : OpenString) : Option String :=
  if string.paired && string.waiting.isNone then
    some (String.ofList string.chars.reverse)
  else none

/-- Take one character. The string goes on, or its quote ends it; control
characters and unknown escapes are refused. -/
def push? (string : OpenString) (char : Char) : Option (Sum OpenString Token) :=
  match string.place with
  | .plain =>
      if char = '"' then some (.inr (.string string.text?))
      else if char = '\\' then some (.inl { string with place := .escape })
      else if char.toNat < 0x20 then none
      else some (.inl (string.add char))
  | .escape =>
      if char = 'u' then some (.inl { string with place := .hex 0 0 })
      else (escaped? char).map fun meant => .inl (string.add meant)
  | .hex count value =>
      (hexValue? char).map fun digit =>
        let unit := 16 * value + digit
        if count = 3 then .inl (string.addUnit unit)
        else .inl { string with place := .hex (count + 1) unit }

end OpenString

/-! ## The machine -/

/-- What the machine is in the middle of; lexemes have their last character
first. -/
inductive LexerState where
  | between
  | word (letters : List Char)
  | number (lexeme : List Char)
  | string (open_ : OpenString)

/-- The machine: its state and the tokens so far, last one first. -/
structure Lexer where
  state : LexerState
  tokens : List Token

namespace Lexer

def start : Lexer := ⟨.between, []⟩

def isNumberChar (char : Char) : Bool :=
  char.isDigit || char == '-' || char == '+' || char == '.' || char == 'e' ||
    char == 'E'

def word? (letters : List Char) : Option Json :=
  match String.ofList letters with
  | "null" => some .null
  | "true" => some (.bool true)
  | "false" => some (.bool false)
  | _ => none

/-- End the word or number that the machine is in. -/
def settle? (lexer : Lexer) : Option (List Token) :=
  match lexer.state with
  | .between => some lexer.tokens
  | .word letters =>
      (word? letters.reverse).map fun value => .leaf value :: lexer.tokens
  | .number lexeme =>
      (readNumber? lexeme.reverse).map fun value => .leaf value :: lexer.tokens
  | .string _ => none

/-- A character that starts a token. -/
def begin? (tokens : List Token) (char : Char) : Option Lexer :=
  match char with
  | ' ' | '\n' | '\t' | '\r' => some ⟨.between, tokens⟩
  | '[' => some ⟨.between, .openList :: tokens⟩
  | ']' => some ⟨.between, .closeList :: tokens⟩
  | '\x7b' => some ⟨.between, .openObject :: tokens⟩
  | '\x7d' => some ⟨.between, .closeObject :: tokens⟩
  | ',' => some ⟨.between, .comma :: tokens⟩
  | ':' => some ⟨.between, .colon :: tokens⟩
  | '"' => some ⟨.string .start, tokens⟩
  | _ =>
      if char.isDigit ∨ char = '-' then some ⟨.number [char], tokens⟩
      else if char.isAlpha then some ⟨.word [char], tokens⟩
      else none

/-- Take one character. -/
def push? (lexer : Lexer) (char : Char) : Option Lexer :=
  match lexer.state with
  | .string string =>
      (string.push? char).map fun
        | .inl longer => ⟨.string longer, lexer.tokens⟩
        | .inr token => ⟨.between, token :: lexer.tokens⟩
  | .number lexeme =>
      if isNumberChar char then some ⟨.number (char :: lexeme), lexer.tokens⟩
      else lexer.settle?.bind (begin? · char)
  | .word letters =>
      if char.isAlpha then some ⟨.word (char :: letters), lexer.tokens⟩
      else lexer.settle?.bind (begin? · char)
  | .between => begin? lexer.tokens char

end Lexer

/-- The tokens of a text. -/
def tokens? (text : String) : Option (List Token) :=
  ((text.toList.foldlM Lexer.push? Lexer.start).bind Lexer.settle?).map
    List.reverse

end Json

end BatchBayes
