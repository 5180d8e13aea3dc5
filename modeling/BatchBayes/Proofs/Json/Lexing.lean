import Mathlib
import BatchBayes.Json.Printer
import BatchBayes.Proofs.Json.Numbers
/-!
The tokens of an indented document. A piece of text is described by the tokens that it
adds wherever it is read, and pieces that stand one after the other add their tokens one
after the other.
-/

namespace BatchBayes

namespace Json

namespace Lexer

/-! ## Runs -/

def run? (lexer : Lexer) (text : List Char) : Option Lexer :=
  text.foldlM push? lexer

@[simp]
theorem run?_nil (lexer : Lexer) : run? lexer [] = some lexer :=
  rfl

@[simp]
theorem run?_cons (lexer : Lexer) (char : Char) (text : List Char) :
    run? lexer (char :: text) = (push? lexer char).bind (run? · text) :=
  List.foldlM_cons

theorem run?_append (lexer : Lexer) (front back : List Char) :
    run? lexer (front ++ back) = (run? lexer front).bind (run? · back) :=
  List.foldlM_append

theorem push?_between (tokens : List Token) (char : Char) :
    push? ⟨.between, tokens⟩ char = begin? tokens char :=
  rfl

theorem push?_word (letters : List Char) (tokens : List Token) (char : Char) :
    push? ⟨.word letters, tokens⟩ char =
      if char.isAlpha then some ⟨.word (char :: letters), tokens⟩
      else (settle? ⟨.word letters, tokens⟩).bind (begin? · char) :=
  rfl

theorem push?_number (lexeme : List Char) (tokens : List Token) (char : Char) :
    push? ⟨.number lexeme, tokens⟩ char =
      if isNumberChar char then some ⟨.number (char :: lexeme), tokens⟩
      else (settle? ⟨.number lexeme, tokens⟩).bind (begin? · char) :=
  rfl

/-- A character of no word and no number ends the one that the machine is in. -/
theorem push?_of_settled {lexer : Lexer} {before : List Token} {char : Char}
    (settled : lexer.settle? = some before) (number : isNumberChar char = false)
    (letter : char.isAlpha = false) : push? lexer char = begin? before char := by
  obtain ⟨state, tokens⟩ := lexer
  cases state with
  | between => rw [push?_between, ← Option.some.inj settled]
  | word letters =>
      rw [push?_word, if_neg (by simp [letter]), settled, Option.bind_some]
  | number lexeme =>
      rw [push?_number, if_neg (by simp [number]), settled, Option.bind_some]
  | string open_ => cases settled

/-! ## Pieces of text -/

/-- The text takes the machine from between two tokens to between two tokens. -/
def Separated (text : List Char) (tokens : List Token) : Prop :=
  ∀ before,
    run? ⟨.between, before⟩ text = some ⟨.between, tokens.reverse ++ before⟩

/-- The text ends what the machine is in, too. -/
def Separates (text : List Char) (tokens : List Token) : Prop :=
  ∀ lexer before, lexer.settle? = some before →
    run? lexer text = some ⟨.between, tokens.reverse ++ before⟩

/-- The machine may be left in the last of the tokens. -/
def Written (text : List Char) (tokens : List Token) : Prop :=
  ∀ before, ∃ lexer,
    run? ⟨.between, before⟩ text = some lexer ∧
      lexer.settle? = some (tokens.reverse ++ before)

section Pieces

variable {front back text : List Char} {first second tokens : List Token}

theorem Separates.separated (separates : Separates text tokens) :
    Separated text tokens :=
  fun before => separates ⟨.between, before⟩ before rfl

theorem Separated.written (separated : Separated text tokens) :
    Written text tokens :=
  fun before => ⟨_, separated before, rfl⟩

theorem separated_nil : Separated [] [] :=
  fun _ => rfl

theorem Separated.append (separated : Separated front first)
    (next : Separated back second) : Separated (front ++ back) (first ++ second) := by
  intro before
  rw [run?_append, separated before, Option.bind_some, next, List.reverse_append,
    List.append_assoc]

theorem Separates.append (separates : Separates front first)
    (next : Separated back second) : Separates (front ++ back) (first ++ second) := by
  intro lexer before settled
  rw [run?_append, separates lexer before settled, Option.bind_some, next,
    List.reverse_append, List.append_assoc]

theorem Separated.append_written (separated : Separated front first)
    (next : Written back second) : Written (front ++ back) (first ++ second) := by
  intro before
  obtain ⟨lexer, ran, settled⟩ := next (first.reverse ++ before)
  refine ⟨lexer, ?_, ?_⟩
  · rw [run?_append, separated before, Option.bind_some, ran]
  · rw [settled, List.reverse_append, List.append_assoc]

theorem Written.append (written : Written front first)
    (next : Separates back second) : Separated (front ++ back) (first ++ second) := by
  intro before
  obtain ⟨lexer, ran, settled⟩ := written before
  rw [run?_append, ran, Option.bind_some, next lexer _ settled, List.reverse_append,
    List.append_assoc]

/-- Pieces with the same separator between any two of them. -/
theorem written_intercalate {separator : List Char} {between : List Token}
    (separates : Separates separator between) {texts : List (List Char)}
    {parts : List (List Token)} (each : List.Forall₂ Written texts parts) :
    Written (separator.intercalate texts) (between.intercalate parts) := by
  induction each with
  | nil => exact separated_nil.written
  | cons written rest inductionHypothesis =>
      cases rest with
      | nil => simpa using written
      | cons =>
          rw [List.intercalate_cons_cons, List.intercalate_cons_cons]
          exact (written.append separates).append_written inductionHypothesis

end Pieces

theorem tokens?_of_written {text : String} {tokens : List Token}
    (written : Written text.toList tokens) : tokens? text = some tokens := by
  obtain ⟨lexer, ran, settled⟩ := written []
  have run : text.toList.foldlM push? start = some lexer := ran
  rw [tokens?, run, Option.bind_some, settled, List.append_nil, Option.map_some,
    List.reverse_reverse]

/-! ## Punctuation -/

theorem separates_singleton {char : Char} {tokens : List Token}
    (number : isNumberChar char = false) (letter : char.isAlpha = false)
    (begins : ∀ before,
      begin? before char = some ⟨.between, tokens.reverse ++ before⟩) :
    Separates [char] tokens := by
  intro lexer before settled
  rw [run?_cons, push?_of_settled settled number letter, begins]
  rfl

theorem separates_space : Separates [' '] [] :=
  separates_singleton rfl rfl fun _ => rfl

theorem separates_comma : Separates [','] [.comma] :=
  separates_singleton rfl rfl fun _ => rfl

theorem separates_colon : Separates [':'] [.colon] :=
  separates_singleton rfl rfl fun _ => rfl

theorem separates_openList : Separates "[".toList [.openList] :=
  separates_singleton rfl rfl fun _ => rfl

theorem separates_closeList : Separates "]".toList [.closeList] :=
  separates_singleton rfl rfl fun _ => rfl

theorem separates_openObject : Separates "\x7b".toList [.openObject] :=
  separates_singleton rfl rfl fun _ => rfl

theorem separates_closeObject : Separates "\x7d".toList [.closeObject] :=
  separates_singleton rfl rfl fun _ => rfl

theorem separates_newLine (depth : Nat) : Separates (newLine depth).toList [] := by
  have spaces : ∀ count, Separated (List.replicate count ' ') [] := by
    intro count
    induction count with
    | zero => exact separated_nil
    | succ count inductionHypothesis =>
        exact separates_space.separated.append inductionHypothesis
  have lineEnd : Separates ['\n'] [] := separates_singleton rfl rfl fun _ => rfl
  rw [newLine, String.toList_ofList]
  exact lineEnd.append (spaces (2 * depth))

/-! ## Numbers -/

theorem begin?_of_number {first : Char} (start : first.isDigit = true ∨ first = '-')
    (before : List Token) : begin? before first = some ⟨.number [first], before⟩ := by
  unfold begin?
  split
  case h_12 => rw [if_pos start]
  all_goals exact absurd start (by decide)

theorem run?_number {rest : List Char}
    (number : ∀ char ∈ rest, isNumberChar char = true) (lexeme : List Char)
    (before : List Token) :
    run? ⟨.number lexeme, before⟩ rest =
      some ⟨.number (rest.reverse ++ lexeme), before⟩ := by
  induction rest generalizing lexeme with
  | nil => rfl
  | cons char rest inductionHypothesis =>
      have head := number char List.mem_cons_self
      have tail := inductionHypothesis fun other member =>
        number other (List.mem_cons_of_mem _ member)
      rw [run?_cons, push?_number, if_pos head, Option.bind_some, tail,
        List.reverse_cons, List.append_assoc]
      rfl

/-- A lexeme that is read as a number is one token. -/
theorem written_number {lexeme : List Char} {value : Json}
    (read : readNumber? lexeme = some value) : Written lexeme [.leaf value] := by
  obtain ⟨first, rest, rfl, start, number⟩ := exists_lexeme_of_readNumber? read
  intro before
  refine ⟨⟨.number (rest.reverse ++ [first]), before⟩, ?_, ?_⟩
  · rw [run?_cons, push?_between, begin?_of_number start, Option.bind_some,
      run?_number number]
  · rw [settle?]
    simp [read]

/-! ## Strings -/

theorem hexValue?_hexDigit {value : Nat} (small : value < 16) :
    OpenString.hexValue? (hexDigit value) = some value := by
  interval_cases value <;> rfl

/-- The machine in a string without escapes that are still open. -/
def inside (chars : List Char) (before : List Token) : Lexer :=
  ⟨.string ⟨.plain, chars, none, true⟩, before⟩

theorem push?_inside {char : Char} (quotation : char ≠ '"') (backslash : char ≠ '\\')
    (control : ¬char.toNat < 0x20) (chars : List Char) (before : List Token) :
    push? (inside chars before) char = some (inside (char :: chars) before) := by
  simp [push?, inside, OpenString.push?, OpenString.add, quotation, backslash, control]

/-- A control character is escaped by its two hexadecimal digits. -/
theorem run?_control {char : Char} (control : char.toNat < 0x20)
    (chars : List Char) (before : List Token) :
    run? (inside chars before)
        ['\\', 'u', '0', '0', hexDigit (char.toNat / 16),
          hexDigit (char.toNat % 16)] =
      some (inside (char :: chars) before) := by
  have high :
      OpenString.hexValue? (hexDigit (char.toNat / 16)) = some (char.toNat / 16) :=
    hexValue?_hexDigit (by omega)
  have low :
      OpenString.hexValue? (hexDigit (char.toNat % 16)) = some (char.toNat % 16) :=
    hexValue?_hexDigit (by omega)
  have zero : OpenString.hexValue? '0' = some 0 := rfl
  have unit : 16 * (char.toNat / 16) + char.toNat % 16 = char.toNat := by omega
  -- No control character is half of a surrogate pair.
  have single : ∀ string : OpenString,
      string.addUnit char.toNat = string.add (Char.ofNat char.toNat) := by
    intro string
    rw [OpenString.addUnit, if_neg (by omega), if_neg (by omega)]
  simp [push?, inside, OpenString.push?, OpenString.add, high, low, zero, unit, single]

theorem run?_escapeChar (char : Char) (chars : List Char) (before : List Token) :
    run? (inside chars before) (escapeChar char) =
      some (inside (char :: chars) before) := by
  fun_cases escapeChar char with
  | case8 _ control => rw [if_pos control, run?_control control]
  | case9 _ control quotation backslash =>
      rw [if_neg control, run?_cons, push?_inside quotation backslash control]
      rfl
  | _ => rfl

theorem run?_flatMap_escapeChar (text chars : List Char) (before : List Token) :
    run? (inside chars before) (text.flatMap escapeChar) =
      some (inside (text.reverse ++ chars) before) := by
  induction text generalizing chars with
  | nil => rfl
  | cons char text inductionHypothesis =>
      rw [List.flatMap_cons, run?_append, run?_escapeChar, Option.bind_some,
        inductionHypothesis, List.reverse_cons, List.append_assoc]
      rfl

theorem separated_quote (text : String) :
    Separated (quote text).toList [.string (some text)] := by
  intro before
  have opened : push? ⟨.between, before⟩ '"' = some (inside [] before) := rfl
  have closed :
      push? (inside text.toList.reverse before) '"' =
        some ⟨.between, .string (some text) :: before⟩ := by
    simp [push?, inside, OpenString.push?, OpenString.text?]
  rw [quote, String.toList_ofList, List.cons_append, run?_cons, opened,
    Option.bind_some, run?_append, run?_flatMap_escapeChar, Option.bind_some,
    List.append_nil, run?_cons, closed]
  rfl

theorem written_null : Written "null".toList [.leaf .null] :=
  fun _ => ⟨_, rfl, rfl⟩

theorem written_true : Written "true".toList [.leaf (.bool true)] :=
  fun _ => ⟨_, rfl, rfl⟩

theorem written_false : Written "false".toList [.leaf (.bool false)] :=
  fun _ => ⟨_, rfl, rfl⟩

end Lexer

/-! ## Documents -/

theorem prettyItems_eq_map (items : List Json) (depth : Nat) :
    prettyItems items depth = items.map fun item => item.prettyAt depth := by
  induction items with
  | nil => rfl
  | cons item items inductionHypothesis =>
      rw [prettyItems, inductionHypothesis, List.map_cons]

theorem prettyFields_eq_map (fields : List (String × Json)) (depth : Nat) :
    prettyFields fields depth =
      fields.map fun field => quote field.1 ++ ": " ++ field.2.prettyAt depth := by
  induction fields with
  | nil => rfl
  | cons field fields inductionHypothesis =>
      rw [prettyFields, inductionHypothesis, List.map_cons]

mutual

/-- The tokens that a document is put together from. -/
def tokens : Json → List Token
  | .list items =>
      .openList :: [Token.comma].intercalate (itemTokens items) ++ [.closeList]
  | .object fields =>
      .openObject :: [Token.comma].intercalate (fieldTokens fields) ++ [.closeObject]
  | .text value => [.string (some value)]
  | leaf => [.leaf leaf]
termination_by structural document => document

def itemTokens : List Json → List (List Token)
  | [] => []
  | item :: items => tokens item :: itemTokens items
termination_by structural items => items

def fieldTokens : List (String × Json) → List (List Token)
  | [] => []
  | (name, value) :: fields =>
      (.string (some name) :: .colon :: tokens value) :: fieldTokens fields
termination_by structural fields => fields

end

def tokensOfField (field : String × Json) : List Token :=
  .string (some field.1) :: .colon :: field.2.tokens

theorem itemTokens_eq_map (items : List Json) :
    itemTokens items = items.map tokens := by
  induction items with
  | nil => rfl
  | cons item items inductionHypothesis =>
      rw [itemTokens, inductionHypothesis, List.map_cons]

theorem fieldTokens_eq_map (fields : List (String × Json)) :
    fieldTokens fields = fields.map tokensOfField := by
  induction fields with
  | nil => rfl
  | cons field fields inductionHypothesis =>
      rw [fieldTokens, inductionHypothesis, List.map_cons, tokensOfField]

/-- The text of the number is read as the number. -/
def Rereads (value : Float) : Prop :=
  readNumber? (documentText value).toList = some (.real value)

def real? : Json → Option Float
  | .real value => some value
  | _ => none

theorem rereads_iff (value : Float) :
    Rereads value ↔
      (readNumber? (documentText value).toList).bind real? = some value := by
  rw [Rereads]
  constructor
  · intro read
    rw [read]
    rfl
  · intro read
    obtain ⟨document, written, real⟩ := Option.bind_eq_some_iff.1 read
    cases document with
    | real number => rw [written, ← Option.some.inj real]
    | _ => cases real

instance (value : Float) : Decidable (Rereads value) :=
  decidable_of_iff _ (rereads_iff value).symm

/-- The document has a text that is read as the document again, and `room` is
left for lists and objects to be nested. -/
inductive Legible : Nat → Json → Prop
  | null {room : Nat} : Legible room .null
  | bool {room : Nat} (value : Bool) : Legible room (.bool value)
  | integer {room : Nat} {value : Int} (lower : Int64.minValue.toInt ≤ value)
      (upper : value < UInt64.size) : Legible room (.integer value)
  | real {room : Nat} {value : Float} (rereads : Rereads value) :
      Legible room (.real value)
  | text {room : Nat} (value : String) : Legible room (.text value)
  | list {room : Nat} {items : List Json} (each : ∀ item ∈ items, Legible room item) :
      Legible (room + 1) (.list items)
  | object {room : Nat} {fields : List (String × Json)}
      (each : ∀ field ∈ fields, Legible room field.2) :
      Legible (room + 1) (.object fields)

open Lexer

theorem written_block {left right : String} {opening closing : Token}
    (opens : Separates left.toList [opening]) (closes : Separates right.toList [closing])
    {texts : List String} {parts : List (List Token)}
    (each : List.Forall₂ (fun text part => Written text.toList part) texts parts)
    (depth : Nat) :
    Written (block depth left right texts).toList
      (opening :: [Token.comma].intercalate parts ++ [closing]) := by
  rw [block]
  split
  case isTrue empty =>
    cases each with
    | cons => simp at empty
    | nil =>
        -- Bare brackets.
        rw [String.toList_append]
        exact (opens.append closes.separated).separated.written
  case isFalse =>
    have separator : Separates ("," ++ newLine (depth + 1)).toList [.comma] := by
      rw [String.toList_append]
      exact separates_comma.append (separates_newLine (depth + 1)).separated
    have inner := written_intercalate separator (List.forall₂_map_left_iff.2 each)
    have start : Separated (left ++ newLine (depth + 1)).toList [opening] := by
      rw [String.toList_append]
      exact (opens.append (separates_newLine (depth + 1)).separated).separated
    have stop : Separates (newLine depth ++ right).toList [closing] := by
      rw [String.toList_append]
      exact (separates_newLine depth).append closes.separated
    have whole := ((start.append_written inner).append stop).written
    simpa [String.toList_intercalate, List.append_assoc] using whole

theorem written_field (name : String) {text : String} {value : Json}
    (written : Written text.toList value.tokens) :
    Written (quote name ++ ": " ++ text).toList (tokensOfField (name, value)) := by
  have colon : Separates ": ".toList [.colon] :=
    separates_colon.append separates_space.separated
  rw [String.toList_append, String.toList_append]
  exact ((separated_quote name).written.append colon).append_written written

theorem written_prettyAt {room : Nat} {document : Json}
    (legible : document.Legible room) (depth : Nat) :
    Written (document.prettyAt depth).toList document.tokens := by
  induction legible generalizing depth with
  | null => exact written_null
  | bool value =>
      cases value with
      | true => exact written_true
      | false => exact written_false
  | integer lower upper => exact written_number (readNumber?_toString lower upper)
  | real rereads => exact written_number rereads
  | text value => exact (separated_quote value).written
  | list _ inductionHypothesis =>
      rw [prettyAt, tokens, prettyItems_eq_map, itemTokens_eq_map]
      refine written_block separates_openList separates_closeList ?_ depth
      rw [List.forall₂_map_left_iff, List.forall₂_map_right_iff, List.forall₂_same]
      exact fun item member => inductionHypothesis item member (depth + 1)
  | object _ inductionHypothesis =>
      rw [prettyAt, tokens, prettyFields_eq_map, fieldTokens_eq_map]
      refine written_block separates_openObject separates_closeObject ?_ depth
      rw [List.forall₂_map_left_iff, List.forall₂_map_right_iff, List.forall₂_same]
      exact fun field member =>
        written_field field.1 (inductionHypothesis field member (depth + 1))

/-- The tokens of an indented text are those of its document. -/
theorem tokens?_pretty {room : Nat} {document : Json}
    (legible : document.Legible room) :
    tokens? document.pretty = some document.tokens :=
  tokens?_of_written (written_prettyAt legible 0)

end Json

end BatchBayes
