import BatchBayes.Json.Token
/-!
Reading a JSON text: a machine with a stack of open lists and objects takes
one token at a time.
-/

namespace BatchBayes

namespace Json

/-- A list or object that has not ended, its last part first. An object knows
the name that its next value belongs to, and whether all its names have a
text. -/
inductive Frame where
  | list (items : List Json)
  | object (fields : List (String × Json)) (name : String) (named : Bool)

/-- What the next token may be. -/
inductive Expectation where
  | value
  | firstItem
  | afterItem
  | firstName
  | name
  | colon
  | afterField
  | nothing
deriving DecidableEq

/-- The machine: what it expects, the open containers from the innermost out,
and the document once it is complete. -/
structure Assembly where
  expects : Expectation
  frames : List Frame
  document : Json

namespace Assembly

def start : Assembly := ⟨.value, [], .null⟩

/-- Containers may be nested this deep, but not deeper, to be readable. -/
def depthLimit : Nat := 127

/-- Put a complete value where it belongs. -/
def place (frames : List Frame) (value : Json) : Assembly :=
  match frames with
  | [] => ⟨.nothing, [], value⟩
  | .list items :: outer => ⟨.afterItem, .list (value :: items) :: outer, .null⟩
  | .object fields name named :: outer =>
      ⟨.afterField, .object ((name, value) :: fields) name named :: outer, .null⟩

/-- End the innermost container. -/
def close? (frames : List Frame) : Option Assembly :=
  match frames with
  | [] => none
  | frame :: outer =>
      let value :=
        match frame with
        | .list items => .list items.reverse
        | .object fields _ true => .object fields.reverse
        | .object _ _ false => .unreadable
      some (place outer (if depthLimit < frames.length then .unreadable else value))

/-- The name of the next field. -/
def setName? (frames : List Frame) (name : Option String) :
    Option Assembly :=
  match frames with
  | .object fields _ named :: outer =>
      some ⟨.colon,
        .object fields (name.getD "") (named && name.isSome) :: outer, .null⟩
  | _ => none

/-- A token where a value may stand. -/
def startValue? (frames : List Frame) : Token → Option Assembly
  | .leaf value => some (place frames value)
  | .string (some content) => some (place frames (.text content))
  | .string none => some (place frames .unreadable)
  | .openList => some ⟨.firstItem, .list [] :: frames, .null⟩
  | .openObject => some ⟨.firstName, .object [] "" true :: frames, .null⟩
  | _ => none

/-- Take one token. -/
def push? (assembly : Assembly) (token : Token) : Option Assembly :=
  let frames := assembly.frames
  match assembly.expects, token with
  | .firstItem, .closeList => close? frames
  | .afterItem, .closeList => close? frames
  | .afterItem, .comma => some ⟨.value, frames, .null⟩
  | .firstName, .closeObject => close? frames
  | .afterField, .closeObject => close? frames
  | .afterField, .comma => some ⟨.name, frames, .null⟩
  | .firstName, .string name => setName? frames name
  | .name, .string name => setName? frames name
  | .colon, .colon => some ⟨.value, frames, .null⟩
  | .value, _ => startValue? frames token
  | .firstItem, _ => startValue? frames token
  | _, _ => none

/-- The document, if nothing is missing. -/
def finish? (assembly : Assembly) : Option Json :=
  if assembly.expects = .nothing then some assembly.document else none

end Assembly

/-- The document that a text writes. -/
def parse? (text : String) : Option Json :=
  (tokens? text).bind fun tokens =>
    (tokens.foldlM Assembly.push? Assembly.start).bind Assembly.finish?

end Json

end BatchBayes
