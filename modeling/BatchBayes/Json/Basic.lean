import BatchBayes.Table
/-!
JSON documents as they are written and the values they stand for.
-/

namespace BatchBayes

/-- A document. An object keeps its fields in the order in which they are
written, repeated names included. Integers are the numbers written without
point and exponent that fit 64 bits, signed or unsigned; all other numbers are
doubles. A part that no value can be read from, though it may be skipped, is
`unreadable`. -/
inductive Json where
  | null
  | bool (value : Bool)
  | integer (value : Int)
  | real (value : Float)
  | text (value : String)
  | list (items : List Json)
  | object (fields : List (String × Json))
  | unreadable

namespace Json

instance : Inhabited Json := ⟨null⟩

/-! ## Equality -/

/-- Whether two doubles are equal; the two zeros are. -/
def sameReal (x y : Float) : Bool :=
  decide (x = y) || x == y

mutual

/-- Whether two values are equal. An integer never equals a double. -/
def same : Json → Json → Bool
  | .null, .null => true
  | .bool first, .bool second => first == second
  | .integer first, .integer second => first == second
  | .real first, .real second => sameReal first second
  | .text first, .text second => first == second
  | .list first, .list second => sameItems first second
  | .object first, .object second => sameFields first second
  | .unreadable, .unreadable => true
  | _, _ => false
termination_by structural first => first

def sameItems : List Json → List Json → Bool
  | [], [] => true
  | first :: firsts, second :: seconds =>
      same first second && sameItems firsts seconds
  | _, _ => false
termination_by structural firsts => firsts

def sameFields : List (String × Json) → List (String × Json) → Bool
  | [], [] => true
  | (firstName, first) :: firsts, (secondName, second) :: seconds =>
      firstName == secondName && same first second && sameFields firsts seconds
  | _, _ => false
termination_by structural firsts => firsts

end

instance : BEq Json := ⟨same⟩

/-! ## Values -/

mutual

/-- The value of a document: fields sorted by name, the last of repeated ones
kept. -/
def value? : Json → Option Json
  | .list items => (itemValues? items).map .list
  | .object fields =>
      (fieldValues? fields).map fun values => .object (Table.ofList values).entries
  | .unreadable => none
  | leaf => some leaf
termination_by structural document => document

def itemValues? : List Json → Option (List Json)
  | [] => some []
  | item :: items =>
      match value? item, itemValues? items with
      | some value, some values => some (value :: values)
      | _, _ => none
termination_by structural items => items

def fieldValues? : List (String × Json) → Option (List (String × Json))
  | [] => some []
  | (name, item) :: fields =>
      match value? item, fieldValues? fields with
      | some value, some values => some ((name, value) :: values)
      | _, _ => none
termination_by structural fields => fields

end

end Json

end BatchBayes
