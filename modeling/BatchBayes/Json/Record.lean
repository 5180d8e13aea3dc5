import BatchBayes.Json.Basic
/-!
Reading typed values out of a document. A record is an object that names its
fields or a list that gives them in order; a variant is a name, or an object
with that name as its one field.
-/

namespace BatchBayes

namespace Json

/-! ## Plain values -/

def bool? : Json → Option Bool
  | .bool value => some value
  | _ => none

def text? : Json → Option String
  | .text value => some value
  | _ => none

/-- Any number, rounded to a double. -/
def float? : Json → Option Float
  | .integer value => some (Float.ofInt value)
  | .real value => some value
  | _ => none

/-- An integer from 0 up to the largest of 64 bits. -/
def word? : Json → Option UInt64
  | .integer value =>
      if 0 ≤ value ∧ value < UInt64.size then some (UInt64.ofNat value.toNat)
      else none
  | _ => none

/-- An integer of 64 bits with sign. -/
def int64? : Json → Option Int64
  | .integer value =>
      if Int64.minValue.toInt ≤ value ∧ value ≤ Int64.maxValue.toInt then
        some (Int64.ofInt value)
      else none
  | _ => none

section Containers

variable {α : Type}

/-- Nothing for `null` and for a missing field. -/
def optional? (read : Json → Option α) : Option Json → Option (Option α)
  | none => some none
  | some .null => some none
  | some document => (read document).map some

/-- A field that must be there. -/
def required? (read : Json → Option α) (field : Option Json) : Option α :=
  field.bind read

/-- A field that stands for a given value where it is missing. -/
def orElse? (standard : α) (read : Json → Option α) : Option Json → Option α
  | none => some standard
  | some document => read document

def list? (read : Json → Option α) : Json → Option (List α)
  | .list items => items.mapM read
  | _ => none

/-- An object as a table; the last of repeated names counts. -/
def table? (read : Json → Option α) : Json → Option (Table String α)
  | .object fields =>
      (fields.mapM fun field => (read field.2).map (field.1, ·)).map Table.ofList
  | _ => none

end Containers

/-! ## Records -/

/-- The value of the field `name`, which may be written at most once. -/
def field? (name : String) (fields : List (String × Json)) :
    Option (Option Json) :=
  match fields.filter (fun field => field.1 == name) with
  | [] => some none
  | [field] => some (some field.2)
  | _ => none

/-- The items of a list, followed by missing ones up to `count`. -/
def padItems (count : Nat) (items : List Json) : List (Option Json) :=
  items.map some ++ List.replicate (count - items.length) none

/-- The fields `names` of a record, in that order. An object may hold other
fields too, which are skipped. A list has as many items as there are names, or
fewer where `lenient`. -/
def record? (names : List String) (lenient : Bool) :
    Json → Option (List (Option Json))
  | .object fields => names.mapM (field? · fields)
  | .list items =>
      if items.length = names.length ∨ (lenient ∧ items.length ≤ names.length) then
        some (padItems names.length items)
      else none
  | _ => none

/-! ## Variants -/

/-- A variant's name and what is said about it. -/
def variant? : Json → Option (String × Json)
  | .text name => some (name, .null)
  | .object [(name, content)] => some (name, content)
  | _ => none

/-- A variant without content. -/
def bareVariant? (document : Json) : Option String :=
  match document.variant? with
  | some (name, .null) => some name
  | _ => none

end Json

end BatchBayes
