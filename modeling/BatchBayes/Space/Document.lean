import BatchBayes.Double
import BatchBayes.Json.Record
import BatchBayes.Space.Basic
/-!
Spaces and assignments as JSON documents.
-/

namespace BatchBayes

/-! ## Values -/

namespace Value

/-- Every number is a real value; anything else is a label. -/
def ofJson? (document : Json) : Option (Value Float) :=
  match document.float? with
  | some number => some (.real number)
  | none => document.value?.map .label

def toJson : Value Float → Json
  | real number => .real number
  | integer number => .integer number.toInt
  | label value => value

end Value

namespace Assignment

def ofJson? : Json → Option (Assignment Float) :=
  Json.table? Value.ofJson?

def toJson (assignment : Assignment Float) : Json :=
  .object (assignment.entries.map fun (name, value) => (name, value.toJson))

end Assignment

/-! ## Spaces -/

namespace Range

/-- The two ends of an interval. -/
def ends? {α : Type} (read : Json → Option α) (document : Json) :
    Option (α × α) :=
  match document.record? ["low", "high"] false with
  | some [low, high] => do
      some (← Json.required? read low, ← Json.required? read high)
  | _ => none

def labels? (document : Json) : Option (List Json) :=
  match document.record? ["values"] false with
  | some [labels] => Json.required? (Json.list? Json.value?) labels
  | _ => none

def ofJson? (document : Json) : Option (Range Float) :=
  match document.variant? with
  | some ("FloatRange", content) =>
      (ends? Json.float? content).map fun (low, high) => .linear low high
  | some ("IntRange", content) =>
      (ends? Json.int64? content).map fun (low, high) => .integer low high
  | some ("LogUniform", content) =>
      (ends? Json.float? content).map fun (low, high) => .logarithmic low high
  | some ("Choice", content) => (labels? content).map .choice
  | _ => none

def intervalJson (name : String) (low high : Json) : Json :=
  .object [(name, .object [("low", low), ("high", high)])]

def toJson : Range Float → Json
  | linear low high => intervalJson "FloatRange" (.real low) (.real high)
  | integer low high =>
      intervalJson "IntRange" (.integer low.toInt) (.integer high.toInt)
  | logarithmic low high => intervalJson "LogUniform" (.real low) (.real high)
  | choice labels => .object [("Choice", .object [("values", .list labels)])]

end Range

namespace Parameter

def ofJson? (document : Json) : Option (Parameter Float) :=
  match document.record? ["name", "kind"] false with
  | some [name, kind] => do
      some ⟨← Json.required? Json.text? name, ← Json.required? Range.ofJson? kind⟩
  | _ => none

def toJson (parameter : Parameter Float) : Json :=
  .object [("name", .text parameter.name), ("kind", parameter.range.toJson)]

end Parameter

namespace Space

def ofJson? (document : Json) : Option (Space Float) :=
  match document.record? ["parameters"] false with
  | some [parameters] =>
      (Json.required? (Json.list? Parameter.ofJson?) parameters).map Space.mk
  | _ => none

def toJson (space : Space Float) : Json :=
  .object [("parameters", .list (space.parameters.map Parameter.toJson))]

end Space

end BatchBayes
