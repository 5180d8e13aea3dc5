import Mathlib
import BatchBayes.Json.Record
import BatchBayes.Proofs.Json.Lexing
/-!
Documents of which some fields are left out. A record reads the fields that are left as
before and finds the others missing.
-/

namespace BatchBayes

namespace Json

/-! ## Leaving out fields -/

/-- The document without the fields of these names. -/
def deleteFields (names : List String) : Json → Json
  | .object fields => .object (fields.filter fun field => field.1 ∉ names)
  | document => document

/-- The document with its field `name` changed. -/
def mapField (name : String) (change : Json → Json) : Json → Json
  | .object fields =>
      .object (fields.map fun field =>
        if field.1 = name then (field.1, change field.2) else field)
  | document => document

theorem legible_deleteFields (names : List String) {room : Nat} {document : Json}
    (legible : document.Legible room) : (document.deleteFields names).Legible room := by
  cases document with
  | object fields =>
      cases legible with
      | object each =>
          exact .object fun field member => each field (List.mem_of_mem_filter member)
  | _ => exact legible

theorem legible_mapField {name : String} {change : Json → Json}
    (keeps : ∀ room value, Legible room value → (change value).Legible room)
    {room : Nat} {document : Json} (legible : document.Legible room) :
    (document.mapField name change).Legible room := by
  cases document with
  | object fields =>
      cases legible with
      | object each =>
          refine .object fun changed member => ?_
          obtain ⟨field, inside, rfl⟩ := List.mem_map.1 member
          split
          · exact keeps _ _ (each field inside)
          · exact each field inside
  | _ => exact legible

/-! ## Reading what is left -/

section Records

variable {fields : List (String × Json)}

theorem filter_name_of_mem (distinct : (fields.map Prod.fst).Nodup)
    {field : String × Json} (member : field ∈ fields) :
    fields.filter (fun other => other.1 == field.1) = [field] := by
  induction fields with
  | nil => cases member
  | cons first fields inductionHypothesis =>
      rw [List.map_cons, List.nodup_cons] at distinct
      rcases List.mem_cons.1 member with rfl | later
      · have others : fields.filter (fun other => other.1 == field.1) = [] := by
          refine List.filter_eq_nil_iff.2 fun other inside same => distinct.1 ?_
          rw [← beq_iff_eq.1 same]
          exact List.mem_map_of_mem inside
        rw [List.filter_cons_of_pos (by simp), others]
      · have apart : first.1 ≠ field.1 := by
          intro same
          rw [same] at distinct
          exact distinct.1 (List.mem_map_of_mem later)
        rw [List.filter_cons_of_neg (by simp [apart])]
        exact inductionHypothesis distinct.2 later

theorem field?_deleteFields (distinct : (fields.map Prod.fst).Nodup)
    {field : String × Json} (member : field ∈ fields) (dropped : List String) :
    field? field.1 (fields.filter fun other => other.1 ∉ dropped) =
      some (if field.1 ∈ dropped then none else some field.2) := by
  rw [field?, List.filter_comm, filter_name_of_mem distinct member]
  by_cases out : field.1 ∈ dropped
  · simp [out]
  · simp [out]

/-- A record reads each of its fields, or finds it missing. -/
theorem record?_deleteFields (fields : List (String × Json))
    (distinct : (fields.map Prod.fst).Nodup) (lenient : Bool) (dropped : List String) :
    record? (fields.map Prod.fst) lenient (deleteFields dropped (.object fields)) =
      some (fields.map fun field =>
        if field.1 ∈ dropped then none else some field.2) := by
  have each : ∀ part : List (String × Json), (∀ field ∈ part, field ∈ fields) →
      (part.map Prod.fst).mapM
          (field? · (fields.filter fun other => other.1 ∉ dropped)) =
        some (part.map fun field =>
          if field.1 ∈ dropped then none else some field.2) := by
    intro part inside
    induction part with
    | nil => rfl
    | cons field part inductionHypothesis =>
        have first := field?_deleteFields distinct (inside field List.mem_cons_self)
          dropped
        have rest := inductionHypothesis fun other member =>
          inside other (List.mem_cons_of_mem _ member)
        rw [List.map_cons, List.mapM_cons, first, rest]
        rfl
  exact each fields fun _ => id

theorem orElse?_of_read {α : Type} {read : Json → Option α} {document : Json}
    {value : α} (back : read document = some value) (standard : α) (missing : Prop)
    [Decidable missing] :
    orElse? standard read (if missing then none else some document) =
      some (if missing then standard else value) := by
  split
  · rfl
  · exact back

end Records

end Json

end BatchBayes
