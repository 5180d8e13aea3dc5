import Mathlib
import BatchBayes.Json.Reader
import BatchBayes.Proofs.Space.Inside
import BatchBayes.Study.Document
/-!
Trials that are written as documents and read again. Everything but the assignment comes
back as it was. The numbers of the assignment come back as real values, whatever kind
they were of, so that integers and numeric labels change their kind and are no values of
their ranges any more.
-/

namespace BatchBayes

/-! ## Values -/

namespace Value

/-- What a document of the value is read as: every number as a real value. -/
def reread (value : Value Float) : Value Float :=
  match value.toJson.float? with
  | some number => .real number
  | none => value

/-- A value that is read as it was written. -/
def Survives : Value Float → Prop
  | real _ => True
  | integer _ => False
  | label document => document.float? = none

/-- A label is a JSON value: every field is written once and in its place. -/
def IsProper : Value Float → Prop
  | label document => document.value? = some document
  | _ => True

theorem reread_eq_self_iff (value : Value Float) :
    value.reread = value ↔ value.Survives := by
  cases value with
  | real number => exact iff_of_true rfl trivial
  | integer number =>
      refine iff_of_false ?_ id
      intro same
      cases same
  | label document =>
      rw [reread, toJson, Survives]
      cases document.float? with
      | some number => simp
      | none => simp

theorem ofJson?_toJson {value : Value Float} (proper : value.IsProper) :
    ofJson? value.toJson = some value.reread := by
  cases value with
  | real number => rfl
  | integer number => rfl
  | label document =>
      have same : document.value? = some document := proper
      rw [ofJson?, reread, toJson]
      cases document.float? with
      | some number => rfl
      | none => rw [same]; rfl

end Value

/-- The values of a range are all of one kind. -/
theorem Range.not_contains_real {range : Range Float} {value : Value Float}
    (inside : range.contains value = true) (other : ∀ number, value ≠ .real number)
    (number : Float) : range.contains (.real number) = false := by
  cases range with
  | integer low high => rfl
  | choice labels => rfl
  | linear low high | logarithmic low high =>
      cases value with
      | real number => exact absurd rfl (other number)
      | integer number => cases inside
      | label document => cases inside

/-- Of the values of a range, just those that survive are in the range again. -/
theorem Range.contains_reread_iff {range : Range Float} {value : Value Float}
    (inside : range.contains value = true) :
    range.contains value.reread = true ↔ value.Survives := by
  refine ⟨fun contained => ?_, fun survives => ?_⟩
  · cases value with
    | real number => trivial
    | integer number =>
        have outside := not_contains_real inside (by simp)
        exact absurd contained (Bool.eq_false_iff.1 (outside _))
    | label document =>
        rw [Value.reread, Value.toJson] at contained
        cases numeric : document.float? with
        | none => exact numeric
        | some number =>
            have outside := not_contains_real inside (by simp) number
            rw [numeric] at contained
            exact absurd contained (Bool.eq_false_iff.1 outside)
  · rw [(Value.reread_eq_self_iff value).2 survives]
    exact inside

/-! ## Assignments -/

namespace Assignment

variable {assignment : Assignment Float}

def reread (assignment : Assignment Float) : Assignment Float :=
  Table.ofList (assignment.entries.map fun entry => (entry.1, entry.2.reread))

theorem find?_reread (assignment : Assignment Float) (name : String) :
    assignment.reread.find? name = (assignment.find? name).map Value.reread :=
  Table.find?_ofList_map assignment Value.reread name

theorem reread_eq_self_iff (assignment : Assignment Float) :
    assignment.reread = assignment ↔
      ∀ entry ∈ assignment.entries, entry.2.Survives := by
  constructor
  · intro same entry member
    have found := Table.find?_of_mem_entries member
    have again := find?_reread assignment entry.1
    rw [same, found, Option.map_some] at again
    exact (Value.reread_eq_self_iff entry.2).1 (Option.some.inj again).symm
  · intro survive
    refine Table.ext_find? fun name => ?_
    rw [find?_reread]
    cases found : assignment.find? name with
    | none => rfl
    | some value =>
        have survives := survive _ (Table.mem_entries_of_find? found)
        rw [Option.map_some, (Value.reread_eq_self_iff value).2 survives]

end Assignment

theorem Space.contains_reread_iff {space : Space Float}
    {assignment : Assignment Float} (inside : space.contains assignment = true) :
    space.contains assignment.reread = true ↔
      ∀ parameter ∈ space.parameters, ∀ value,
        assignment.find? parameter.name = some value → value.Survives := by
  rw [contains_iff] at inside ⊢
  refine forall₂_congr fun parameter member => ?_
  obtain ⟨value, found, contained⟩ := inside parameter member
  rw [Assignment.find?_reread, found]
  constructor
  · rintro ⟨other, same, again⟩ value' same'
    obtain rfl := Option.some.inj same
    obtain rfl := Option.some.inj same'
    exact (Range.contains_reread_iff contained).1 again
  · intro survives
    exact ⟨value.reread, rfl,
      (Range.contains_reread_iff contained).2 (survives value rfl)⟩

/-! ## Tables -/

theorem Json.table?_object {α β : Type} {read : Json → Option α} {write : β → Json}
    (result : β → α) (entries : List (String × β))
    (back : ∀ entry ∈ entries, read (write entry.2) = some (result entry.2)) :
    table? read (.object (entries.map fun entry => (entry.1, write entry.2))) =
      some (Table.ofList (entries.map fun entry => (entry.1, result entry.2))) := by
  have each :
      (entries.map fun entry => (entry.1, write entry.2)).mapM
          (fun field => (read field.2).map (field.1, ·)) =
        some (entries.map fun entry => (entry.1, result entry.2)) := by
    induction entries with
    | nil => rfl
    | cons entry entries inductionHypothesis =>
        have head := back entry List.mem_cons_self
        have tail := inductionHypothesis fun other member =>
          back other (List.mem_cons_of_mem _ member)
        simp [head, tail]
  rw [table?, each]
  rfl

theorem Json.table?_of_back {α : Type} {read : Json → Option α} {write : α → Json}
    (table : Table String α)
    (back : ∀ item, read (write item) = some item) :
    table? read
        (.object (table.entries.map fun entry => (entry.1, write entry.2))) =
      some table := by
  have entries := table?_object id table.entries fun entry _ => back entry.2
  simp only [id, List.map_id'] at entries
  rw [entries, Table.ofList_entries]

theorem Assignment.ofJson?_toJson {assignment : Assignment Float}
    (proper : ∀ entry ∈ assignment.entries, entry.2.IsProper) :
    ofJson? assignment.toJson = some assignment.reread :=
  Json.table?_object Value.reread assignment.entries fun entry member =>
    Value.ofJson?_toJson (proper entry member)

theorem Measurement.ofJson?_toJson (measurement : Measurement Float) :
    ofJson? measurement.toJson = some measurement :=
  Json.table?_of_back measurement fun _ => rfl

theorem Annotations.ofJson?_toJson (annotations : Annotations) :
    ofJson? annotations.toJson = some annotations := by
  have notes : ∀ notes : Notes,
      Json.table? Json.text? notes.toJson = some notes :=
    fun notes => Json.table?_of_back notes fun _ => rfl
  have namespaces :
      Json.table? (Json.table? Json.text?) annotations.namespacesJson =
        some annotations.namespaces :=
    Json.table?_of_back annotations.namespaces notes
  have record :
      annotations.toJson.record? ["namespaces"] false =
        some [some annotations.namespacesJson] := rfl
  rw [ofJson?, record]
  dsimp only [Json.required?, Option.bind_some]
  rw [namespaces]
  rfl

/-! ## Trials -/

theorem Json.required?_some {α : Type} (read : Json → Option α) (document : Json) :
    required? read (some document) = read document := by
  rw [required?, Option.bind_some]

theorem Json.word?_integer (word : UInt64) :
    word? (.integer word.toNat) = some word := by
  have below : (word.toNat : Int) < UInt64.size := by
    exact_mod_cast word.toNat_lt
  rw [word?, if_pos ⟨Int.natCast_nonneg _, below⟩, Int.toNat_natCast,
    UInt64.ofNat_toNat]

theorem Json.optional?_ofOption {α : Type} {read : Json → Option α}
    {write : α → Json} {value : Option α}
    (present : ∀ item, write item ≠ .null)
    (back : ∀ item ∈ value, read (write item) = some item) :
    optional? read (some (ofOption write value)) = some value := by
  cases value with
  | none => rfl
  | some item =>
      have written := back item rfl
      have notNull := present item
      rw [ofOption]
      generalize write item = document at written notNull
      cases document with
      | null => exact absurd rfl notNull
      | _ => simp [optional?, written]

theorem Instant.ofJson?_text (text : String) :
    ofJson? (.text text) = ofText? text := by
  rw [ofJson?, Json.text?, Option.bind_some]

theorem Status.ofJson?_text (status : Status) :
    ofJson? (.text status.name) = some status := by
  cases status <;> rfl

namespace Trial

/-- The instants of the trial are read as they are written. -/
structure Timed (trial : Trial Float) : Prop where
  created : Instant.ofText? trial.createdAt.text = some trial.createdAt
  completed : ∀ instant ∈ trial.completedAt,
    Instant.ofText? instant.text = some instant

def reread (trial : Trial Float) : Trial Float :=
  { trial with assignment := trial.assignment.reread }

theorem reread_eq_self_iff (trial : Trial Float) :
    trial.reread = trial ↔ ∀ entry ∈ trial.assignment.entries, entry.2.Survives := by
  rw [← Assignment.reread_eq_self_iff]
  constructor
  · exact congrArg assignment
  · intro same
    rw [reread, same]

theorem record?_toJson (trial : Trial Float) :
    trial.toJson.record? fieldNames false =
      some
        [some (.integer trial.id.toNat), some trial.assignment.toJson,
          some (.text trial.status.name),
          some (Json.ofOption Measurement.toJson trial.measurement),
          some (Json.ofOption .text trial.infeasibility),
          some trial.annotations.toJson, some (.text trial.createdAt.text),
          some
            (Json.ofOption (fun instant => .text instant.text)
              trial.completedAt)] := rfl

/-- A document of a trial is read as the trial with its numbers as real values. -/
theorem ofJson?_toJson {trial : Trial Float} (timed : trial.Timed)
    (proper : ∀ entry ∈ trial.assignment.entries, entry.2.IsProper) :
    ofJson? trial.toJson = some trial.reread := by
  have measurement :
      Json.optional? Measurement.ofJson?
          (some (Json.ofOption Measurement.toJson trial.measurement)) =
        some trial.measurement :=
    Json.optional?_ofOption (fun _ => nofun) fun item _ =>
      Measurement.ofJson?_toJson item
  have infeasibility :
      Json.optional? Json.text? (some (Json.ofOption .text trial.infeasibility)) =
        some trial.infeasibility :=
    Json.optional?_ofOption (fun _ => nofun) fun _ _ => rfl
  have completedAt :
      Json.optional? Instant.ofJson?
          (some (Json.ofOption (fun instant => .text instant.text)
            trial.completedAt)) =
        some trial.completedAt :=
    Json.optional?_ofOption (fun _ => nofun) fun instant member => by
      rw [Instant.ofJson?_text, timed.completed instant member]
  have createdAt :
      Instant.ofJson? (.text trial.createdAt.text) = some trial.createdAt := by
    rw [Instant.ofJson?_text, timed.created]
  rw [ofJson?, record?_toJson]
  simp only [Json.required?_some]
  rw [Json.word?_integer, Assignment.ofJson?_toJson proper, Status.ofJson?_text,
    measurement, infeasibility, Annotations.ofJson?_toJson, createdAt, completedAt]
  rfl

/-- Where the text of a trial's document is read as that document, the trial read from
the text has all its fields back, but with the numbers of its assignment as real values.
It is the same trial just where no value is an integer or a numeric label, and a space
that the trial lies in takes it back just where none of the space's parameters has such
a value. -/
theorem numbers_come_back_real {trial : Trial Float}
    (printed : Json.parse? trial.toJson.compact = some trial.toJson)
    (timed : trial.Timed)
    (proper : ∀ entry ∈ trial.assignment.entries, entry.2.IsProper) :
    (Json.parse? trial.toJson.compact).bind ofJson? = some trial.reread ∧
      (trial.reread = trial ↔
        ∀ entry ∈ trial.assignment.entries, entry.2.Survives) ∧
      ∀ space : Space Float,
        space.contains trial.assignment = true →
        (space.contains trial.reread.assignment = true ↔
          ∀ parameter ∈ space.parameters, ∀ value,
            trial.assignment.find? parameter.name = some value →
            value.Survives) := by
  refine ⟨?_, trial.reread_eq_self_iff, fun space inside => ?_⟩
  · rw [printed, Option.bind_some, ofJson?_toJson timed proper]
  · exact Space.contains_reread_iff inside

section Layers

def layerSpace : Space Float :=
  ⟨[⟨"layers", .integer 0 8⟩, ⟨"optimizer", .choice [.text "adam", .text "sgd"]⟩]⟩

/-- A trial of the space that ended without a measurement. -/
def layerTrial : Trial Float :=
  ((start 7
    ((Table.empty.insert "layers" (.integer 3)).insert "optimizer"
      (.label (.text "sgd"))) ⟨60, 0⟩).annotate
    (Annotations.empty.insert "notes" "run" "seven")).completeInfeasible "diverged"
      ⟨1700000000, 123000000⟩

theorem timed_layerTrial : layerTrial.Timed := by
  refine ⟨by decide +kernel, fun instant member => ?_⟩
  obtain rfl := Option.some.inj member
  decide +kernel

theorem proper_layerTrial :
    ∀ entry ∈ layerTrial.assignment.entries, entry.2.IsProper := by
  have entries :
      layerTrial.assignment.entries =
        [("layers", .integer 3), ("optimizer", .label (.text "sgd"))] := rfl
  rw [entries]
  intro entry member
  rcases List.mem_pair.1 member with rfl | rfl
  · trivial
  · rfl

set_option maxRecDepth 20000 in
theorem parse?_layerTrial :
    Json.parse? layerTrial.toJson.compact = some layerTrial.toJson := by
  rfl

theorem numbers_come_back_real_of_layerTrial :
    Json.parse? layerTrial.toJson.compact = some layerTrial.toJson ∧
      layerTrial.Timed ∧
      (∀ entry ∈ layerTrial.assignment.entries, entry.2.IsProper) ∧
      (Json.parse? layerTrial.toJson.compact).bind ofJson? =
        some layerTrial.reread :=
  ⟨parse?_layerTrial, timed_layerTrial, proper_layerTrial,
    (numbers_come_back_real parse?_layerTrial timed_layerTrial
      proper_layerTrial).1⟩

/-- An integer in its range is read back as another value, outside the range. -/
theorem integer_leaves_its_range :
    layerSpace.defect? = none ∧
      layerSpace.contains layerTrial.assignment = true ∧
      ∃ back,
        (Json.parse? layerTrial.toJson.compact).bind ofJson? = some back ∧
          back ≠ layerTrial ∧ layerSpace.contains back.assignment = false := by
  have inside : layerSpace.contains layerTrial.assignment = true := by
    rfl
  refine ⟨rfl, inside, layerTrial.reread, ?_, ?_, ?_⟩
  · rw [parse?_layerTrial, Option.bind_some,
      ofJson?_toJson timed_layerTrial proper_layerTrial]
  · rw [Ne, reread_eq_self_iff]
    intro survive
    exact survive ("layers", .integer 3) List.mem_cons_self
  · rw [Bool.eq_false_iff, Ne, reread, Space.contains_reread_iff inside]
    intro survive
    exact survive ⟨"layers", .integer 0 8⟩ List.mem_cons_self (.integer 3) rfl

end Layers

end Trial

end BatchBayes
