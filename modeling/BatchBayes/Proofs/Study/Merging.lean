import BatchBayes.Double
import BatchBayes.Proofs.Study.Decision
/-!
Notes that are merged. Merging stores the notes of one value over those of another,
namespace by namespace, so that it is associative and merging twice is merging once.
The record of a decision is five notes of a namespace and survives what is written
elsewhere and what it is merged into.
-/

namespace BatchBayes

namespace Annotations

/-! ## Namespaces -/

theorem ext_notes? {first second : Annotations}
    (same : ∀ space, first.notes? space = second.notes? space) : first = second := by
  obtain ⟨firstNamespaces⟩ := first
  obtain ⟨secondNamespaces⟩ := second
  exact congrArg mk (Table.ext_find? same)

@[simp]
theorem notes?_setNotes_self (annotations : Annotations) (space : String)
    (notes : Notes) : (annotations.setNotes space notes).notes? space = some notes :=
  Table.find?_insert_self _ _ _

theorem notes?_setNotes_of_ne (annotations : Annotations) {space other : String}
    (different : other ≠ space) (notes : Notes) :
    (annotations.setNotes space notes).notes? other = annotations.notes? other :=
  Table.find?_insert_of_ne _ different _

theorem notes_eq_of_notes? {first second : Annotations} {space : String}
    (same : first.notes? space = second.notes? space) :
    first.notes space = second.notes space := by
  rw [notes, notes, same]

theorem find?_eq (annotations : Annotations) (space key : String) :
    annotations.find? space key = (annotations.notes space).find? key := by
  rw [find?, notes]
  cases annotations.notes? space <;> rfl

/-! ## Merging -/

/-- Store notes over those of a namespace. -/
def mergeNotes (annotations : Annotations) (entry : String × Notes) : Annotations :=
  annotations.setNotes entry.1
    ((annotations.notes entry.1).insertAll entry.2.entries)

theorem merge_eq_foldl (annotations other : Annotations) :
    annotations.merge other = other.namespaces.entries.foldl mergeNotes annotations :=
  rfl

theorem notes?_foldl_of_not_mem {entries : List (String × Notes)} {space : String}
    (absent : space ∉ entries.map (·.1)) (annotations : Annotations) :
    (entries.foldl mergeNotes annotations).notes? space = annotations.notes? space := by
  induction entries generalizing annotations with
  | nil => rfl
  | cons entry entries inductionHypothesis =>
      rw [List.map_cons, List.mem_cons, not_or] at absent
      rw [List.foldl_cons, inductionHypothesis absent.2, mergeNotes,
        notes?_setNotes_of_ne _ absent.1]

theorem notes?_foldl_of_mem {entries : List (String × Notes)}
    (distinct : (entries.map (·.1)).Nodup) {space : String} {notes : Notes}
    (member : (space, notes) ∈ entries) (annotations : Annotations) :
    (entries.foldl mergeNotes annotations).notes? space =
      some ((annotations.notes space).insertAll notes.entries) := by
  induction entries generalizing annotations with
  | nil => cases member
  | cons entry entries inductionHypothesis =>
      rw [List.map_cons, List.nodup_cons] at distinct
      rw [List.foldl_cons]
      rcases List.mem_cons.1 member with rfl | later
      · rw [notes?_foldl_of_not_mem distinct.1, mergeNotes, notes?_setNotes_self]
      · -- The notes merged first are those of another namespace.
        have different : space ≠ entry.1 := by
          rintro rfl
          exact distinct.1 (List.mem_map_of_mem (f := (·.1)) later)
        rw [inductionHypothesis distinct.2 later, mergeNotes,
          notes_eq_of_notes? (notes?_setNotes_of_ne _ different _)]

variable (annotations : Annotations) {other : Annotations} {space : String}

theorem notes?_merge_of_none (absent : other.notes? space = none) :
    (annotations.merge other).notes? space = annotations.notes? space := by
  rw [merge_eq_foldl]
  refine notes?_foldl_of_not_mem (fun member => ?_) annotations
  obtain ⟨entry, inEntries, rfl⟩ := List.mem_map.1 member
  rw [notes?, Table.find?_of_mem_entries inEntries] at absent
  cases absent

theorem notes?_merge_of_some {notes : Notes} (present : other.notes? space = some notes) :
    (annotations.merge other).notes? space =
      some ((annotations.notes space).insertAll notes.entries) := by
  rw [merge_eq_foldl]
  exact
    notes?_foldl_of_mem other.namespaces.nodup_keys (Table.mem_entries_of_find? present)
      annotations

/-- A note is the one that was merged in, or else the old one. -/
theorem find?_merge (other : Annotations) (space key : String) :
    (annotations.merge other).find? space key =
      (other.find? space key).or (annotations.find? space key) := by
  cases present : other.notes? space with
  | none =>
      rw [find?, notes?_merge_of_none annotations present, find?, find?, present]
      rfl
  | some notes =>
      rw [find?, notes?_merge_of_some annotations present, Option.bind_some,
        Table.find?_insertAll_entries, find?_eq annotations, find?, present]
      rfl

theorem merge_assoc (first second third : Annotations) :
    (first.merge second).merge third = first.merge (second.merge third) := by
  refine ext_notes? fun space => ?_
  cases last : third.notes? space with
  | none =>
      rw [notes?_merge_of_none _ last]
      have kept := notes?_merge_of_none second last
      cases middle : second.notes? space with
      | none =>
          rw [notes?_merge_of_none _ middle, notes?_merge_of_none _ (kept.trans middle)]
      | some notes =>
          rw [notes?_merge_of_some _ middle, notes?_merge_of_some _ (kept.trans middle)]
  | some notes =>
      rw [notes?_merge_of_some _ last,
        notes?_merge_of_some _ (notes?_merge_of_some second last)]
      refine congrArg some (Table.ext_find? fun key => ?_)
      rw [Table.find?_insertAll_entries, Table.find?_insertAll_entries,
        Table.find?_insertAll_entries, Option.or_assoc, ← find?_eq, ← find?_eq,
        ← find?_eq, find?_merge]

theorem merge_self : annotations.merge annotations = annotations := by
  refine ext_notes? fun space => ?_
  cases present : annotations.notes? space with
  | none => rw [notes?_merge_of_none _ present, present]
  | some notes =>
      have own : annotations.notes space = notes := by
        rw [Annotations.notes, present, Option.getD_some]
      rw [notes?_merge_of_some _ present, own]
      refine congrArg some (Table.ext_find? fun key => ?_)
      rw [Table.find?_insertAll_entries, Option.or_self]

end Annotations

/-! ## Records -/

namespace Decision

/-- The keys of a record. -/
def keys : List String :=
  ["mean", "stddev", "stddev_from_all", "acquisition", "use_ucb"]

variable {K : Type} [DecimalText K]

def numbers (decision : Decision K) : List K :=
  [decision.mean, decision.deviation, decision.deviationFromAll, decision.acquisition]

/-- Every number of the record is read back from its text. Where texts are exact, these are
the records without a value that is no number. -/
def Legible (decision : Decision K) : Prop :=
  ∀ number ∈ decision.numbers, DecimalText.ofText? (DecimalText.text number) = some number

theorem Legible.read?_write {decision : Decision K} (legible : decision.Legible)
    (annotations : Annotations) (space : String) :
    read? (decision.write annotations space) space = some decision :=
  Decision.read?_write annotations space (legible _ (by simp [numbers]))
    (legible _ (by simp [numbers])) (legible _ (by simp [numbers]))
    (legible _ (by simp [numbers])) rfl

/-- Writing a record changes the notes of its keys only. -/
theorem find?_write_of_ne (decision : Decision K) (annotations : Annotations)
    {space other key : String} (different : ¬(other = space ∧ key ∈ keys)) :
    (decision.write annotations space).find? other key = annotations.find? other key := by
  have misses : ∀ name ∈ keys, ¬(other = space ∧ key = name) := by
    rintro name member ⟨sameSpace, rfl⟩
    exact different ⟨sameSpace, member⟩
  rw [write, Annotations.find?_insert, if_neg (misses _ (by simp [keys])),
    Annotations.find?_insert, if_neg (misses _ (by simp [keys])),
    Annotations.find?_insert, if_neg (misses _ (by simp [keys])),
    Annotations.find?_insert, if_neg (misses _ (by simp [keys])),
    Annotations.find?_insert, if_neg (misses _ (by simp [keys]))]

/-- A record is read from the notes of its keys only. -/
theorem read?_congr {first second : Annotations} {space other : String}
    (same : ∀ key ∈ keys, first.find? space key = second.find? other key) :
    (read? first space : Option (Decision K)) = read? second other := by
  simp only [read?, same "mean" (by simp [keys]), same "stddev" (by simp [keys]),
    same "stddev_from_all" (by simp [keys]), same "acquisition" (by simp [keys]),
    same "use_ucb" (by simp [keys])]

theorem read?_write_of_ne (decision : Decision K) (annotations : Annotations)
    {space other : String} (different : other ≠ space) :
    (read? (decision.write annotations space) other : Option (Decision K)) =
      read? annotations other :=
  read?_congr fun _ _ =>
    decision.find?_write_of_ne annotations fun same => different same.1

/-- The notes after some records, each written into a namespace. -/
def writeAll (annotations : Annotations) (records : List (String × Decision K)) :
    Annotations :=
  records.foldl (fun annotations record => record.2.write annotations record.1)
    annotations

theorem read?_writeAll_of_not_mem {records : List (String × Decision K)} {space : String}
    (absent : space ∉ records.map (·.1)) (annotations : Annotations) :
    (read? (writeAll annotations records) space : Option (Decision K)) =
      read? annotations space := by
  induction records generalizing annotations with
  | nil => rfl
  | cons record records inductionHypothesis =>
      rw [List.map_cons, List.mem_cons, not_or] at absent
      exact (inductionHypothesis absent.2 _).trans
        (record.2.read?_write_of_ne annotations absent.1)

theorem read?_writeAll {records : List (String × Decision K)}
    (distinct : (records.map (·.1)).Nodup) {space : String} {decision : Decision K}
    (member : (space, decision) ∈ records) (legible : decision.Legible)
    (annotations : Annotations) :
    read? (writeAll annotations records) space = some decision := by
  induction records generalizing annotations with
  | nil => cases member
  | cons record records inductionHypothesis =>
      rw [List.map_cons, List.nodup_cons] at distinct
      rcases List.mem_cons.1 member with rfl | later
      · exact (read?_writeAll_of_not_mem distinct.1 _).trans
          (legible.read?_write annotations space)
      · exact inductionHypothesis distinct.2 later _

theorem isSome_find?_of_read? {notes : Annotations} {space : String}
    {decision : Decision K} (read : read? notes space = some decision) :
    ∀ key ∈ keys, (notes.find? space key).isSome := by
  simp only [read?, Option.bind_eq_bind, Option.bind_eq_some_iff] at read
  obtain ⟨_, ⟨_, mean, _⟩, _, ⟨_, deviation, _⟩, _, ⟨_, fromAll, _⟩, _,
    ⟨_, acquisition, _⟩, _, ⟨_, upperBound, _⟩, _⟩ := read
  simp [keys, mean, deviation, fromAll, acquisition, upperBound]

/-- A record that is merged in is read afterwards, whatever was there before. -/
theorem read?_merge {notes : Annotations} {space : String} {decision : Decision K}
    (read : read? notes space = some decision) (annotations : Annotations) :
    read? (annotations.merge notes) space = some decision := by
  rw [← read]
  refine read?_congr fun key member => ?_
  rw [Annotations.find?_merge, Option.or_of_isSome (isSome_find?_of_read? read key member)]

/-- A record whose numbers are read back from their texts is read back from the notes
that it was written into, and no other note changes, so that records of different
namespaces can all be read. The same holds of notes that a record was merged into: each
of them is the one that was merged in, or else the old one. Merging is associative, and
merging again changes nothing, with namespaces that hold no notes too. -/
theorem records_survive_writing_and_merging :
    (∀ decision : Decision K,
      decision.Legible →
      ∀ (annotations earlier : Annotations) (space : String),
        read? (decision.write annotations space) space = some decision ∧
        (∀ other key,
          ¬(other = space ∧ key ∈ keys) →
          (decision.write annotations space).find? other key =
            annotations.find? other key) ∧
        read? (earlier.merge (decision.write annotations space)) space =
          some decision) ∧
    (∀ records : List (String × Decision K),
      (records.map (·.1)).Nodup →
      (∀ record ∈ records, record.2.Legible) →
      ∀ annotations earlier : Annotations,
        ∀ record ∈ records,
          read? (writeAll annotations records) record.1 = some record.2 ∧
          read? (earlier.merge (writeAll annotations records)) record.1 =
            some record.2) ∧
    (∀ (annotations other : Annotations) (space key : String),
      (annotations.merge other).find? space key =
        (other.find? space key).or (annotations.find? space key)) ∧
    (∀ first second third : Annotations,
      (first.merge second).merge third = first.merge (second.merge third)) ∧
    (∀ annotations : Annotations, annotations.merge annotations = annotations) ∧
    ∀ annotations other : Annotations,
      (annotations.merge other).merge other = annotations.merge other := by
  refine ⟨fun decision legible annotations earlier space => ?_,
    fun records distinct legible annotations earlier record member => ?_,
    Annotations.find?_merge, Annotations.merge_assoc, Annotations.merge_self,
    fun annotations other => ?_⟩
  · have read := legible.read?_write annotations space
    exact ⟨read, fun _ _ => decision.find?_write_of_ne annotations,
      read?_merge read earlier⟩
  · have read := read?_writeAll distinct member (legible record member) annotations
    exact ⟨read, read?_merge read earlier⟩
  · rw [Annotations.merge_assoc, Annotations.merge_self]

/-- A record of numbers with many digits and of an infinity. -/
def roundedDecision : Decision Float :=
  { mean := 0.1 + 0.2
    deviation := 1.0 / 3.0
    deviationFromAll := 2.0e-17
    acquisition := -(1.0 / 0.0)
    upperBound := false }

/-- Notes with a part of an earlier record and a namespace that is empty. -/
def staleNotes : Annotations :=
  ((Annotations.empty.insert "designer" "mean" "0.5").insert "designer" "use_ucb"
    "true").openSpace "other"

theorem records_survive_writing_and_merging_over_stale_notes :
    roundedDecision.Legible ∧
      (["designer", "other"] : List String).Nodup ∧
      (read? staleNotes "designer" : Option (Decision Float)) = none ∧
      read? (staleNotes.merge (roundedDecision.write staleNotes "designer")) "designer" =
        some roundedDecision ∧
      ∀ space ∈ ["designer", "other"],
        read?
            (writeAll staleNotes
              [("designer", roundedDecision), ("other", roundedDecision)])
            space =
          some roundedDecision := by
  have legible : roundedDecision.Legible := by
    unfold Legible
    decide +kernel
  have distinct : (["designer", "other"] : List String).Nodup := by decide
  obtain ⟨one, several, _⟩ := records_survive_writing_and_merging (K := Float)
  have each :=
    several [("designer", roundedDecision), ("other", roundedDecision)] distinct
      (by simp [legible]) staleNotes staleNotes
  refine ⟨legible, distinct, by decide +kernel,
    (one roundedDecision legible staleNotes staleNotes "designer").2.2,
    fun space member => ?_⟩
  rcases List.mem_pair.1 member with rfl | rfl
  · exact (each ("designer", roundedDecision) (by simp)).1
  · exact (each ("other", roundedDecision) (by simp)).1

end Decision

end BatchBayes
