/-!
Finite maps kept as lists in strictly increasing key order, so that two maps
with the same entries are the same value.
-/

namespace BatchBayes

variable {Key Item : Type} [Ord Key]

/-! ## Entry lists -/

/-- Put an entry at its place in a sorted entry list, replacing an entry of
the same key. -/
def insertEntry (key : Key) (item : Item) :
    List (Key × Item) → List (Key × Item)
  | [] => [(key, item)]
  | (head, value) :: rest =>
      match compare key head with
      | .lt => (key, item) :: (head, value) :: rest
      | .eq => (key, item) :: rest
      | .gt => (head, value) :: insertEntry key item rest

/-- The keys strictly increase. -/
def EntriesSorted (entries : List (Key × Item)) : Prop :=
  entries.Pairwise (fun first second => compare first.1 second.1 = .lt)

theorem mem_insertEntry {key : Key} {item : Item}
    {entry : Key × Item} {entries : List (Key × Item)}
    (member : entry ∈ insertEntry key item entries) :
    entry = (key, item) ∨ entry ∈ entries := by
  induction entries with
  | nil => exact Or.inl (by simpa [insertEntry] using member)
  | cons head rest inductionHypothesis =>
      obtain ⟨headKey, headItem⟩ := head
      rw [insertEntry] at member
      split at member
      · exact (List.mem_cons.1 member).imp_right id
      · rcases List.mem_cons.1 member with same | inRest
        · exact Or.inl same
        · exact Or.inr (List.mem_cons_of_mem _ inRest)
      · rcases List.mem_cons.1 member with same | inRest
        · exact Or.inr (by simp [same])
        · exact (inductionHypothesis inRest).imp_right
            (List.mem_cons_of_mem _)

theorem EntriesSorted.insertEntry [Std.TransOrd Key] [Std.LawfulEqOrd Key]
    (key : Key) (item : Item) {entries : List (Key × Item)}
    (sorted : EntriesSorted entries) :
    EntriesSorted (insertEntry key item entries) := by
  induction entries with
  | nil => simp [EntriesSorted, BatchBayes.insertEntry]
  | cons head rest inductionHypothesis =>
      obtain ⟨headKey, headItem⟩ := head
      obtain ⟨below, restSorted⟩ := List.pairwise_cons.1 sorted
      rw [BatchBayes.insertEntry]
      split
      case h_1 before =>
        refine List.pairwise_cons.2 ⟨fun entry member => ?_, sorted⟩
        rcases List.mem_cons.1 member with same | inRest
        · simpa [same] using before
        · exact Std.TransCmp.lt_trans before (below entry inRest)
      case h_2 same =>
        refine List.pairwise_cons.2 ⟨fun entry member => ?_, restSorted⟩
        have keyEq : key = headKey := Std.LawfulEqCmp.eq_of_compare same
        simpa [keyEq] using below entry member
      case h_3 after =>
        refine List.pairwise_cons.2
          ⟨fun entry member => ?_, inductionHypothesis restSorted⟩
        rcases mem_insertEntry member with same | inRest
        · simpa [same] using Std.OrientedCmp.lt_of_gt after
        · exact below entry inRest

/-! ## Tables -/

/-- A finite map from `Key` to `Item`. -/
structure Table (Key Item : Type) [Ord Key] where
  entries : List (Key × Item)
  sorted : EntriesSorted entries

namespace Table

/-- The map without entries. -/
def empty : Table Key Item := ⟨[], List.Pairwise.nil⟩

instance : Inhabited (Table Key Item) := ⟨empty⟩

/-- The item stored under `key`. -/
def find? (table : Table Key Item) (key : Key) : Option Item :=
  (table.entries.find? (fun entry => compare entry.1 key == .eq)).map (·.2)

/-- Whether an item is stored under `key`. -/
def contains (table : Table Key Item) (key : Key) : Bool :=
  (table.find? key).isSome

/-- The number of entries. -/
def size (table : Table Key Item) : Nat :=
  table.entries.length

/-- The items in key order. -/
def items (table : Table Key Item) : List Item :=
  table.entries.map (·.2)

section Insert

variable [Std.TransOrd Key] [Std.LawfulEqOrd Key]

/-- Store `item` under `key`, in place of what was there. -/
def insert (table : Table Key Item) (key : Key) (item : Item) :
    Table Key Item :=
  ⟨insertEntry key item table.entries, table.sorted.insertEntry key item⟩

/-- Store the entries one after another; of two with one key the later stays. -/
def insertAll (table : Table Key Item) (entries : List (Key × Item)) :
    Table Key Item :=
  entries.foldl (fun table entry => table.insert entry.1 entry.2) table

/-- The table of an entry list; of two entries with one key the later stays. -/
def ofList (entries : List (Key × Item)) : Table Key Item :=
  empty.insertAll entries

end Insert

end Table

end BatchBayes
