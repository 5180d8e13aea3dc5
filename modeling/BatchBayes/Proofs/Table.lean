import BatchBayes.Table
import Mathlib.Data.List.Basic
import Mathlib.Data.List.Induction
import Mathlib.Data.List.Perm.Basic
/-!
What a table holds after entries are stored: the item of each key is the one that
was stored under it last. A table is given by what it holds.
-/

namespace BatchBayes

variable {Key Item : Type} [Ord Key] [Std.LawfulEqOrd Key]

theorem find?_insertEntry_self (key : Key) (item : Item)
    (entries : List (Key × Item)) :
    (insertEntry key item entries).find? (fun entry => compare entry.1 key == .eq) =
      some (key, item) := by
  induction entries with
  | nil => simp [insertEntry]
  | cons head entries inductionHypothesis =>
      obtain ⟨headKey, headItem⟩ := head
      rw [insertEntry]
      split
      case h_1 => simp
      case h_2 => simp
      case h_3 after =>
          have different : (compare headKey key == .eq) = false := by
            rw [beq_eq_false_iff_ne, Ne, Std.LawfulEqCmp.compare_eq_iff_eq]
            rintro rfl
            simp at after
          rw [List.find?_cons_of_neg (by simpa using different), inductionHypothesis]

theorem find?_insertEntry_of_ne {key other : Key} (different : other ≠ key)
    (item : Item) (entries : List (Key × Item)) :
    (insertEntry key item entries).find?
        (fun entry => compare entry.1 other == .eq) =
      entries.find? (fun entry => compare entry.1 other == .eq) := by
  have misses : (compare key other == .eq) = false := by
    simpa using fun same : key = other => different same.symm
  induction entries with
  | nil => simp [insertEntry, misses]
  | cons head entries inductionHypothesis =>
      obtain ⟨headKey, headItem⟩ := head
      rw [insertEntry]
      split
      case h_1 => rw [List.find?_cons, misses]
      case h_2 same =>
          obtain rfl := Std.LawfulEqCmp.eq_of_compare same
          rw [List.find?_cons, List.find?_cons, misses]
      case h_3 => rw [List.find?_cons, List.find?_cons, inductionHypothesis]

theorem length_insertEntry {key : Key} (item : Item) {entries : List (Key × Item)}
    (new : ∀ entry ∈ entries, entry.1 ≠ key) :
    (insertEntry key item entries).length = entries.length + 1 := by
  induction entries with
  | nil => rfl
  | cons head entries inductionHypothesis =>
      obtain ⟨headKey, headItem⟩ := head
      rw [insertEntry]
      split
      case h_1 => rfl
      case h_2 same =>
          exact absurd (Std.LawfulEqCmp.eq_of_compare same).symm
            (new _ List.mem_cons_self)
      case h_3 =>
          rw [List.length_cons, List.length_cons,
            inductionHypothesis fun entry member =>
              new entry (List.mem_cons_of_mem _ member)]

namespace Table

theorem mem_entries_of_find? {table : Table Key Item} {key : Key} {item : Item}
    (found : table.find? key = some item) : (key, item) ∈ table.entries := by
  rw [find?, Option.map_eq_some_iff] at found
  obtain ⟨entry, found, rfl⟩ := found
  have same := List.find?_some found
  rw [beq_iff_eq, Std.LawfulEqCmp.compare_eq_iff_eq] at same
  rw [← same]
  exact List.mem_of_find?_eq_some found

theorem find?_of_mem_entries {table : Table Key Item} {key : Key} {item : Item}
    (member : (key, item) ∈ table.entries) : table.find? key = some item := by
  obtain ⟨entries, sorted⟩ := table
  rw [find?]
  dsimp only at member ⊢
  induction entries with
  | nil => cases member
  | cons entry entries inductionHypothesis =>
      obtain ⟨below, later⟩ := List.pairwise_cons.1 sorted
      rcases List.mem_cons.1 member with rfl | inRest
      · simp
      · have before := below (key, item) inRest
        rw [List.find?_cons_of_neg (by simp [before])]
        exact inductionHypothesis later inRest

theorem find?_eq_some_iff {table : Table Key Item} {key : Key} {item : Item} :
    table.find? key = some item ↔ (key, item) ∈ table.entries :=
  ⟨mem_entries_of_find?, find?_of_mem_entries⟩

variable [Std.TransOrd Key]

/-- Tables that hold the same are the same. -/
theorem ext_find? {first second : Table Key Item}
    (same : ∀ key, first.find? key = second.find? key) : first = second := by
  have members : ∀ entry, entry ∈ first.entries ↔ entry ∈ second.entries := by
    rintro ⟨key, item⟩
    rw [← find?_eq_some_iff, ← find?_eq_some_iff, same]
  have nodup : ∀ table : Table Key Item, table.entries.Nodup := by
    intro table
    refine table.sorted.imp ?_
    rintro entry other below rfl
    simp at below
  have permuted : first.entries.Perm second.entries :=
    (List.perm_ext_iff_of_nodup (nodup first) (nodup second)).2 members
  have entries : first.entries = second.entries := by
    refine permuted.eq_of_pairwise ?_ first.sorted second.sorted
    intro entry other _ _ below above
    rw [Std.OrientedCmp.gt_of_lt below] at above
    cases above
  obtain ⟨firstEntries, _⟩ := first
  obtain rfl : firstEntries = second.entries := entries
  rfl

@[simp]
theorem find?_insert_self (table : Table Key Item) (key : Key) (item : Item) :
    (table.insert key item).find? key = some item := by
  rw [find?, insert, find?_insertEntry_self]
  rfl

theorem find?_insert_of_ne (table : Table Key Item) {key other : Key}
    (different : other ≠ key) (item : Item) :
    (table.insert key item).find? other = table.find? other := by
  rw [find?, find?, insert, find?_insertEntry_of_ne different]

theorem contains_insert (table : Table Key Item) (key other : Key) (item : Item) :
    (table.insert key item).contains other = true ↔
      other = key ∨ table.contains other = true := by
  rw [contains, contains]
  by_cases same : other = key
  · subst same
    simp
  · rw [find?_insert_of_ne table same]
    simp [same]

theorem size_insert {table : Table Key Item} {key : Key}
    (new : table.contains key = false) (item : Item) :
    (table.insert key item).size = table.size + 1 := by
  apply length_insertEntry
  rintro entry member rfl
  rw [contains, Option.isSome_eq_false_iff, Option.isNone_iff_eq_none, find?,
    Option.map_eq_none_iff, List.find?_eq_none] at new
  simpa using new entry member

theorem find?_insertAll_of_not_mem (table : Table Key Item)
    {entries : List (Key × Item)} {key : Key}
    (absent : key ∉ entries.map (·.1)) :
    (table.insertAll entries).find? key = table.find? key := by
  induction entries generalizing table with
  | nil => rfl
  | cons entry entries inductionHypothesis =>
      rw [List.map_cons, List.mem_cons, not_or] at absent
      rw [insertAll, List.foldl_cons]
      exact (inductionHypothesis _ absent.2).trans
        (find?_insert_of_ne table absent.1 entry.2)

/-- Of entries with different keys each one is found. -/
theorem find?_ofList_of_mem {entries : List (Key × Item)}
    (nodup : (entries.map (·.1)).Nodup) {key : Key} {item : Item}
    (member : (key, item) ∈ entries) : (ofList entries).find? key = some item := by
  rw [ofList]
  generalize (empty : Table Key Item) = table
  induction entries generalizing table with
  | nil => cases member
  | cons entry entries inductionHypothesis =>
      rw [List.map_cons, List.nodup_cons] at nodup
      rw [insertAll, List.foldl_cons]
      rcases List.mem_cons.1 member with rfl | later
      · exact (find?_insertAll_of_not_mem _ nodup.1).trans
          (find?_insert_self table key item)
      · exact inductionHypothesis nodup.2 later _

omit [Std.TransOrd Key] in
theorem nodup_keys (table : Table Key Item) : (table.entries.map (·.1)).Nodup := by
  refine List.pairwise_map.2 (table.sorted.imp fun {entry other} below same => ?_)
  rw [same] at below
  simp at below

/-- The items of a table, changed one by one. -/
theorem find?_ofList_map {Other : Type} (table : Table Key Item) (f : Item → Other)
    (key : Key) :
    (ofList (table.entries.map fun entry => (entry.1, f entry.2))).find? key =
      (table.find? key).map f := by
  have keys :
      (table.entries.map fun entry => (entry.1, f entry.2)).map (·.1) =
        table.entries.map (·.1) := by
    simp [Function.comp_def]
  cases found : table.find? key with
  | some item =>
      apply find?_ofList_of_mem
      · rw [keys]
        exact table.nodup_keys
      · exact List.mem_map_of_mem (mem_entries_of_find? found)
  | none =>
      refine find?_insertAll_of_not_mem empty ?_
      rw [keys]
      intro member
      obtain ⟨entry, inEntries, rfl⟩ := List.mem_map.1 member
      rw [find?_of_mem_entries inEntries] at found
      cases found

/-- A table is the table of its entries. -/
theorem ofList_entries (table : Table Key Item) : ofList table.entries = table := by
  refine ext_find? fun key => ?_
  have same := find?_ofList_map table id key
  simpa using same

/-- Of entries with one key the last one is found. -/
theorem find?_ofList (entries : List (Key × Item)) (key : Key) :
    (ofList entries).find? key =
      (entries.reverse.find? fun entry => compare entry.1 key == .eq).map (·.2) := by
  induction entries using List.reverseRecOn with
  | nil => rfl
  | append_singleton entries entry inductionHypothesis =>
      have last :
          ofList (entries ++ [entry]) = (ofList entries).insert entry.1 entry.2 := by
        rw [ofList, insertAll, List.foldl_append]
        rfl
      rw [last, List.reverse_append, List.reverse_singleton, List.singleton_append]
      by_cases same : entry.1 = key
      · subst same
        rw [find?_insert_self, List.find?_cons_of_pos (by simp), Option.map_some]
      · have misses : (compare entry.1 key == .eq) = false := by simpa using same
        rw [find?_insert_of_ne _ fun equal => same equal.symm, inductionHypothesis,
          List.find?_cons_of_neg (by simp [misses])]

theorem find?_insertAll (table : Table Key Item) (entries : List (Key × Item))
    (key : Key) :
    (table.insertAll entries).find? key =
      ((ofList entries).find? key).or (table.find? key) := by
  induction entries using List.reverseRecOn with
  | nil => rfl
  | append_singleton entries entry inductionHypothesis =>
      have last : ∀ start : Table Key Item,
          start.insertAll (entries ++ [entry]) =
            (start.insertAll entries).insert entry.1 entry.2 := by
        intro start
        rw [insertAll, List.foldl_append]
        rfl
      rw [ofList, last, last]
      by_cases same : key = entry.1
      · rw [same, find?_insert_self, find?_insert_self, Option.some_or]
      · rw [find?_insert_of_ne _ same, find?_insert_of_ne _ same, inductionHypothesis]
        rfl

/-- The entries of one table stored over those of another one. -/
@[simp]
theorem find?_insertAll_entries (table other : Table Key Item) (key : Key) :
    (table.insertAll other.entries).find? key =
      (other.find? key).or (table.find? key) := by
  rw [find?_insertAll, ofList_entries]

/-- A key of the entries is found, with an item of one of them. -/
theorem exists_find?_ofList {entries : List (Key × Item)} {key : Key}
    (member : key ∈ entries.map (·.1)) :
    ∃ item, (key, item) ∈ entries ∧ (ofList entries).find? key = some item := by
  rw [find?_ofList]
  cases last : entries.reverse.find? fun entry => compare entry.1 key == .eq with
  | none =>
      obtain ⟨entry, inEntries, rfl⟩ := List.mem_map.1 member
      have differs := List.find?_eq_none.1 last entry (List.mem_reverse.2 inEntries)
      simp at differs
  | some entry =>
      have same := List.find?_some last
      rw [beq_iff_eq, Std.LawfulEqCmp.compare_eq_iff_eq] at same
      rw [← same]
      exact ⟨entry.2, List.mem_reverse.1 (List.mem_of_find?_eq_some last), rfl⟩

end Table

end BatchBayes
