import BatchBayes.Table
import Mathlib.Data.List.Forall2
/-!
Tables side by side: the same keys, and under each key two items that are related. Such
tables answer alike, and stay related where related items are stored.
-/

namespace BatchBayes

namespace Table

variable {Key Item Other : Type} [Ord Key]

/-- Two tables with the same keys, whose items are related key by key. -/
def Matching (related : Item → Other → Prop) (first : Table Key Item)
    (second : Table Key Other) : Prop :=
  List.Forall₂ (fun entry other => other.1 = entry.1 ∧ related entry.2 other.2)
    first.entries second.entries

variable {related : Item → Other → Prop} {first : Table Key Item}
  {second : Table Key Other}

theorem Matching.items (pairs : Matching related first second) :
    List.Forall₂ related first.items second.items := by
  rw [Table.items, Table.items, List.forall₂_map_left_iff, List.forall₂_map_right_iff]
  exact pairs.imp fun _ _ same => same.2

theorem Matching.size (pairs : Matching related first second) :
    second.size = first.size :=
  pairs.length_eq.symm

theorem Matching.find? (pairs : Matching related first second) (key : Key) :
    Option.Rel related (first.find? key) (second.find? key) := by
  rw [Matching] at pairs
  rw [Table.find?, Table.find?]
  generalize first.entries = entries, second.entries = others at pairs ⊢
  induction pairs with
  | nil => exact .none
  | @cons entry other entries others same _ inductionHypothesis =>
      rw [List.find?_cons, List.find?_cons, same.1]
      cases compare entry.1 key == .eq with
      | true => exact .some same.2
      | false => exact inductionHypothesis

theorem Matching.contains (pairs : Matching related first second) (key : Key) :
    second.contains key = first.contains key := by
  have found := pairs.find? key
  rw [Table.contains, Table.contains]
  generalize first.find? key = item, second.find? key = other at found ⊢
  cases found with
  | some => rfl
  | none => rfl

variable [Std.TransOrd Key] [Std.LawfulEqOrd Key]

theorem Matching.insert (pairs : Matching related first second) (key : Key)
    {item : Item} {other : Other} (same : related item other) :
    Matching related (first.insert key item) (second.insert key other) := by
  rw [Matching] at pairs ⊢
  rw [Table.insert, Table.insert]
  dsimp only
  generalize first.entries = entries, second.entries = others at pairs ⊢
  induction pairs with
  | nil => exact .cons ⟨rfl, same⟩ .nil
  | @cons entry next entries others head rest inductionHypothesis =>
      obtain ⟨entryKey, entryItem⟩ := entry
      obtain ⟨nextKey, nextItem⟩ := next
      obtain ⟨rfl, items⟩ := head
      rw [insertEntry, insertEntry]
      cases compare key nextKey with
      | lt => exact .cons ⟨rfl, same⟩ (.cons ⟨rfl, items⟩ rest)
      | eq => exact .cons ⟨rfl, same⟩ rest
      | gt => exact .cons ⟨rfl, items⟩ inductionHypothesis

end Table

end BatchBayes
