import BatchBayes.Random.Generator
/-!
Draws that are made again and again. There are as many values as draws, and more draws
continue those before them, so that fewer draws give the first of the values. So do the
children of a key.
-/

namespace BatchBayes

/-! ## Children of a key -/

theorem Key.length_children (key : Key) (count : Nat) :
    (key.children count).length = count := by
  rw [Key.children, List.length_map, List.length_range]

theorem Key.children_take (key : Key) {few many : Nat} (fewer : few ≤ many) :
    (key.children many).take few = key.children few := by
  rw [Key.children, Key.children, ← List.map_take, List.take_range,
    Nat.min_eq_left fewer]

/-! ## Values of many draws -/

namespace Generator

section Times

variable {α : Type} {draw : Generator → α × Generator}

theorem times_succ (draw : Generator → α × Generator) (count : Nat)
    (generator : Generator) :
    times draw (count + 1) generator =
      ((draw generator).1 :: (times draw count (draw generator).2).1,
        (times draw count (draw generator).2).2) := rfl

theorem length_times (draw : Generator → α × Generator) (count : Nat)
    (generator : Generator) : (times draw count generator).1.length = count := by
  induction count generalizing generator with
  | zero => rfl
  | succ count inductionHypothesis =>
      rw [times_succ, List.length_cons, inductionHypothesis]

theorem exists_of_mem_times {count : Nat} {generator : Generator} {value : α}
    (member : value ∈ (times draw count generator).1) :
    ∃ before, value = (draw before).1 := by
  induction count generalizing generator with
  | zero => cases member
  | succ count inductionHypothesis =>
      rw [times_succ] at member
      rcases List.mem_cons.1 member with rfl | later
      · exact ⟨generator, rfl⟩
      · exact inductionHypothesis later

theorem times_add (draw : Generator → α × Generator) (count more : Nat)
    (generator : Generator) :
    times draw (count + more) generator =
      ((times draw count generator).1 ++
          (times draw more (times draw count generator).2).1,
        (times draw more (times draw count generator).2).2) := by
  induction count generalizing generator with
  | zero => rw [Nat.zero_add, times, List.nil_append]
  | succ count inductionHypothesis =>
      rw [Nat.add_right_comm, times_succ, inductionHypothesis, times_succ,
        List.cons_append]

end Times

section ForEach

variable {α β : Type} {draw : α → Generator → β × Generator}

theorem forEach_cons (draw : α → Generator → β × Generator) (item : α)
    (items : List α) (generator : Generator) :
    forEach draw (item :: items) generator =
      ((draw item generator).1 :: (forEach draw items (draw item generator).2).1,
        (forEach draw items (draw item generator).2).2) := rfl

theorem length_forEach (draw : α → Generator → β × Generator) (items : List α)
    (generator : Generator) :
    (forEach draw items generator).1.length = items.length := by
  induction items generalizing generator with
  | nil => rfl
  | cons item items inductionHypothesis =>
      rw [forEach_cons, List.length_cons, inductionHypothesis, List.length_cons]

theorem exists_of_mem_forEach {items : List α} {generator : Generator} {value : β}
    (member : value ∈ (forEach draw items generator).1) :
    ∃ item ∈ items, ∃ before, value = (draw item before).1 := by
  induction items generalizing generator with
  | nil => cases member
  | cons item items inductionHypothesis =>
      rw [forEach_cons] at member
      rcases List.mem_cons.1 member with rfl | later
      · exact ⟨item, List.mem_cons_self, generator, rfl⟩
      · obtain ⟨other, inItems, before, same⟩ := inductionHypothesis later
        exact ⟨other, List.mem_cons_of_mem _ inItems, before, same⟩

/-- The value at a place is drawn for the item at that place. -/
theorem exists_of_getElem?_forEach {items : List α} {generator : Generator} {index : Nat}
    {value : β} (found : (forEach draw items generator).1[index]? = some value) :
    ∃ item before, items[index]? = some item ∧ value = (draw item before).1 := by
  induction items generalizing generator index with
  | nil => cases found
  | cons item items inductionHypothesis =>
      rw [forEach_cons] at found
      cases index with
      | zero => exact ⟨item, generator, rfl, (Option.some.inj found).symm⟩
      | succ index => exact inductionHypothesis found

theorem forEach_append (draw : α → Generator → β × Generator) (items more : List α)
    (generator : Generator) :
    forEach draw (items ++ more) generator =
      ((forEach draw items generator).1 ++
          (forEach draw more (forEach draw items generator).2).1,
        (forEach draw more (forEach draw items generator).2).2) := by
  induction items generalizing generator with
  | nil => rw [List.nil_append, forEach, List.nil_append]
  | cons item items inductionHypothesis =>
      rw [List.cons_append, forEach_cons, inductionHypothesis, forEach_cons,
        List.cons_append]

end ForEach

end Generator

end BatchBayes
