import Mathlib
import BatchBayes.Proofs.Seeding.Inside
/-!
Seeders that answer from one sequence. Each request gets the next terms, so that the
answers do not depend on how the points are asked for: the low-discrepancy sequence is
such a sequence, and so is a grid over and over again.
-/

namespace BatchBayes

/-! ## Grids -/

namespace Seeder

section Axes

variable {K : Type} [Scalar K]

theorem mem_changesFrom {last value : Value K} {values : List (Value K)}
    (member : value ∈ changesFrom last values) : value ∈ values := by
  induction values generalizing last with
  | nil => exact member
  | cons next values inductionHypothesis =>
      rw [changesFrom] at member
      split at member
      · exact List.mem_cons_of_mem next (inductionHypothesis member)
      · rcases List.mem_cons.1 member with rfl | later
        · exact List.mem_cons_self
        · exact List.mem_cons_of_mem next (inductionHypothesis later)

theorem mem_dropRepeats {value : Value K} {values : List (Value K)}
    (member : value ∈ dropRepeats values) : value ∈ values := by
  cases values with
  | nil => exact member
  | cons first rest =>
      rcases List.mem_cons.1 member with rfl | later
      · exact List.mem_cons_self
      · exact List.mem_cons_of_mem first (mem_changesFrom later)

theorem contains_integersBetween {low high : Int64} {value : Value K}
    (member : value ∈ integersBetween low high) :
    (Range.integer low high : Range K).contains value = true := by
  obtain ⟨offset, inRange, rfl⟩ := List.mem_map.1 member
  have bound := List.mem_range.1 inRange
  have above := low.le_toInt
  have below := high.toInt_lt
  simp only [Range.contains, Bool.and_eq_true, decide_eq_true_eq]
  rw [Int64.le_iff_toInt_le, Int64.le_iff_toInt_le,
    Int64.toInt_ofInt_of_le (by omega) (by omega)]
  omega

end Axes

theorem contains_axis {range : Range ℝ} (sound : range.defect? = none) {steps : Nat}
    {value : Value ℝ} (member : value ∈ axis steps range) :
    range.contains value = true := by
  have spaced : value ∈ spacedValues steps range → range.contains value = true := by
    intro inValues
    obtain ⟨index, _, rfl⟩ := List.mem_map.1 (mem_dropRepeats inValues)
    exact Range.contains_valueAt sound _
  cases range with
  | linear low high => exact spaced member
  | logarithmic low high => exact spaced member
  | integer low high =>
      rw [axis] at member
      split at member
      · exact contains_integersBetween member
      · exact spaced member
  | choice labels =>
      obtain ⟨label, inLabels, rfl⟩ := List.mem_map.1 member
      exact List.any_eq_true.2 ⟨label, inLabels, Json.beq_self label⟩

theorem axis_ne_nil {range : Range ℝ} (sound : range.defect? = none) {steps : Nat}
    (positive : 0 < steps) : axis steps range ≠ [] := by
  obtain ⟨count, rfl⟩ := Nat.exists_eq_add_of_lt positive
  have spaced : spacedValues (0 + count + 1) range ≠ [] := by
    rw [spacedValues, List.range_succ_eq_map, List.map_cons, dropRepeats]
    exact List.cons_ne_nil _ _
  rw [Range.defect?_eq_none_iff] at sound
  cases range with
  | linear low high => exact spaced
  | logarithmic low high => exact spaced
  | integer low high =>
      have order : low.toInt ≤ high.toInt := Int64.le_iff_toInt_le.1 sound
      rw [axis]
      split
      · rw [integersBetween, Ne, List.map_eq_nil_iff, List.range_eq_nil]
        omega
      · exact spaced
  | choice labels =>
      rw [axis, Ne, List.map_eq_nil_iff]
      exact sound

theorem mem_foldl_axes {K : Type} [Scalar K] {steps : Nat}
    {parameters : List (Parameter K)} {points : List (Assignment K)}
    {point : Assignment K} :
    point ∈
        parameters.foldl
          (fun points parameter =>
            points.flatMap fun point =>
              (axis steps parameter.range).map (point.insert parameter.name ·))
          points ↔
      ∃ start ∈ points, ∃ values,
        List.Forall₂ (fun parameter value => value ∈ axis steps parameter.range)
            parameters values ∧
          point =
            start.insertAll
              ((parameters.zip values).map fun entry => (entry.1.name, entry.2)) := by
  -- The points so far are the starts that the remaining axes go on from.
  induction parameters generalizing points with
  | nil =>
      constructor
      · intro member
        exact ⟨point, member, [], .nil, rfl⟩
      · rintro ⟨start, member, values, pairs, rfl⟩
        cases pairs
        exact member
  | cons parameter parameters inductionHypothesis =>
      rw [List.foldl_cons, inductionHypothesis]
      constructor
      · rintro ⟨next, inNext, values, pairs, rfl⟩
        obtain ⟨start, member, inAxis⟩ := List.mem_flatMap.1 inNext
        obtain ⟨value, onAxis, rfl⟩ := List.mem_map.1 inAxis
        exact ⟨start, member, value :: values, .cons onAxis pairs, rfl⟩
      · rintro ⟨start, member, values, pairs, rfl⟩
        cases pairs with
        | @cons _ value _ values onAxis pairs =>
            refine ⟨start.insert parameter.name value, ?_, values, pairs, rfl⟩
            exact List.mem_flatMap.2 ⟨start, member, List.mem_map_of_mem onAxis⟩

theorem gridPoints_spec {space : Space ℝ} (sound : space.defect? = none)
    (coherent : space.Coherent) (steps : Nat) :
    gridPoints space steps ≠ [] ∧
      ∀ point ∈ gridPoints space steps, space.contains point = true := by
  have ranges := Space.defect?_eq_none sound
  constructor
  · -- The first value of each axis makes a point.
    obtain ⟨values, pairs⟩ : ∃ values,
        List.Forall₂
          (fun parameter value => value ∈ axis (max steps 2) parameter.range)
          space.parameters values := by
      refine ⟨space.parameters.map fun parameter =>
        (axis (max steps 2) parameter.range).headD (.label .null), ?_⟩
      rw [List.forall₂_map_right_iff, List.forall₂_same]
      intro parameter member
      have nonempty :=
        axis_ne_nil (ranges parameter member) (by omega : 0 < max steps 2)
      obtain ⟨first, rest, values⟩ := List.exists_cons_of_ne_nil nonempty
      rw [values]
      exact List.mem_cons_self
    exact List.ne_nil_of_mem
      (mem_foldl_axes.2 ⟨.empty, List.mem_singleton_self _, values, pairs, rfl⟩)
  · intro point member
    obtain ⟨start, inStart, values, pairs, rfl⟩ := mem_foldl_axes.1 member
    obtain rfl := List.mem_singleton.1 inStart
    refine Space.contains_assignmentOf coherent ?_
    have known := (List.forall₂_and_left _ _).2 ⟨ranges, pairs⟩
    exact known.imp fun parameter value ⟨rangeSound, onAxis⟩ =>
      contains_axis rangeSound onAxis

/-! ## Streams -/

/-- Every request is answered with the next terms of a sequence. -/
def Streams {K : Type} (seeder : Seeder K) (sequence : Nat → Assignment K) : Prop :=
  ∀ earlier request,
    seeder.answer earlier request =
      (List.range' (pointsAsked earlier) request.count).map sequence

section Streams

variable {K : Type} [Scalar K]

/-- The middle of the space, and then the points of the low-discrepancy sequence from
the number one on, moved round by the draws of a key. -/
def quasiRandomPoint (space : Space K) (key : Key) : Nat → Assignment K
  | 0 => space.pointAt (List.replicate space.parameters.length 0.5)
  | index + 1 =>
      let shift :=
        (Generator.times Generator.unit space.parameters.length key.generator).1
      space.pointAt
        ((List.zipIdx shift).map fun (move, dimension) =>
          Scalar.fractional
            (radicalInverse (nthPrime dimension) (index + 1) + move))

theorem quasiRandom_streams (space : Space K) (key : Key) :
    (quasiRandom space key).Streams (quasiRandomPoint space key) := by
  intro earlier request
  rw [quasiRandom]
  refine List.map_congr_left fun index _ => ?_
  cases index with
  | zero =>
      rw [shiftedPoint, if_pos rfl, List.map_const', Generator.length_times,
        quasiRandomPoint]
  | succ index => rfl

/-- The points of a grid, and again from the first one on. -/
def gridPoint (space : Space K) (steps index : Nat) : Assignment K :=
  (gridPoints space steps).getD (index % (gridPoints space steps).length) .empty

theorem grid_streams {space : Space K} {steps : Nat}
    (nonempty : gridPoints space steps ≠ []) :
    (grid space steps).Streams (gridPoint space steps) := by
  intro earlier request
  have positive : 0 < (gridPoints space steps).length :=
    List.length_pos_iff.2 nonempty
  rw [grid, cycling]
  dsimp only
  rw [← List.filterMap_eq_map]
  refine List.filterMap_congr fun index _ => ?_
  have below := Nat.mod_lt index positive
  rw [List.size_toArray, List.getElem?_toArray, List.getElem?_eq_getElem below,
    Function.comp_apply, gridPoint, List.getD_eq_getElem _ _ below]

end Streams

theorem grid_serves {space : Space ℝ} (sound : space.defect? = none)
    (coherent : space.Coherent) (steps : Nat) :
    (grid space steps).Serves space := by
  obtain ⟨nonempty, inside⟩ := gridPoints_spec sound coherent steps
  intro earlier request
  rw [grid_streams nonempty earlier request]
  constructor
  · rw [List.length_map, List.length_range']
  · intro point member
    obtain ⟨index, _, rfl⟩ := List.mem_map.1 member
    have below :=
      Nat.mod_lt index (List.length_pos_iff.2 nonempty)
    rw [gridPoint, List.getD_eq_getElem _ _ below]
    exact inside _ (List.getElem_mem below)

end Seeder

end BatchBayes
