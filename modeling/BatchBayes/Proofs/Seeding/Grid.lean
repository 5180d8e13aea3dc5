import Mathlib
import BatchBayes.Proofs.Seeding.Axis
/-!
Grids enumerate the product of their axes. The points come in lexicographic order of the
places of their values on the axes, each one once, and requests go through them over and over
again.
-/

namespace BatchBayes

/-! ## Cells -/

/-- The places in a box of some lengths, the last one changing fastest. -/
def cells : List Nat → List (List Nat)
  | [] => [[]]
  | length :: lengths =>
      (List.range length).flatMap fun place => (cells lengths).map (place :: ·)

theorem cells_cons (length : Nat) (lengths : List Nat) :
    cells (length :: lengths) =
      (List.range length).flatMap fun place => (cells lengths).map (place :: ·) :=
  rfl

theorem mem_cells_iff {lengths places : List Nat} :
    places ∈ cells lengths ↔ List.Forall₂ (· < ·) places lengths := by
  induction lengths generalizing places with
  | nil => simp [cells]
  | cons length lengths inductionHypothesis =>
      simp only [cells_cons, List.mem_flatMap, List.mem_range, List.mem_map, inductionHypothesis,
        List.forall₂_cons_right_iff]
      constructor
      · rintro ⟨place, below, rest, inside, rfl⟩
        exact ⟨place, rest, below, inside, rfl⟩
      · rintro ⟨place, rest, below, inside, rfl⟩
        exact ⟨place, below, rest, inside, rfl⟩

/-- Cells come in lexicographic order. -/
theorem pairwise_cells (lengths : List Nat) : (cells lengths).Pairwise (· < ·) := by
  induction lengths with
  | nil => exact List.pairwise_singleton _ _
  | cons length lengths inductionHypothesis =>
      rw [cells_cons, List.pairwise_flatMap]
      constructor
      · intro place _
        rw [List.pairwise_map]
        exact inductionHypothesis.imp fun smaller =>
          List.cons_lt_cons_iff.2 (.inr ⟨rfl, smaller⟩)
      · refine List.pairwise_lt_range.imp fun smaller first inFirst second inSecond => ?_
        obtain ⟨_, _, rfl⟩ := List.mem_map.1 inFirst
        obtain ⟨_, _, rfl⟩ := List.mem_map.1 inSecond
        exact List.cons_lt_cons_iff.2 (.inl smaller)

theorem length_cells (lengths : List Nat) : (cells lengths).length = lengths.prod := by
  induction lengths with
  | nil => rfl
  | cons length lengths inductionHypothesis =>
      simp [cells_cons, List.length_flatMap, inductionHypothesis]

theorem flatMap_eq_flatMap_range {α β : Type} (items : List α) (standard : α)
    (f : α → List β) :
    items.flatMap f =
      (List.range items.length).flatMap fun place => f (items.getD place standard) := by
  have places :
      (List.range items.length).map (fun place => items.getD place standard) = items := by
    refine List.ext_getElem (by simp) fun place _ bound => ?_
    simp [bound]
  conv_lhs => rw [← places, List.flatMap_map]

section Values

variable {K : Type}

/-- The values at some places on axes. -/
def valuesAt (axes : List (List (Value K))) (places : List Nat) : List (Value K) :=
  List.zipWith (fun axis place => axis.getD place (.label .null)) axes places

/-- Cells in order have a value that is different, where the values of each axis are. -/
theorem exists_differing [Scalar K] {axes : List (List (Value K))}
    (distinct : ∀ axis ∈ axes,
      axis.Pairwise fun first second => first.same second = false)
    {first second : List Nat}
    (inFirst : List.Forall₂ (· < ·) first (axes.map List.length))
    (inSecond : List.Forall₂ (· < ·) second (axes.map List.length))
    (smaller : first < second) :
    ∃ (index : Nat) (value other : Value K),
      (valuesAt axes first)[index]? = some value ∧
        (valuesAt axes second)[index]? = some other ∧ value.same other = false := by
  induction axes generalizing first second with
  | nil =>
      cases inFirst
      cases inSecond
      cases smaller
  | cons axis axes inductionHypothesis =>
      rw [List.map_cons, List.forall₂_cons_right_iff] at inFirst inSecond
      obtain ⟨place, rest, below, inside, rfl⟩ := inFirst
      obtain ⟨another, others, anotherBelow, otherInside, rfl⟩ := inSecond
      -- The first place at which the cells differ decides their order.
      rcases List.cons_lt_cons_iff.1 smaller with before | ⟨rfl, later⟩
      · have onAxis := distinct axis List.mem_cons_self
        refine ⟨0, axis[place], axis[another], ?_, ?_, ?_⟩
        · exact congrArg some (List.getD_eq_getElem _ _ below)
        · exact congrArg some (List.getD_eq_getElem _ _ anotherBelow)
        · exact List.pairwise_iff_getElem.1 onAxis place another below anotherBelow before
      · obtain ⟨index, value, other, found, otherFound, different⟩ :=
          inductionHypothesis (fun axis inAxes => distinct axis (List.mem_cons_of_mem _ inAxes))
            inside otherInside later
        exact ⟨index + 1, value, other, found, otherFound, different⟩

theorem length_valuesAt {axes : List (List (Value K))} {places : List Nat}
    (inside : List.Forall₂ (· < ·) places (axes.map List.length)) :
    (valuesAt axes places).length = axes.length := by
  rw [valuesAt, List.length_zipWith, inside.length_eq, List.length_map, min_self]

end Values

/-- Of parameters with different names each one has its own value. -/
theorem Space.find?_assignmentOf_of_nodup {K : Type} {space : Space K}
    (names : space.names.Nodup) {values : List (Value K)}
    (length : values.length = space.parameters.length) {index : Nat}
    (bound : index < space.parameters.length) {value : Value K}
    (found : values[index]? = some value) :
    (space.assignmentOf values).find? space.parameters[index].name = some value := by
  have entry : (space.parameters.zip values)[index]? = some (space.parameters[index], value) :=
    List.getElem?_zip_eq_some.2 ⟨List.getElem?_eq_getElem bound, found⟩
  refine Table.find?_ofList_of_mem ?_ (List.mem_map_of_mem (List.mem_of_getElem? entry))
  rw [Space.names, ← List.map_fst_zip length.ge, List.map_map] at names
  rwa [List.map_map]

namespace Seeder

variable {K : Type} [Scalar K]

theorem foldl_axes_eq (steps : Nat) (parameters : List (Parameter K))
    (points : List (Assignment K)) :
    parameters.foldl
        (fun points parameter =>
          points.flatMap fun point =>
            (axis steps parameter.range).map (point.insert parameter.name ·))
        points =
      points.flatMap fun start =>
        (cells (parameters.map fun parameter => (axis steps parameter.range).length)).map
          fun places =>
            start.insertAll
              ((parameters.zip
                (valuesAt (parameters.map fun parameter => axis steps parameter.range)
                  places)).map fun entry => (entry.1.name, entry.2)) := by
  -- The first axis becomes the outermost loop: its place comes first in every cell.
  induction parameters generalizing points with
  | nil => simp [cells, Table.insertAll]
  | cons parameter parameters inductionHypothesis =>
      rw [List.foldl_cons, inductionHypothesis, List.flatMap_assoc]
      refine List.flatMap_congr fun start _ => ?_
      rw [List.flatMap_map, flatMap_eq_flatMap_range _ (.label .null), List.map_cons,
        List.map_cons, cells_cons, List.map_flatMap]
      refine List.flatMap_congr fun place _ => ?_
      rw [List.map_map]
      rfl

/-- The axes of a grid. -/
def axes (space : Space K) (steps : Nat) : List (List (Value K)) :=
  space.parameters.map fun parameter => axis (max steps 2) parameter.range

theorem gridPoints_eq (space : Space K) (steps : Nat) :
    gridPoints space steps =
      (cells ((axes space steps).map List.length)).map fun places =>
        space.assignmentOf (valuesAt (axes space steps) places) := by
  rw [gridPoints, foldl_axes_eq, List.flatMap_singleton, axes, List.map_map]
  rfl

/-- Some parameter has values in two assignments that are not the same. -/
def Differ (space : Space K) (first second : Assignment K) : Prop :=
  ∃ parameter ∈ space.parameters, ∃ value other,
    first.find? parameter.name = some value ∧
      second.find? parameter.name = some other ∧ value.same other = false

/-- Cells in order are points that differ. -/
theorem differ_of_lt {space : Space K} (names : space.names.Nodup) {steps : Nat}
    (distinct : ∀ axis ∈ axes space steps,
      axis.Pairwise fun first second => first.same second = false)
    {first second : List Nat}
    (inFirst : first ∈ cells ((axes space steps).map List.length))
    (inSecond : second ∈ cells ((axes space steps).map List.length))
    (smaller : first < second) :
    Differ space (space.assignmentOf (valuesAt (axes space steps) first))
      (space.assignmentOf (valuesAt (axes space steps) second)) := by
  rw [mem_cells_iff] at inFirst inSecond
  obtain ⟨index, value, other, found, otherFound, different⟩ :=
    exists_differing distinct inFirst inSecond smaller
  have length : ∀ places,
      List.Forall₂ (· < ·) places ((axes space steps).map List.length) →
        (valuesAt (axes space steps) places).length = space.parameters.length :=
    fun _ inside => (length_valuesAt inside).trans (List.length_map _)
  have bound : index < space.parameters.length :=
    length first inFirst ▸ (List.getElem?_eq_some_iff.1 found).1
  exact ⟨space.parameters[index], List.getElem_mem bound, value, other,
    Space.find?_assignmentOf_of_nodup names (length first inFirst) bound found,
    Space.find?_assignmentOf_of_nodup names (length second inSecond) bound otherFound,
    different⟩

/-! ## Requests -/

/-- The points that some requests are answered with, one after another; the last request
comes first. -/
def handedOut (seeder : Seeder K) : List SeedRequest → List (Assignment K)
  | [] => []
  | request :: earlier => handedOut seeder earlier ++ seeder.answer earlier request

omit [Scalar K] in
theorem Streams.handedOut_eq {seeder : Seeder K} {sequence : Nat → Assignment K}
    (streams : seeder.Streams sequence) (requests : List SeedRequest) :
    handedOut seeder requests = (List.range (pointsAsked requests)).map sequence := by
  induction requests with
  | nil => rfl
  | cons request earlier inductionHypothesis =>
      have asked : pointsAsked (request :: earlier) = pointsAsked earlier + request.count :=
        Nat.add_comm _ _
      rw [handedOut, inductionHypothesis, streams earlier request, ← List.map_append, asked,
        List.range_add, ← List.range'_eq_map_range]

omit [Scalar K] in
theorem Streams.window {seeder : Seeder K} {sequence : Nat → Assignment K}
    (streams : seeder.Streams sequence) {requests : List SeedRequest} {start count : Nat}
    (bound : start + count ≤ pointsAsked requests) :
    ((handedOut seeder requests).drop start).take count =
      (List.range' start count).map sequence := by
  rw [streams.handedOut_eq, ← List.map_drop, ← List.map_take, List.take_drop, List.take_range,
    min_eq_left bound, List.range_eq_range', List.drop_range', Nat.zero_add, Nat.mul_one,
    Nat.add_sub_cancel_left]

/-- As many points in a row as a grid has are the points of the grid, turned round. -/
theorem window_eq_rotate {space : Space K} {steps : Nat} (start : Nat) :
    (List.range' start (gridPoints space steps).length).map (gridPoint space steps) =
      (gridPoints space steps).rotate start := by
  refine List.ext_getElem (by simp) fun index _ bound => ?_
  rw [List.length_rotate] at bound
  have below := Nat.mod_lt (index + start) (Nat.zero_lt_of_lt bound)
  rw [List.getElem_map, List.getElem_range', Nat.one_mul, Nat.add_comm start, gridPoint,
    List.getD_eq_getElem _ _ below, List.getElem_rotate]

/-- Requests go through the points of a grid over and over again, so that as many answers in
a row as there are points have each of the points once. -/
theorem handedOut_grid {space : Space K} {steps : Nat} (nonempty : gridPoints space steps ≠ [])
    (requests : List SeedRequest) :
    let points := gridPoints space steps
    let answers := handedOut (grid space steps) requests
    answers.length = pointsAsked requests ∧
    (∀ index < pointsAsked requests, answers[index]? = points[index % points.length]?) ∧
    ∀ start, start + points.length ≤ pointsAsked requests →
      ((answers.drop start).take points.length).Perm points := by
  have streams := grid_streams nonempty
  refine ⟨?_, fun index bound => ?_, fun start bound => ?_⟩
  · rw [streams.handedOut_eq, List.length_map, List.length_range]
  · have below := Nat.mod_lt index (List.length_pos_iff.2 nonempty)
    rw [streams.handedOut_eq, List.getElem?_map, List.getElem?_range bound,
      List.getElem?_eq_getElem below, Option.map_some, gridPoint, List.getD_eq_getElem _ _ below]
  · rw [streams.window bound, window_eq_rotate]
    exact List.rotate_perm _ _

/-! ## Products -/

/-- A grid is the product of its axes. The axis of each parameter is the one of its range: all
labels, all integers where they are fewer than the steps, and otherwise numbers that go up
from the low to the high end. The points are the combinations of values of the axes, each one
once, in lexicographic order with the last parameter changing fastest; any two of them differ
in a parameter, and all of them lie in the space. Requests, however many points each of them
asks for, go through the points over and over again, so that as many answers in a row as there
are points have each of the points once. -/
theorem grid_enumerates_product {space : Space ℝ} (sound : space.defect? = none)
    (names : space.names.Nodup)
    (labels : ∀ parameter ∈ space.parameters, ∀ choices, parameter.range = .choice choices →
      choices.Pairwise fun first second => (first == second) = false)
    (narrow : ∀ parameter ∈ space.parameters, ∀ low high,
      parameter.range = .integer low high → high.toInt - low.toInt < 2 ^ 63)
    (steps : Nat) :
    let points := gridPoints space steps
    let lengths := (axes space steps).map List.length
    grid? space steps = some (grid space steps) ∧
    (∀ parameter ∈ space.parameters,
      IsAxis (max steps 2) (axis (max steps 2) parameter.range) parameter.range) ∧
    (∃ cells : List (List Nat),
      cells.Pairwise (· < ·) ∧
      (∀ places, places ∈ cells ↔ List.Forall₂ (· < ·) places lengths) ∧
      points = cells.map fun places =>
        space.assignmentOf (valuesAt (axes space steps) places)) ∧
    points.length = lengths.prod ∧
    points.Pairwise (Differ space) ∧
    (∀ point ∈ points, space.contains point = true) ∧
    ∀ requests,
      let answers := handedOut (grid space steps) requests
      answers.length = pointsAsked requests ∧
      (∀ index < pointsAsked requests, answers[index]? = points[index % points.length]?) ∧
      ∀ start, start + points.length ≤ pointsAsked requests →
        ((answers.drop start).take points.length).Perm points := by
  have ranges := Space.defect?_eq_none sound
  have fits : ∀ parameter ∈ space.parameters, isTooWide parameter.range = false := by
    intro parameter member
    rw [Bool.eq_false_iff, Ne, isTooWide_iff (ranges parameter member)]
    rintro ⟨low, high, integers, wide⟩
    exact wide.not_gt (narrow parameter member low high integers)
  have areAxes : ∀ parameter ∈ space.parameters,
      IsAxis (max steps 2) (axis (max steps 2) parameter.range) parameter.range :=
    fun parameter member =>
      isAxis_axis (ranges parameter member) (fits parameter member) (le_max_right _ _)
  have distinct : ∀ axis ∈ axes space steps,
      axis.Pairwise fun first second => first.same second = false := by
    intro values inAxes
    obtain ⟨parameter, member, rfl⟩ := List.mem_map.1 inAxes
    exact (areAxes parameter member).pairwise (labels parameter member)
  obtain ⟨nonempty, inside⟩ := gridPoints_spec sound (Space.coherent_of_nodup names) steps
  refine ⟨?_, areAxes,
    ⟨_, pairwise_cells _, fun _ => mem_cells_iff, gridPoints_eq space steps⟩, ?_, ?_, inside,
    handedOut_grid nonempty⟩
  · rw [grid?, if_neg]
    simpa using fits
  · rw [gridPoints_eq, List.length_map, length_cells]
  · rw [gridPoints_eq, List.pairwise_map]
    exact (pairwise_cells _).imp_of_mem (differ_of_lt names distinct)

/-- Parameters of all kinds, and of the integers one with few and one with many. -/
noncomputable def trainingSpace : Space ℝ :=
  ⟨[⟨"layers", .integer 1 8⟩, ⟨"heads", .integer 1 2⟩, ⟨"dropout", .linear 0 0.5⟩,
    ⟨"rate", .logarithmic 0.1 1⟩, ⟨"optimizer", .choice [.text "adam", .text "sgd"]⟩]⟩

theorem grid_enumerates_product_of_trainingSpace :
    trainingSpace.defect? = none ∧ trainingSpace.names.Nodup ∧
      (gridPoints trainingSpace 3).Pairwise (Differ trainingSpace) ∧
      (∃ numbers : List ℝ,
        (axis 3 (.logarithmic 0.1 1) : List (Value ℝ)) = numbers.map .real ∧
          Spans numbers 0.1 1 (if (0.1 : ℝ) = 1 then 1 else 3)) ∧
      (handedOut (grid trainingSpace 3) [⟨2, ⟨0⟩⟩, ⟨5, ⟨1⟩⟩]).length = 7 := by
  have sound : trainingSpace.defect? = none := by
    norm_num [trainingSpace, Space.defect?, Range.defect?, Range.isOrdered]
    decide
  have names : trainingSpace.names.Nodup := by decide
  have labels : ∀ parameter ∈ trainingSpace.parameters, ∀ choices,
      parameter.range = .choice choices →
        choices.Pairwise fun first second => (first == second) = false := by
    simp [trainingSpace]
    decide
  have narrow : ∀ parameter ∈ trainingSpace.parameters, ∀ low high,
      parameter.range = .integer low high → high.toInt - low.toInt < 2 ^ 63 := by
    simp [trainingSpace]
  obtain ⟨_, areAxes, _, _, distinct, _, requests⟩ :=
    grid_enumerates_product sound names labels narrow 3
  exact ⟨sound, names, distinct,
    areAxes ⟨"rate", .logarithmic 0.1 1⟩ (by simp [trainingSpace]), (requests _).1⟩

end Seeder

end BatchBayes
