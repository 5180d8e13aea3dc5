import Mathlib
import BatchBayes.Proofs.Random.Draws
import BatchBayes.Proofs.Space.Inside
import BatchBayes.Seeding.Seeder
/-!
Which seeds lie in their space. At every coordinate a sound range has one of its own
values. A name that several parameters share gets the value of the last of them, so that
a point lies in the space if the last range of each name lies within the others.
-/

namespace BatchBayes

/-! ## Values by coordinate -/

namespace Range

theorem place_mem (coordinate : ℝ) :
    0 ≤ Scalar.clamp coordinate 0 1 ∧ Scalar.clamp coordinate 0 1 ≤ 1 :=
  Scalar.clamp_mem zero_le_one coordinate

theorem integer_valueAt_mem {low high : Int64} (ordered : low ≤ high) {place : ℝ}
    (nonneg : 0 ≤ place) :
    let last := high.toInt - low.toInt
    let offset := min (Scalar.floor (place * Scalar.ofInt (last + 1))) last
    low ≤ Int64.ofInt (low.toInt + offset) ∧
      Int64.ofInt (low.toInt + offset) ≤ high := by
  intro last offset
  have order : low.toInt ≤ high.toInt := Int64.le_iff_toInt_le.1 ordered
  have above := low.le_toInt
  have below := high.toInt_lt
  have floorNonneg : 0 ≤ Scalar.floor (place * Scalar.ofInt (last + 1) : ℝ) := by
    have lengthNonneg : (0 : ℝ) ≤ ((last + 1 : Int) : ℝ) := by
      exact_mod_cast (by omega : 0 ≤ last + 1)
    exact Int.floor_nonneg.2 (mul_nonneg nonneg lengthNonneg)
  have offsetNonneg : 0 ≤ offset := le_min floorNonneg (by omega)
  have offsetLe : offset ≤ last := min_le_right _ _
  rw [Int64.le_iff_toInt_le, Int64.le_iff_toInt_le,
    Int64.toInt_ofInt_of_le (by omega) (by omega)]
  omega

/-- A sound range has one of its own values at every coordinate. -/
theorem contains_valueAt {range : Range ℝ} (sound : range.defect? = none)
    (coordinate : ℝ) : range.contains (range.valueAt coordinate) = true := by
  rw [defect?_eq_none_iff] at sound
  cases range with
  | linear low high =>
      have ordered : low ≤ high := sound
      simp [valueAt, contains, Scalar.within_clamp ordered]
  | integer low high =>
      have ordered : low ≤ high := sound
      rw [valueAt, Scalar.isFinite_real, if_pos rfl]
      simpa [contains] using integer_valueAt_mem ordered (place_mem coordinate).1
  | logarithmic low high =>
      have ordered : low ≤ high := sound.1
      simp [valueAt, contains, Scalar.within_clamp ordered]
  | choice labels =>
      have nonempty : 0 < labels.length := List.length_pos_iff.2 sound
      simp only [valueAt, contains, List.any_eq_true]
      generalize (Scalar.floor (_ : ℝ)).toNat = index
      have inLabels : min index (labels.length - 1) < labels.length := by omega
      refine ⟨labels[min index (labels.length - 1)], List.getElem_mem inLabels, ?_⟩
      rw [List.getD_eq_getElem labels .null inLabels]
      exact Json.beq_self _

end Range

/-! ## Points by coordinates -/

namespace Space

/-- The range that the value of a name is taken from: the last one. -/
def rangeOf? {K : Type} (space : Space K) (name : String) : Option (Range K) :=
  (space.parameters.reverse.find? fun parameter =>
    compare parameter.name name == .eq).map (·.range)

/-- Every range of a name holds all values of the last one. -/
def Coherent {K : Type} [Scalar K] (space : Space K) : Prop :=
  ∀ parameter ∈ space.parameters, ∀ range,
    space.rangeOf? parameter.name = some range →
    ∀ value, range.contains value = true → parameter.range.contains value = true

section Names

variable {K : Type} {space : Space K}

theorem exists_rangeOf? {parameter : Parameter K}
    (member : parameter ∈ space.parameters) :
    ∃ other ∈ space.parameters,
      other.name = parameter.name ∧
        space.rangeOf? parameter.name = some other.range := by
  have found :
      (space.parameters.reverse.find? fun other =>
        compare other.name parameter.name == .eq).isSome := by
    rw [List.find?_isSome]
    exact ⟨parameter, List.mem_reverse.2 member, by simp⟩
  obtain ⟨other, last⟩ := Option.isSome_iff_exists.1 found
  have same := List.find?_some last
  rw [beq_iff_eq, Std.LawfulEqCmp.compare_eq_iff_eq] at same
  refine ⟨other, List.mem_reverse.1 (List.mem_of_find?_eq_some last), same, ?_⟩
  rw [rangeOf?, last, Option.map_some]

/-- Where the names differ, each one has its own range. -/
theorem coherent_of_nodup [Scalar K] (distinct : space.names.Nodup) :
    space.Coherent := by
  intro parameter member range found value inside
  obtain ⟨other, inSpace, name, last⟩ := exists_rangeOf? member
  rw [found] at last
  obtain rfl := Option.some.inj last
  have same : other = parameter :=
    List.inj_on_of_nodup_map distinct inSpace member name
  rw [← same]
  exact inside

end Names

/-- The assignment of values to the parameters, one after another. -/
def assignmentOf {K : Type} (space : Space K) (values : List (Value K)) :
    Assignment K :=
  Table.ofList
    ((space.parameters.zip values).map fun entry => (entry.1.name, entry.2))

/-- What an assignment holds under a name: the value of the last parameter with the
name. -/
theorem find?_assignmentOf {K : Type} {space : Space K} {values : List (Value K)}
    (length : values.length = space.parameters.length) {parameter : Parameter K}
    (member : parameter ∈ space.parameters) :
    ∃ entry ∈ space.parameters.zip values,
      space.rangeOf? parameter.name = some entry.1.range ∧
        (space.assignmentOf values).find? parameter.name = some entry.2 := by
  have parameters : (space.parameters.zip values).map (·.1) = space.parameters :=
    List.map_fst_zip length.ge
  -- Both sides look for the last entry with the name.
  obtain ⟨_, _, _, last⟩ := exists_rangeOf? member
  rw [rangeOf?, ← parameters, ← List.map_reverse, List.find?_map, Option.map_map,
    Option.map_eq_some_iff] at last
  obtain ⟨entry, found, _⟩ := last
  refine ⟨entry, List.mem_reverse.1 (List.mem_of_find?_eq_some found), ?_, ?_⟩
  · rw [rangeOf?, ← parameters, ← List.map_reverse, List.find?_map, Option.map_map,
      found]
    rfl
  · rw [assignmentOf, Table.find?_ofList, ← List.map_reverse, List.find?_map,
      Option.map_map]
    exact congrArg (Option.map fun entry : Parameter K × Value K => entry.2) found

theorem contains_assignmentOf {K : Type} [Scalar K] [DecimalText K] {space : Space K}
    (coherent : space.Coherent) {values : List (Value K)}
    (inside :
      List.Forall₂ (fun parameter value => parameter.range.contains value = true)
        space.parameters values) :
    space.contains (space.assignmentOf values) = true := by
  rw [contains_iff]
  intro parameter member
  obtain ⟨entry, inEntries, range, found⟩ :=
    find?_assignmentOf inside.length_eq.symm member
  have valueInside := List.forall₂_zip inside inEntries
  exact ⟨entry.2, found, coherent parameter member _ range _ valueInside⟩

theorem pointAt_eq_assignmentOf {K : Type} [Scalar K] (space : Space K)
    (coordinates : List K) :
    space.pointAt coordinates =
      space.assignmentOf
        (List.zipWith (fun parameter coordinate => parameter.range.valueAt coordinate)
          space.parameters coordinates) := by
  rw [pointAt, assignmentOf, List.zip, List.map_zipWith]
  generalize space.parameters = parameters
  congr 1
  induction parameters generalizing coordinates with
  | nil => rfl
  | cons parameter parameters inductionHypothesis =>
      cases coordinates with
      | nil => rfl
      | cons coordinate coordinates =>
          simp only [List.zipWith_cons_cons, inductionHypothesis coordinates]

theorem contains_pointAt {space : Space ℝ} (sound : space.defect? = none)
    (coherent : space.Coherent) {coordinates : List ℝ}
    (length : coordinates.length = space.parameters.length) :
    space.contains (space.pointAt coordinates) = true := by
  rw [pointAt_eq_assignmentOf]
  apply contains_assignmentOf coherent
  have ranges := defect?_eq_none sound
  revert length ranges
  generalize space.parameters = parameters
  intro length ranges
  induction parameters generalizing coordinates with
  | nil => exact .nil
  | cons parameter parameters inductionHypothesis =>
      cases coordinates with
      | nil => simp at length
      | cons coordinate coordinates =>
          refine .cons ?_ ?_
          · exact Range.contains_valueAt (ranges parameter List.mem_cons_self) _
          · exact inductionHypothesis (by simpa using length) fun other member =>
              ranges other (List.mem_cons_of_mem _ member)

end Space

/-! ## Seeds -/

theorem length_shiftedPoint {K : Type} [Scalar K] (shift : List K) (index : Nat) :
    (shiftedPoint shift index).length = shift.length := by
  rw [shiftedPoint]
  by_cases first : index = 0
  · rw [if_pos first, List.length_map]
  · rw [if_neg first, List.length_map, List.length_zipIdx]

namespace Seeder

/-- Every request is answered with as many points as it asks for, all of them in the
space. -/
def Serves {K : Type} [Scalar K] [DecimalText K] (seeder : Seeder K)
    (space : Space K) : Prop :=
  ∀ earlier request,
    (seeder.answer earlier request).length = request.count ∧
      ∀ point ∈ seeder.answer earlier request, space.contains point = true

theorem length_quasiRandom {K : Type} [Scalar K] (space : Space K) (key : Key)
    (earlier : List SeedRequest) (request : SeedRequest) :
    ((quasiRandom space key).answer earlier request).length = request.count := by
  rw [quasiRandom, List.length_map, List.length_range']

theorem length_random {K : Type} [Scalar K] (space : Space K)
    (earlier : List SeedRequest) (request : SeedRequest) :
    ((random space).answer earlier request).length = request.count := by
  rw [random, List.length_map, Generator.length_times]

variable {space : Space ℝ}

theorem quasiRandom_serves (sound : space.defect? = none) (coherent : space.Coherent)
    (key : Key) : (quasiRandom space key).Serves space := by
  intro earlier request
  refine ⟨length_quasiRandom space key earlier request, fun point member => ?_⟩
  rw [quasiRandom] at member
  obtain ⟨index, _, rfl⟩ := List.mem_map.1 member
  apply Space.contains_pointAt sound coherent
  rw [length_shiftedPoint, Generator.length_times]

theorem random_serves (sound : space.defect? = none) (coherent : space.Coherent) :
    (random space).Serves space := by
  intro earlier request
  refine ⟨length_random space earlier request, fun point member => ?_⟩
  rw [random] at member
  obtain ⟨coordinates, drawn, rfl⟩ := List.mem_map.1 member
  obtain ⟨before, rfl⟩ := Generator.exists_of_mem_times drawn
  apply Space.contains_pointAt sound coherent
  rw [Generator.length_times]

end Seeder

end BatchBayes
