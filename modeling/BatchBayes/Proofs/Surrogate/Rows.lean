import BatchBayes.Surrogate.Observations
import Mathlib.Data.List.Basic
/-!
Observations as rows: what dropping filler, adding points and padding do to the
rows of a data set.
-/

namespace BatchBayes

namespace Observations

variable {K : Type} {data : Observations K}

/-- The columns are of one length and every feature vector has the dimension of
the data. -/
structure Regular (data : Observations K) : Prop where
  labels_length : data.labels.length = data.features.length
  mask_length : data.mask.length = data.features.length
  row_length : ∀ point ∈ data.features, point.length = data.dimension

/-- The columns are of one length and filler has the dimension of the data;
observed points may have any length. -/
structure RegularFiller (data : Observations K) : Prop where
  features_eq : data.rows.map (·.features) = data.features
  mask_eq : data.rows.map (·.valid) = data.mask
  filler_length :
    ∀ row ∈ data.rows, row.valid = false → row.features.length = data.dimension

/-- Every row was observed, at a point of the dimension of the data. -/
structure Complete (data : Observations K) : Prop where
  valid : ∀ row ∈ data.rows, row.valid = true
  row_length : ∀ row ∈ data.rows, row.features.length = data.dimension

section Columns

theorem rows_of_columns (data : Observations K)
    (labels : data.labels.length = data.features.length)
    (mask : data.mask.length = data.features.length) :
    data.rows.map (·.features) = data.features ∧
      data.rows.map (·.label) = data.labels ∧
        data.rows.map (·.valid) = data.mask := by
  refine ⟨?_, ?_, ?_⟩
  · refine List.ext_getElem (by simp [rows, labels, mask]) fun index _ _ => ?_
    simp [rows]
  · refine List.ext_getElem (by simp [rows, labels, mask]) fun index _ _ => ?_
    simp [rows]
  · refine List.ext_getElem (by simp [rows, labels, mask]) fun index _ _ => ?_
    simp [rows]

theorem features_mem_of_mem_rows {row : Observation K} (member : row ∈ data.rows) :
    row.features ∈ data.features := by
  obtain ⟨index, bound, rfl⟩ := List.mem_iff_getElem.1 member
  simp [rows]

/-- Data made from points of one dimension has rows of that dimension. -/
theorem row_length_ofPoints {points : List (List K)} {dimension : Nat}
    (lengths : ∀ point ∈ points, point.length = dimension) (labels : List K) :
    ∀ row ∈ (ofPoints points labels dimension).validRows,
      row.features.length = dimension := by
  intro row member
  exact lengths _ (features_mem_of_mem_rows (List.mem_filter.1 member).1)

theorem Regular.regularFiller (regular : data.Regular) : data.RegularFiller := by
  obtain ⟨features, _, valid⟩ :=
    rows_of_columns data regular.labels_length regular.mask_length
  refine ⟨features, valid, fun row member _ => regular.row_length _ ?_⟩
  rw [← features]
  exact List.mem_map_of_mem member

/-- Observed rows are their features and labels. -/
theorem rows_ofPoints_map (observed : List (Observation K))
    (valid : ∀ row ∈ observed, row.valid = true) (dimension : Nat) :
    (ofPoints (observed.map (·.features)) (observed.map (·.label))
      dimension).rows = observed := by
  refine List.ext_getElem (by simp [rows, ofPoints]) fun index bound other => ?_
  have marked := valid observed[index] (List.getElem_mem other)
  simp [rows, ofPoints, ← marked]

theorem valid_of_mem_validRows {row : Observation K}
    (member : row ∈ data.validRows) : row.valid = true :=
  (List.mem_filter.1 member).2

end Columns

/-! ## Without filler -/

@[simp]
theorem rows_unpadded (data : Observations K) :
    data.unpadded.rows = data.validRows :=
  rows_ofPoints_map data.validRows (fun _ => valid_of_mem_validRows) data.dimension

@[simp]
theorem validRows_unpadded (data : Observations K) :
    data.unpadded.validRows = data.validRows := by
  rw [validRows, rows_unpadded, List.filter_eq_self]
  exact fun _ => valid_of_mem_validRows

@[simp]
theorem dimension_unpadded (data : Observations K) :
    data.unpadded.dimension = data.dimension := rfl

@[simp]
theorem size_unpadded (data : Observations K) :
    data.unpadded.size = data.validRows.length := by
  simp [unpadded, ofPoints, size]

theorem unpadded_congr {first second : Observations K}
    (rows : first.validRows = second.validRows)
    (dimension : first.dimension = second.dimension) :
    first.unpadded = second.unpadded := by
  rw [unpadded, unpadded, rows, dimension]

/-- Data made from points is without filler. -/
theorem unpadded_ofPoints {points : List (List K)} {labels : List K}
    (lengths : labels.length = points.length) (dimension : Nat) :
    (ofPoints points labels dimension).unpadded = ofPoints points labels dimension := by
  have columns :=
    rows_of_columns (ofPoints points labels dimension) lengths
      (by simp [ofPoints])
  have allValid :
      (ofPoints points labels dimension).validRows =
        (ofPoints points labels dimension).rows := by
    refine List.filter_eq_self.2 fun row member => ?_
    have inMask := List.mem_map_of_mem (f := (·.valid)) member
    rw [columns.2.2] at inMask
    exact List.eq_of_mem_replicate inMask
  rw [unpadded, allValid, columns.1, columns.2.1]
  rfl

theorem regularFiller_unpadded (data : Observations K) :
    data.unpadded.RegularFiller := by
  have columns :=
    rows_of_columns data.unpadded (by simp [unpadded, ofPoints])
      (by simp [unpadded, ofPoints])
  refine ⟨columns.1, columns.2.2, fun row member marked => ?_⟩
  rw [rows_unpadded] at member
  simp [valid_of_mem_validRows member] at marked

/-- The observed rows are those that the mask counts. -/
theorem numValid_eq_of_mask (mask : data.rows.map (·.valid) = data.mask) :
    data.numValid = data.validRows.length := by
  rw [numValid, ← mask, validRows, List.count, List.countP_map,
    ← List.countP_eq_length_filter]
  exact List.countP_congr fun row _ => by simp

theorem RegularFiller.numValid_eq (regular : data.RegularFiller) :
    data.numValid = data.validRows.length :=
  numValid_eq_of_mask regular.mask_eq

/-! ## More points -/

section Extend

variable {points : List (List K)} {labels : List K}

theorem extend_eq_ofPoints (data : Observations K) (points : List (List K))
    (labels : List K) :
    data.extend points labels =
      ofPoints (data.validRows.map (·.features) ++ points)
        (data.validRows.map (·.label) ++ labels) data.dimension := by
  simp [extend, unpadded, ofPoints, List.replicate_append_replicate]

theorem unpadded_extend (lengths : labels.length = points.length) :
    (data.extend points labels).unpadded = data.extend points labels := by
  rw [extend_eq_ofPoints]
  exact unpadded_ofPoints (by simp [lengths]) data.dimension

/-- The rows of new points. -/
def newRows (points : List (List K)) (labels : List K) : List (Observation K) :=
  List.zipWith (fun point label => ⟨point, label, true⟩) points labels

theorem rows_extend (lengths : labels.length = points.length) :
    (data.extend points labels).rows =
      data.validRows ++ newRows points labels := by
  have features :
      (data.validRows ++ newRows points labels).map (·.features) =
        data.validRows.map (·.features) ++ points := by
    rw [List.map_append]
    congr 1
    refine List.ext_getElem (by simp [newRows, lengths]) fun index _ _ => ?_
    simp [newRows]
  have labelsEq :
      (data.validRows ++ newRows points labels).map (·.label) =
        data.validRows.map (·.label) ++ labels := by
    rw [List.map_append]
    congr 1
    refine List.ext_getElem (by simp [newRows, lengths]) fun index _ _ => ?_
    simp [newRows]
  have valid :
      ∀ row ∈ data.validRows ++ newRows points labels, row.valid = true := by
    intro row member
    rcases List.mem_append.1 member with old | new
    · exact valid_of_mem_validRows old
    · obtain ⟨index, bound, rfl⟩ := List.mem_iff_getElem.1 new
      simp [newRows]
  rw [extend_eq_ofPoints, ← features, ← labelsEq]
  exact rows_ofPoints_map _ valid data.dimension

theorem validRows_extend (lengths : labels.length = points.length) :
    (data.extend points labels).validRows =
      data.validRows ++ newRows points labels := by
  rw [← rows_unpadded, unpadded_extend lengths, rows_extend lengths]

end Extend

/-! ## Padding -/

section Pad

variable [Scalar K]

/-- A row of filler. -/
def fillerRow (dimension : Nat) : Observation K :=
  ⟨List.replicate dimension 0, 0, false⟩

theorem rows_pad (data : Observations K) (padding : Padding) :
    (data.pad padding).rows =
      data.validRows ++
        List.replicate (padding data.validRows.length - data.validRows.length)
          (fillerRow data.dimension) := by
  have kept := rows_unpadded data
  rw [rows] at kept
  rw [rows, pad]
  dsimp only
  rw [List.zip_append (by simp [unpadded, ofPoints]),
    List.zipWith_append (by simp [unpadded, ofPoints]), kept, size_unpadded]
  congr 1
  refine List.ext_getElem (by simp) fun index _ _ => ?_
  simp [fillerRow]

@[simp]
theorem validRows_pad (data : Observations K) (padding : Padding) :
    (data.pad padding).validRows = data.validRows := by
  have unchanged := validRows_unpadded data
  rw [validRows, rows_unpadded] at unchanged
  rw [validRows, rows_pad, List.filter_append, unchanged]
  simp [fillerRow]

@[simp]
theorem dimension_pad (data : Observations K) (padding : Padding) :
    (data.pad padding).dimension = data.dimension := rfl

@[simp]
theorem unpadded_pad (data : Observations K) (padding : Padding) :
    (data.pad padding).unpadded = data.unpadded :=
  unpadded_congr (validRows_pad data padding) rfl

theorem regularFiller_pad (data : Observations K) (padding : Padding) :
    (data.pad padding).RegularFiller := by
  have columns :=
    rows_of_columns (data.pad padding)
      (by simp [pad, unpadded, ofPoints]) (by simp [pad, unpadded, ofPoints])
  refine ⟨columns.1, columns.2.2, fun row member marked => ?_⟩
  rw [rows_pad] at member
  rcases List.mem_append.1 member with kept | filler
  · simp [valid_of_mem_validRows kept] at marked
  · rw [List.eq_of_mem_replicate filler]
    simp [fillerRow]

theorem row_length_pad
    (lengths : ∀ row ∈ data.validRows, row.features.length = data.dimension)
    (padding : Padding) :
    ∀ point ∈ (data.pad padding).features, point.length = data.dimension := by
  intro point member
  rw [← (regularFiller_pad data padding).features_eq, rows_pad] at member
  obtain ⟨row, inRows, rfl⟩ := List.mem_map.1 member
  rcases List.mem_append.1 inRows with kept | filler
  · exact lengths row kept
  · rw [List.eq_of_mem_replicate filler]
    simp [fillerRow]

/-- Padding starts from the observed rows. -/
theorem pad_congr {first second : Observations K}
    (rows : first.unpadded = second.unpadded)
    (dimension : first.dimension = second.dimension) (padding : Padding) :
    first.pad padding = second.pad padding := by
  rw [pad, pad, rows, dimension]

theorem pad_extend_nil (data : Observations K) (padding : Padding) :
    (data.extend [] []).pad padding = data.pad padding := by
  have same : (data.extend [] []).unpadded = data.unpadded := by
    rw [unpadded_extend rfl, extend_eq_ofPoints, List.append_nil, List.append_nil]
    rfl
  exact pad_congr same rfl padding

end Pad

end Observations

end BatchBayes
