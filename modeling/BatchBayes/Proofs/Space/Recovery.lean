import BatchBayes.Proofs.Space.Projection
/-!
Assignments that come back. The features of an assignment inside a space stand for its
values at the names of the space, whichever names and labels are repeated.
-/

namespace BatchBayes

/-- The same value, where a label may stand for another one that is equal to it. -/
inductive Value.Alike {K : Type} : Value K → Value K → Prop
  | refl (value : Value K) : Alike value value
  | label {chosen other : Json} :
      (other == chosen) = true → Alike (.label chosen) (.label other)

namespace Range

/-! ## Values of ranges -/

/-- A value inside a sound range, by the kind of the range. -/
inductive Holds : Range Extended → Value Extended → Prop
  | linear {low high number : ℝ} :
      low ≤ number →
      number ≤ high →
      Holds (.linear (.finite low) (.finite high)) (.real (.finite number))
  | logarithmic {low high number : ℝ} :
      0 < low →
      low ≤ number →
      number ≤ high →
      Holds (.logarithmic (.finite low) (.finite high)) (.real (.finite number))
  | integer {low high number : Int64} :
      low ≤ number → number ≤ high → Holds (.integer low high) (.integer number)
  | choice {labels : List Json} {chosen : Json} :
      labels.any (· == chosen) = true → Holds (.choice labels) (.label chosen)

theorem exists_finite_ends {low high : Extended} (ordered : isOrdered low high = true) :
    ∃ first last : ℝ, low = .finite first ∧ high = .finite last := by
  rw [isOrdered, Bool.and_eq_true, Bool.and_eq_true] at ordered
  obtain ⟨first, rfl⟩ := Extended.exists_finite ordered.1.1
  obtain ⟨last, rfl⟩ := Extended.exists_finite ordered.1.2
  exact ⟨first, last, rfl, rfl⟩

theorem exists_finite_between {number : Extended} {low high : ℝ}
    (inside :
      (Scalar.isFinite number &&
        Scalar.within number (.finite low) (.finite high)) = true) :
    ∃ value : ℝ, number = .finite value ∧ low ≤ value ∧ value ≤ high := by
  rw [Bool.and_eq_true] at inside
  obtain ⟨value, rfl⟩ := Extended.exists_finite inside.1
  exact ⟨value, rfl, by simpa [Scalar.within] using inside.2⟩

variable {range : Range Extended} {value : Value Extended}

theorem holds_of_contains (sound : range.defect? = none)
    (inside : range.contains value = true) : range.Holds value := by
  cases range <;> cases value <;> simp only [contains, Bool.false_eq_true] at inside
  case linear.real low high number =>
      have ordered : isOrdered low high = true := by simpa [defect?] using sound
      obtain ⟨low, high, rfl, rfl⟩ := exists_finite_ends ordered
      obtain ⟨number, rfl, above, below⟩ := exists_finite_between inside
      exact .linear above below
  case logarithmic.real low high number =>
      have ordered : isOrdered low high = true ∧ ¬ low ≤ 0 := by
        simpa [defect?] using sound
      obtain ⟨low, high, rfl, rfl⟩ := exists_finite_ends ordered.1
      obtain ⟨number, rfl, above, below⟩ := exists_finite_between inside
      have positive : 0 < low := by
        simpa [Extended.zero_eq] using ordered.2
      exact .logarithmic positive above below
  case integer.integer => exact .integer (by simp_all) (by simp_all)
  case choice.label => exact .choice inside

/-! ## Blocks of values -/

theorem decode_encode_logarithmic {low high number : ℝ} (positive : 0 < low)
    (above : low ≤ number) (below : number ≤ high) :
    (logarithmic (.finite low) (.finite high) : Range Extended).decode
        [.finite (toUnit (Real.log number) (Real.log low) (Real.log high))] =
      .real (.finite number) := by
  have numberPositive : 0 < number := positive.trans_le above
  have logAbove : Real.log low ≤ Real.log number := Real.log_le_log positive above
  have logBelow : Real.log number ≤ Real.log high :=
    Real.log_le_log numberPositive below
  rw [decode, List.headD_cons, Extended.log_finite positive,
    Extended.log_finite (numberPositive.trans_le below), ofUnit_finite,
    ofUnit_toUnit logAbove logBelow, Extended.exp_finite, Real.exp_log numberPositive,
    Extended.clamp_finite, Scalar.clamp_of_mem above below]

theorem decode_encode_integer {low high number : Int64} (above : low ≤ number)
    (below : number ≤ high) :
    (integer low high).decode
        [.finite (toUnit (number.toInt : ℝ) low.toInt high.toInt)] =
      (.integer number : Value Extended) := by
  rw [Int64.le_iff_toInt_le] at above below
  simp only [decode, List.headD_cons, Extended.ofInt_eq, ofUnit_finite,
    Extended.round_finite, ofUnit_toUnit_intCast above below, Scalar.round_intCast,
    min_eq_left below, max_eq_right above, Int64.ofInt_toInt]

/-- The block of the first label that is equal to the chosen one. -/
theorem exists_encode_choice {labels : List Json} {chosen : Json}
    (inside : labels.any (· == chosen) = true) (name : String) :
    ∃ index < labels.length,
      (choice labels : Range Extended).encode name (.label chosen) =
          .ok (oneHot labels.length index) ∧
        (labels.getD index .null == chosen) = true := by
  cases found : labels.findIdx? (· == chosen) with
  | none =>
      rw [List.findIdx?_eq_none_iff] at found
      obtain ⟨label, member, same⟩ := List.any_eq_true.1 inside
      rw [found label member] at same
      cases same
  | some index =>
      obtain ⟨below, same, _⟩ := List.findIdx?_eq_some_iff_getElem.1 found
      refine ⟨index, below, ?_, ?_⟩
      · rw [encode, found]
      · rwa [List.getD_eq_getElem labels .null below]

/-- A value inside a range has a block that projection leaves as it is and that stands for
the value. -/
theorem Holds.exists_encode (holds : range.Holds value) (name : String) :
    ∃ block,
      range.encode name value = .ok block ∧
        range.Snapped block ∧ value.Alike (range.decode block) := by
  cases holds with
  | @linear low high number above below =>
      obtain ⟨nonneg, atMost⟩ := toUnit_mem number low high
      refine ⟨[.finite (toUnit number low high)], ?_, ⟨_, nonneg, atMost, rfl⟩, ?_⟩
      · rw [encode, toUnit_finite]
      · rw [decode, List.headD_cons, ofUnit_finite, ofUnit_toUnit above below]
        exact .refl _
  | @logarithmic low high number positive above below =>
      have numberPositive : 0 < number := positive.trans_le above
      obtain ⟨nonneg, atMost⟩ :=
        toUnit_mem (Real.log number) (Real.log low) (Real.log high)
      refine ⟨[.finite (toUnit (Real.log number) (Real.log low) (Real.log high))], ?_,
        ⟨_, nonneg, atMost, rfl⟩, ?_⟩
      · have notBelow : ¬ Extended.finite number ≤ 0 := by
          simpa [Extended.zero_eq] using numberPositive
        rw [encode, if_neg notBelow, Extended.log_finite numberPositive,
          Extended.log_finite positive,
          Extended.log_finite (numberPositive.trans_le below), toUnit_finite]
      · rw [decode_encode_logarithmic positive above below]
        exact .refl _
  | @integer low high number above below =>
      refine ⟨[.finite (toUnit (number.toInt : ℝ) low.toInt high.toInt)], ?_,
        ⟨number.toInt, Int64.le_iff_toInt_le.1 above, Int64.le_iff_toInt_le.1 below, rfl⟩,
        ?_⟩
      · rw [encode, Extended.ofInt_eq, Extended.ofInt_eq, Extended.ofInt_eq, toUnit_finite]
      · rw [decode_encode_integer above below]
        exact .refl _
  | @choice labels chosen inside =>
      obtain ⟨index, below, encoded, same⟩ := exists_encode_choice inside name
      refine ⟨oneHot labels.length index, encoded, ⟨index, below, rfl⟩, ?_⟩
      rw [decode, indexOfLargest_oneHot_finite below]
      exact .label same

end Range

/-! ## Assignments -/

namespace Space

/-- An assignment that has the values of another one at the names of a space, and no
others. -/
structure Recovers {K : Type} (space : Space K) (assignment again : Assignment K) :
    Prop where
  found : ∀ name ∈ space.names, ∃ value other,
    assignment.find? name = some value ∧ again.find? name = some other ∧
      value.Alike other
  nothing_else : ∀ name, name ∉ space.names → again.find? name = none

/-- A part of the features that belongs to a value of an assignment. -/
structure PartOf (assignment : Assignment Extended) (parameter : Parameter Extended)
    (part : List Extended) : Prop where
  length : part.length = parameter.range.width
  snapped : parameter.range.Snapped part
  value : ∃ value,
    assignment.find? parameter.name = some value ∧
      value.Alike (parameter.range.decode part)

variable {space : Space Extended} {assignment : Assignment Extended}

/-- The features of an assignment inside a space, part by part. -/
theorem exists_parts (sound : space.defect? = none)
    (inside : space.contains assignment = true) :
    ∃ parts,
      space.encode assignment = .ok parts.flatten ∧
        List.Forall₂ (PartOf assignment) space.parameters parts := by
  rw [contains_iff] at inside
  have each : ∀ parameter ∈ space.parameters, ∃ part,
      encodeParameter assignment parameter = .ok part ∧
        PartOf assignment parameter part := by
    intro parameter member
    obtain ⟨value, found, contained⟩ := inside parameter member
    have holds := Range.holds_of_contains (defect?_eq_none sound parameter member) contained
    obtain ⟨part, encoded, snapped, alike⟩ := holds.exists_encode parameter.name
    refine ⟨part, ?_, Range.length_encode encoded, snapped, value, found, alike⟩
    rw [encodeParameter, found]
    exact encoded
  obtain ⟨parts, mapped⟩ :=
    exists_mapM_eq_ok fun parameter member => (each parameter member).imp fun _ => And.left
  refine ⟨parts, by rw [encode, mapped]; rfl, ?_⟩
  refine forall₂_of_mem ((mapM_eq_ok_iff _ _ _).1 mapped) fun parameter member part same => ?_
  obtain ⟨other, encoded, facts⟩ := each parameter member
  rw [same] at encoded
  obtain rfl := Except.ok.inj encoded
  exact facts

/-- Parts of an assignment stand for its values, whichever names are repeated. -/
theorem recovers_of_parts {parts : List (List Extended)}
    (pairs : List.Forall₂ (PartOf assignment) space.parameters parts) :
    space.Recovers assignment (space.decode parts.flatten) := by
  have cut : blocks space.parameters parts.flatten = space.parameters.zip parts :=
    blocks_flatten (pairs.imp fun _ _ part => part.length)
  have keys :
      ((space.parameters.zip parts).map fun entry =>
          (entry.1.name, entry.1.range.decode entry.2)).map (·.1) =
        space.names := by
    rw [names, ← List.map_fst_zip pairs.length_eq.le, List.map_map, List.map_map,
      List.map_fst_zip pairs.length_eq.le]
    rfl
  rw [decode, cut]
  constructor
  · intro name member
    rw [← keys] at member
    obtain ⟨item, inEntries, found⟩ := Table.exists_find?_ofList member
    obtain ⟨entry, inZip, same⟩ := List.mem_map.1 inEntries
    cases same
    obtain ⟨value, own, alike⟩ := (List.forall₂_zip pairs inZip).value
    exact ⟨value, _, own, found, alike⟩
  · intro name absent
    rw [← keys] at absent
    exact Table.find?_insertAll_of_not_mem _ absent

theorem accepts_of_parts {parts : List (List Extended)}
    (pairs : List.Forall₂ (PartOf assignment) space.parameters parts)
    (success : space.encode assignment = .ok parts.flatten) :
    space.accepts parts.flatten = true := by
  refine accepts_iff.2 ⟨length_encode success, ?_⟩
  rw [blocks_flatten (pairs.imp fun _ _ part => part.length)]
  rintro ⟨parameter, part⟩ member
  exact (List.forall₂_zip pairs member).snapped.accepts

/-- An assignment inside a sound space has features. They are accepted, and they stand for
the values of the assignment at the names of the space, each label for one that is equal to
it. So an assignment without features is not inside the space. -/
theorem decode_recovers_assignment (sound : space.defect? = none)
    (assignment : Assignment Extended) :
    (space.violation? assignment = none →
      ∃ features,
        space.encode assignment = .ok features ∧ space.accepts features = true ∧
          space.Recovers assignment (space.decode features)) ∧
    ∀ failure,
      space.encode assignment = .error failure →
      ∃ violation, space.violation? assignment = some violation := by
  have recovered : space.violation? assignment = none →
      ∃ features,
        space.encode assignment = .ok features ∧ space.accepts features = true ∧
          space.Recovers assignment (space.decode features) := by
    intro none
    have inside : space.contains assignment = true := by rw [contains, none]; rfl
    obtain ⟨parts, success, pairs⟩ := exists_parts sound inside
    exact ⟨parts.flatten, success, accepts_of_parts pairs success, recovers_of_parts pairs⟩
  refine ⟨recovered, fun failure failed => ?_⟩
  cases violation : space.violation? assignment with
  | some other => exact ⟨other, rfl⟩
  | none =>
      obtain ⟨features, success, _⟩ := recovered violation
      rw [failed] at success
      cases success

/-- A range of each kind. One name has two ranges, and one label stands twice. -/
noncomputable def withRepeats : Space Extended :=
  ⟨[⟨"rate", .logarithmic 0.25 8.0⟩, ⟨"shift", .linear 1.0 1.0⟩, ⟨"depth", .integer 1 5⟩,
    ⟨"depth", .integer 3 9⟩, ⟨"kernel", .choice [.text "rbf", .text "linear", .text "rbf"]⟩]⟩

/-- The values of an assignment inside the space, at a rate of choice. What is noted besides
is no number. -/
noncomputable def notedAt (rate : ℝ) : Assignment Extended :=
  Table.ofList
    [("rate", .real (.finite rate)), ("shift", .real (.finite 1)), ("depth", .integer 4),
      ("kernel", .label (.text "rbf")), ("note", .real .notANumber)]

theorem find?_notedAt (rate : ℝ) :
    (notedAt rate).find? "rate" = some (.real (.finite rate)) ∧
      (notedAt rate).find? "shift" = some (.real (.finite 1)) ∧
      (notedAt rate).find? "depth" = some (.integer 4) ∧
      (notedAt rate).find? "kernel" = some (.label (.text "rbf")) := by
  refine ⟨?_, ?_, ?_, ?_⟩ <;> exact Table.find?_ofList_of_mem (by simp) (by simp)

theorem decode_recovers_assignment_with_repeats :
    withRepeats.defect? = none ∧
      withRepeats.violation? (notedAt 4) = none ∧
      (∃ features,
        withRepeats.encode (notedAt 4) = .ok features ∧
          withRepeats.accepts features = true ∧
          withRepeats.Recovers (notedAt 4) (withRepeats.decode features)) ∧
      ∃ failure violation,
        withRepeats.encode (notedAt (-1)) = .error failure ∧
          withRepeats.violation? (notedAt (-1)) = some violation := by
  have sound : withRepeats.defect? = none := by
    have shallow : (1 : Int64) ≤ 5 := by decide
    have deep : (3 : Int64) ≤ 9 := by decide
    simp [withRepeats, defect?, Range.defect?, Range.isOrdered, Extended.zero_eq,
      Extended.ofScientific_eq, shallow, deep]
    norm_num
  have inside : withRepeats.violation? (notedAt 4) = none := by
    obtain ⟨rate, shift, depth, kernel⟩ := find?_notedAt 4
    have shallow : (1 : Int64) ≤ 4 ∧ (4 : Int64) ≤ 5 := by decide
    have deep : (3 : Int64) ≤ 4 ∧ (4 : Int64) ≤ 9 := by decide
    simp [withRepeats, violation?, Parameter.violation?, rate, shift, depth, kernel,
      Range.contains, Scalar.within, Extended.ofScientific_eq, shallow, deep,
      Json.beq_self]
    norm_num
  have failing : ∃ failure, withRepeats.encode (notedAt (-1)) = .error failure := by
    have negative : Extended.finite (-1) ≤ 0 := by simp [Extended.zero_eq]
    refine ⟨.outOfBounds "rate" (Value.real (Extended.finite (-1))).text, ?_⟩
    rw [encode, withRepeats, List.mapM_cons, encodeParameter, (find?_notedAt (-1)).1]
    simp only [Range.encode, if_pos negative]
    rfl
  obtain ⟨failure, failed⟩ := failing
  obtain ⟨violation, violated⟩ :=
    (decode_recovers_assignment sound (notedAt (-1))).2 failure failed
  exact ⟨sound, inside, (decode_recovers_assignment sound (notedAt 4)).1 inside, failure,
    violation, failed, violated⟩

end Space

end BatchBayes
