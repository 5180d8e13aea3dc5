import BatchBayes.Proofs.Comparison
/-!
Exact numbers among values that are not finite. Operations on finite numbers are those
of the real numbers, and the infinities and the value that is no number follow the rules
of doubles, so that what is proved here holds of doubles up to rounding and covers every
value that a double can have.
-/

namespace BatchBayes

/-- A real number, one of two infinities, or no number. Zero has no sign. -/
inductive Extended where
  | notANumber
  | infinite (negative : Bool)
  | finite (value : ℝ)

namespace Extended

/-! ## Operations -/

/-- The place of a number in the order. -/
noncomputable def rank? : Extended → Option EReal
  | notANumber => none
  | infinite true => some ⊥
  | infinite false => some ⊤
  | finite value => some value

def neg : Extended → Extended
  | notANumber => notANumber
  | infinite negative => infinite !negative
  | finite value => finite (-value)

noncomputable def add : Extended → Extended → Extended
  | finite first, finite second => finite (first + second)
  | infinite first, infinite second =>
      if first = second then infinite first else notANumber
  | infinite negative, finite _ => infinite negative
  | finite _, infinite negative => infinite negative
  | _, _ => notANumber

/-- An infinity times a finite number. -/
noncomputable def scaled (negative : Bool) (factor : ℝ) : Extended :=
  if factor = 0 then notANumber else infinite (negative != decide (factor < 0))

noncomputable def mul : Extended → Extended → Extended
  | finite first, finite second => finite (first * second)
  | infinite first, infinite second => infinite (first != second)
  | infinite negative, finite factor => scaled negative factor
  | finite factor, infinite negative => scaled negative factor
  | _, _ => notANumber

noncomputable def div : Extended → Extended → Extended
  | finite first, finite second =>
      if second = 0 then scaled false first else finite (first / second)
  | infinite negative, finite divisor =>
      infinite (negative != decide (divisor < 0))
  | finite _, infinite _ => finite 0
  | _, _ => notANumber

noncomputable def sqrt : Extended → Extended
  | finite value => if value < 0 then notANumber else finite (Real.sqrt value)
  | infinite false => infinite false
  | _ => notANumber

noncomputable def exp : Extended → Extended
  | finite value => finite (Real.exp value)
  | infinite true => finite 0
  | infinite false => infinite false
  | notANumber => notANumber

noncomputable def log : Extended → Extended
  | finite value =>
      if 0 < value then finite (Real.log value)
      else if value = 0 then infinite true
      else notANumber
  | infinite false => infinite false
  | _ => notANumber

noncomputable instance : Scalar Extended where
  zero := finite 0
  one := finite 1
  add := add
  sub first second := first.add second.neg
  mul := mul
  div := div
  neg := neg
  lt first second :=
    ∃ low high, first.rank? = some low ∧ second.rank? = some high ∧ low < high
  le first second :=
    ∃ low high, first.rank? = some low ∧ second.rank? = some high ∧ low ≤ high
  beq first second :=
    open Classical in
    decide (∃ place, first.rank? = some place ∧ second.rank? = some place)
  ofScientific mantissa negative exponent :=
    finite (OfScientific.ofScientific mantissa negative exponent)
  decidableLT _ _ := Classical.propDecidable _
  decidableLE _ _ := Classical.propDecidable _
  ofInt number := finite number
  sqrt := sqrt
  exp := exp
  log := log
  floor
    | finite value => ⌊value⌋
    | _ => 0
  round
    | finite value => Scalar.round value
    | _ => 0
  isNaN
    | notANumber => true
    | _ => false
  isFinite
    | finite _ => true
    | _ => false
  infinity := infinite false
  largest := finite Scalar.largest

noncomputable instance : DecimalText Extended where
  text
    | notANumber => "NaN"
    | infinite true => "-inf"
    | infinite false => "inf"
    | finite value => DecimalText.text value
  ofText? text := (DecimalText.ofText? text).map finite

/-! ## Order -/

theorem exists_rank? {x : Extended} (number : Scalar.isNaN x = false) :
    ∃ place, x.rank? = some place := by
  rcases x with _ | ⟨_ | _⟩ | value
  · cases number
  · exact ⟨⊤, rfl⟩
  · exact ⟨⊥, rfl⟩
  · exact ⟨value, rfl⟩

theorem exists_finite {x : Extended} (isFinite : Scalar.isFinite x = true) :
    ∃ value, x = finite value := by
  rcases x with _ | _ | value
  · cases isFinite
  · cases isFinite
  · exact ⟨value, rfl⟩

theorem lt_iff {x y : Extended} {low high : EReal} (first : x.rank? = some low)
    (second : y.rank? = some high) : x < y ↔ low < high := by
  change (∃ a b, x.rank? = some a ∧ y.rank? = some b ∧ a < b) ↔ low < high
  simp [first, second]

theorem le_iff {x y : Extended} {low high : EReal} (first : x.rank? = some low)
    (second : y.rank? = some high) : x ≤ y ↔ low ≤ high := by
  change (∃ a b, x.rank? = some a ∧ y.rank? = some b ∧ a ≤ b) ↔ low ≤ high
  simp [first, second]

theorem beq_iff {x y : Extended} {low high : EReal} (first : x.rank? = some low)
    (second : y.rank? = some high) : (x == y) = true ↔ low = high := by
  change decide (∃ a, x.rank? = some a ∧ y.rank? = some a) = true ↔ low = high
  simp [first, second, eq_comm]

instance : OrderedScalar Extended where
  lt_irrefl := by
    rintro x ⟨low, high, first, second, below⟩
    obtain rfl := Option.some.inj (first.symm.trans second)
    exact lt_irrefl low below
  lt_trans := by
    rintro x y z ⟨low, middle, first, second, below⟩ ⟨other, high, same, third, above⟩
    obtain rfl := Option.some.inj (second.symm.trans same)
    exact ⟨low, high, first, third, below.trans above⟩
  le_trans := by
    rintro x y z ⟨low, middle, first, second, below⟩ ⟨other, high, same, third, above⟩
    obtain rfl := Option.some.inj (second.symm.trans same)
    exact ⟨low, high, first, third, below.trans above⟩
  beq_of_not_lt := by
    intro x y xFinite yFinite notBelow notAbove
    obtain ⟨x, rfl⟩ := exists_finite xFinite
    obtain ⟨y, rfl⟩ := exists_finite yFinite
    rw [lt_iff rfl rfl, EReal.coe_lt_coe_iff] at notBelow notAbove
    rw [beq_iff rfl rfl, le_antisymm (not_lt.1 notAbove) (not_lt.1 notBelow)]

instance : LinearScalar Extended where
  le_iff_not_lt := by
    intro x y xNumber yNumber
    obtain ⟨low, first⟩ := exists_rank? xNumber
    obtain ⟨high, second⟩ := exists_rank? yNumber
    rw [le_iff first second, lt_iff second first, not_lt]
  isNaN_of_isFinite := by
    rintro (_ | _ | x) finite
    · cases finite
    · cases finite
    · rfl
  isNaN_lowest := rfl

/-! ## No number -/

@[simp]
theorem notANumber_mul (x : Extended) : notANumber * x = notANumber := by
  cases x <;> rfl

@[simp]
theorem mul_notANumber (x : Extended) : x * notANumber = notANumber := by
  cases x <;> rfl

@[simp]
theorem add_notANumber (x : Extended) : x + notANumber = notANumber := by
  cases x <;> rfl

@[simp]
theorem notANumber_sub (x : Extended) : notANumber - x = notANumber := by
  cases x <;> rfl

/-! ## Finite numbers -/

variable (x y low high : ℝ)

theorem zero_eq : (0 : Extended) = finite 0 := rfl

theorem one_eq : (1 : Extended) = finite 1 := rfl

theorem ofScientific_eq (mantissa : Nat) (negative : Bool) (exponent : Nat) :
    (OfScientific.ofScientific mantissa negative exponent : Extended) =
      finite (OfScientific.ofScientific mantissa negative exponent) := rfl

theorem ofInt_eq (number : Int) : (Scalar.ofInt number : Extended) = finite number := rfl

theorem ofNat_eq (number : Nat) : (Scalar.ofNat number : Extended) = finite number := by
  change finite ((Int.ofNat number : Int) : ℝ) = finite number
  simp

theorem finite_add : finite x + finite y = finite (x + y) := rfl

theorem finite_neg : -finite x = finite (-x) := rfl

theorem finite_sub : finite x - finite y = finite (x - y) := by
  rw [sub_eq_add_neg]
  rfl

theorem finite_mul : finite x * finite y = finite (x * y) := rfl

theorem finite_div {y : ℝ} (nonzero : y ≠ 0) :
    finite x / finite y = finite (x / y) :=
  if_neg nonzero

@[simp]
theorem finite_lt : finite x < finite y ↔ x < y := by
  rw [lt_iff rfl rfl, EReal.coe_lt_coe_iff]

@[simp]
theorem finite_le : finite x ≤ finite y ↔ x ≤ y := by
  rw [le_iff rfl rfl, EReal.coe_le_coe_iff]

@[simp]
theorem finite_beq : (finite x == finite y) = (x == y) := by
  rw [Bool.eq_iff_iff, beq_iff rfl rfl, beq_iff_eq, EReal.coe_eq_coe_iff]

@[simp]
theorem isFinite_finite : Scalar.isFinite (finite x) = true := rfl

@[simp]
theorem isNaN_finite : Scalar.isNaN (finite x) = false := rfl

theorem sqrt_finite {x : ℝ} (nonneg : 0 ≤ x) :
    Scalar.sqrt (finite x) = finite (Real.sqrt x) :=
  if_neg nonneg.not_gt

theorem exp_finite : Scalar.exp (finite x) = finite (Real.exp x) := rfl

theorem log_finite {x : ℝ} (positive : 0 < x) :
    Scalar.log (finite x) = finite (Real.log x) :=
  if_pos positive

theorem round_finite : Scalar.round (finite x) = Scalar.round x := rfl

theorem clamp_finite :
    Scalar.clamp (finite x) (finite low) (finite high) =
      finite (Scalar.clamp x low high) := by
  rw [Scalar.clamp, Scalar.clamp]
  simp only [finite_lt]
  split_ifs <;> rfl

theorem max_finite :
    Scalar.max (finite x) (finite y) = finite (Scalar.max x y) := by
  rw [Scalar.max, Scalar.max]
  simp only [finite_lt, isNaN_finite, Scalar.isNaN_real]
  split_ifs <;> rfl

theorem min_finite :
    Scalar.min (finite x) (finite y) = finite (Scalar.min x y) := by
  rw [Scalar.min, Scalar.min]
  simp only [finite_lt, isNaN_finite, Scalar.isNaN_real]
  split_ifs <;> rfl

theorem foldl_finite {f : Extended → Extended → Extended} {g : ℝ → ℝ → ℝ}
    (each : ∀ x y, f (finite x) (finite y) = finite (g x y)) (values : List ℝ)
    (start : ℝ) :
    (values.map finite).foldl f (finite start) = finite (values.foldl g start) := by
  induction values generalizing start with
  | nil => rfl
  | cons value values inductionHypothesis =>
      rw [List.map_cons, List.foldl_cons, List.foldl_cons, each, inductionHypothesis]

theorem sum_finite (values : List ℝ) :
    Scalar.sum (values.map finite) = finite (Scalar.sum values) :=
  foldl_finite finite_add values 0

end Extended

end BatchBayes
