import Mathlib
import BatchBayes.Random.Normal
/-!
The real numbers as the numbers of a model: every operation is exact, so that
what is proved here holds of doubles up to rounding.
-/

namespace BatchBayes

/-- Exact arithmetic. Every real number is finite; the bound of the finite
doubles stands where a model needs something above them. -/
noncomputable instance : Scalar ℝ where
  toZero := inferInstance
  toOne := inferInstance
  toAdd := inferInstance
  toSub := inferInstance
  toMul := inferInstance
  toDiv := inferInstance
  toNeg := inferInstance
  toLT := inferInstance
  toLE := inferInstance
  toBEq := inferInstance
  toOfScientific := inferInstance
  decidableLT := inferInstance
  decidableLE := inferInstance
  ofInt n := n
  sqrt := Real.sqrt
  exp := Real.exp
  log := Real.log
  floor := Int.floor
  round x := if 0 ≤ x then ⌊x + 1 / 2⌋ else ⌈x - 1 / 2⌉
  isNaN _ := false
  isFinite _ := true
  infinity := 2 ^ 1024
  largest := 2 ^ 1024 - 2 ^ 971

/-- The text of a real number is that of its whole part. -/
noncomputable instance : DecimalText ℝ where
  text x := toString ⌊x⌋
  ofText? text := text.toInt?.map fun whole => (whole : ℝ)

theorem ofText?_text (x : ℝ) :
    DecimalText.ofText? (DecimalText.text x) = some ((⌊x⌋ : Int) : ℝ) := by
  have whole : (toString ⌊x⌋).toInt? = some ⌊x⌋ := Int.toInt?_repr ⌊x⌋
  change ((toString ⌊x⌋).toInt?.map fun whole => (whole : ℝ)) = some ((⌊x⌋ : Int) : ℝ)
  rw [whole]
  rfl

/-- Twelve uniform draws added up, less their mean. -/
noncomputable instance : NormalSource ℝ where
  normal generator :=
    let (draws, generator) := Generator.times Generator.unit 12 generator
    (Scalar.sum draws - 6, generator)

namespace Scalar

@[simp]
theorem sqrt_real (x : ℝ) : sqrt x = Real.sqrt x := rfl

@[simp]
theorem exp_real (x : ℝ) : exp x = Real.exp x := rfl

@[simp]
theorem log_real (x : ℝ) : log x = Real.log x := rfl

@[simp]
theorem isNaN_real (x : ℝ) : isNaN x = false := rfl

@[simp]
theorem isFinite_real (x : ℝ) : isFinite x = true := rfl

@[simp]
theorem max_real (x y : ℝ) : Scalar.max x y = x ⊔ y := by
  rcases lt_or_ge x y with below | above
  · simp [Scalar.max, below, below.le]
  · simp [Scalar.max, above.not_gt, above]

@[simp]
theorem min_real (x y : ℝ) : Scalar.min x y = x ⊓ y := by
  rcases lt_or_ge y x with below | above
  · simp [Scalar.min, below, below.le]
  · simp [Scalar.min, above.not_gt, above]

@[simp]
theorem ofNat_real (n : Nat) : (ofNat n : ℝ) = n := by
  change ((Int.ofNat n : Int) : ℝ) = n
  simp

theorem within_clamp {low high : ℝ} (ordered : low ≤ high) (x : ℝ) :
    within (clamp x low high) low high = true := by
  rw [clamp]
  by_cases below : x < low
  · rw [if_pos below]
    simp [within, ordered]
  · rw [if_neg below]
    by_cases above : high < x
    · rw [if_pos above]
      simp [within, ordered]
    · rw [if_neg above]
      simp [within, not_lt.1 below, not_lt.1 above]

theorem clamp_of_mem {x low high : ℝ} (above : low ≤ x) (below : x ≤ high) :
    clamp x low high = x := by
  rw [clamp, if_neg above.not_gt, if_neg below.not_gt]

theorem clamp_mem {low high : ℝ} (ordered : low ≤ high) (x : ℝ) :
    low ≤ clamp x low high ∧ clamp x low high ≤ high := by
  simpa [within] using within_clamp ordered x

theorem round_intCast (number : Int) : round (number : ℝ) = number := by
  change (if 0 ≤ (number : ℝ) then ⌊(number : ℝ) + 1 / 2⌋ else ⌈(number : ℝ) - 1 / 2⌉) =
    number
  split
  · rw [Int.floor_eq_iff]
    constructor <;> linarith
  · rw [Int.ceil_eq_iff]
    constructor <;> linarith

theorem round_mem {x : ℝ} {low high : Int} (above : (low : ℝ) ≤ x)
    (below : x ≤ high) : low ≤ round x ∧ round x ≤ high := by
  change
    low ≤ (if 0 ≤ x then ⌊x + 1 / 2⌋ else ⌈x - 1 / 2⌉) ∧
      (if 0 ≤ x then ⌊x + 1 / 2⌋ else ⌈x - 1 / 2⌉) ≤ high
  split
  · constructor
    · rw [Int.le_floor]
      linarith
    · rw [← Int.lt_add_one_iff, Int.floor_lt]
      push_cast
      linarith
  · constructor
    · rw [← Int.sub_one_lt_iff, Int.lt_ceil]
      push_cast
      linarith
    · rw [Int.ceil_le]
      linarith

/-! ## Sums of lists -/

theorem sum_real (values : List ℝ) : sum values = values.sum := by
  rw [sum, List.sum_eq_foldl]

@[simp]
theorem dot_nil_left (values : List ℝ) : dot [] values = 0 := by
  simp [dot, sum_real]

@[simp]
theorem dot_nil_right (values : List ℝ) : dot values [] = 0 := by
  simp [dot, sum_real]

@[simp]
theorem dot_cons (x y : ℝ) (xs ys : List ℝ) :
    dot (x :: xs) (y :: ys) = x * y + dot xs ys := by
  simp [dot, sum_real]

theorem dot_comm (xs ys : List ℝ) : dot xs ys = dot ys xs := by
  rw [dot, dot, List.zipWith_comm]
  simp only [mul_comm]

theorem dot_append {xs ys : List ℝ} (more rest : List ℝ)
    (lengths : xs.length = ys.length) :
    dot (xs ++ more) (ys ++ rest) = dot xs ys + dot more rest := by
  simp [dot, sum_real, List.zipWith_append lengths]

theorem dot_self_nonneg (xs : List ℝ) : 0 ≤ dot xs xs := by
  induction xs with
  | nil => simp
  | cons x xs inductionHypothesis =>
      rw [dot_cons]
      exact add_nonneg (mul_self_nonneg x) inductionHypothesis

theorem dot_zeros (xs : List ℝ) (count : Nat) :
    dot xs (List.replicate count 0) = 0 := by
  induction xs generalizing count with
  | nil => simp
  | cons x xs inductionHypothesis =>
      cases count with
      | zero => simp
      | succ count =>
          rw [List.replicate_succ, dot_cons, inductionHypothesis]
          simp

theorem dot_map_div (divisor : ℝ) (xs ys : List ℝ) :
    dot (xs.map (· / divisor)) ys = dot xs ys / divisor := by
  induction xs generalizing ys with
  | nil => simp
  | cons x xs inductionHypothesis =>
      cases ys with
      | nil => simp
      | cons y ys =>
          rw [List.map_cons, dot_cons, dot_cons, inductionHypothesis]
          ring

/-- A multiple of one vector taken out of the other takes that multiple out of
the product. -/
theorem dot_sub_mul (factor : ℝ) {xs shift : List ℝ} (ys : List ℝ)
    (lengths : xs.length = shift.length) :
    dot (List.zipWith (fun x s => x - s * factor) xs shift) ys =
      dot xs ys - dot shift ys * factor := by
  induction xs generalizing shift ys with
  | nil =>
      cases shift with
      | nil => simp
      | cons s shift => simp at lengths
  | cons x xs inductionHypothesis =>
      cases shift with
      | nil => simp at lengths
      | cons s shift =>
          cases ys with
          | nil => simp
          | cons y ys =>
              have rest := inductionHypothesis ys (by simpa using lengths)
              simp only [List.zipWith_cons_cons, dot_cons, rest]
              ring

end Scalar

end BatchBayes
