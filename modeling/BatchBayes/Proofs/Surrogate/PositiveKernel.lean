import Mathlib
/-!
Kernels over finitely many indices whose quadratic form is nowhere negative.
Sums, products, exponentials and integrals of such kernels are such kernels, and
so is the exponential of the negative of a kernel whose form is nowhere positive
where the weights add up to nothing.
-/

namespace BatchBayes

open MeasureTheory

/-- A symmetric kernel whose quadratic form is nowhere negative. -/
structure PositiveKernel {ι : Type} [Fintype ι] (kernel : ι → ι → ℝ) : Prop where
  symmetric : ∀ i j, kernel i j = kernel j i
  nonneg : ∀ weight : ι → ℝ, 0 ≤ ∑ i, ∑ j, weight i * weight j * kernel i j

/-- A symmetric kernel whose quadratic form is nowhere positive where the weights
add up to nothing. -/
structure NegativeKernel {ι : Type} [Fintype ι] (kernel : ι → ι → ℝ) : Prop where
  symmetric : ∀ i j, kernel i j = kernel j i
  nonpos :
    ∀ weight : ι → ℝ,
      ∑ i, weight i = 0 →
      ∑ i, ∑ j, weight i * weight j * kernel i j ≤ 0

variable {ι : Type} [Fintype ι] {kernel other : ι → ι → ℝ}

theorem form_mul_left (factor : ℝ) (weight : ι → ℝ) (kernel : ι → ι → ℝ) :
    ∑ i, ∑ j, weight i * weight j * (factor * kernel i j) =
      factor * ∑ i, ∑ j, weight i * weight j * kernel i j := by
  simp only [Finset.mul_sum]
  refine Finset.sum_congr rfl fun i _ => Finset.sum_congr rfl fun j _ => ?_
  ring

theorem form_integral {domain : Set ℝ} {kernel : ℝ → ι → ι → ℝ}
    (integrable : ∀ i j, IntegrableOn (fun t => kernel t i j) domain)
    (weight : ι → ℝ) :
    ∑ i, ∑ j, weight i * weight j * ∫ t in domain, kernel t i j =
      ∫ t in domain, ∑ i, ∑ j, weight i * weight j * kernel t i j := by
  have entry : ∀ i j,
      IntegrableOn (fun t => weight i * weight j * kernel t i j) domain := by
    intro i j
    exact (integrable i j).const_mul _
  rw [integral_finsetSum _ fun i _ => integrable_finsetSum _ fun j _ => entry i j]
  refine Finset.sum_congr rfl fun i _ => ?_
  rw [integral_finsetSum _ fun j _ => entry i j]
  refine Finset.sum_congr rfl fun j _ => ?_
  rw [integral_const_mul]

namespace PositiveKernel

/-! ## Sums and products -/

theorem iff_posSemidef :
    PositiveKernel kernel ↔ (Matrix.of kernel).PosSemidef := by
  have form : ∀ weight : ι → ℝ,
      dotProduct (star weight) (Matrix.mulVec (Matrix.of kernel) weight) =
        ∑ i, ∑ j, weight i * weight j * kernel i j := by
    intro weight
    simp only [dotProduct, Matrix.mulVec, Finset.mul_sum]
    refine Finset.sum_congr rfl fun i _ => Finset.sum_congr rfl fun j _ => ?_
    simp only [Pi.star_apply, star_trivial, Matrix.of_apply]
    ring
  rw [Matrix.posSemidef_iff_dotProduct_mulVec]
  constructor
  · intro positive
    refine ⟨?_, fun weight => ?_⟩
    · ext i j
      simp [positive.symmetric i j]
    · rw [form]
      exact positive.nonneg weight
  · intro positive
    refine ⟨fun i j => ?_, fun weight => ?_⟩
    · have transposed := congrFun (congrFun positive.1 j) i
      simpa using transposed
    · rw [← form]
      exact positive.2 weight

theorem add (left : PositiveKernel kernel) (right : PositiveKernel other) :
    PositiveKernel (fun i j => kernel i j + other i j) := by
  refine ⟨fun i j => by rw [left.symmetric, right.symmetric], fun weight => ?_⟩
  simp only [mul_add, Finset.sum_add_distrib]
  exact add_nonneg (left.nonneg weight) (right.nonneg weight)

/-- The product of two positive kernels is positive, by the theorem of Schur. -/
theorem mul (left : PositiveKernel kernel) (right : PositiveKernel other) :
    PositiveKernel (fun i j => kernel i j * other i j) := by
  rw [iff_posSemidef] at *
  exact left.hadamard right

theorem smul {factor : ℝ} (nonneg : 0 ≤ factor)
    (positive : PositiveKernel kernel) :
    PositiveKernel (fun i j => factor * kernel i j) := by
  refine ⟨fun i j => by rw [positive.symmetric], fun weight => ?_⟩
  rw [form_mul_left]
  exact mul_nonneg nonneg (positive.nonneg weight)

theorem rankOne (vector : ι → ℝ) :
    PositiveKernel (fun i j => vector i * vector j) := by
  refine ⟨fun i j => mul_comm _ _, fun weight => ?_⟩
  have square :
      ∑ i, ∑ j, weight i * weight j * (vector i * vector j) =
        (∑ i, weight i * vector i) ^ 2 := by
    rw [sq, Finset.sum_mul_sum]
    refine Finset.sum_congr rfl fun i _ => Finset.sum_congr rfl fun j _ => ?_
    ring
  rw [square]
  exact sq_nonneg _

theorem pow (positive : PositiveKernel kernel) (n : ℕ) :
    PositiveKernel (fun i j => kernel i j ^ n) := by
  induction n with
  | zero => simpa using rankOne (ι := ι) fun _ => 1
  | succ n inductionHypothesis =>
      simpa [pow_succ] using inductionHypothesis.mul positive

/-! ## Exponentials and integrals -/

theorem partialExp (positive : PositiveKernel kernel) (n : ℕ) :
    PositiveKernel
      (fun i j => ∑ m ∈ Finset.range n, kernel i j ^ m / (m.factorial : ℝ)) := by
  induction n with
  | zero => simpa using rankOne (ι := ι) fun _ => 0
  | succ n inductionHypothesis =>
      simp only [Finset.sum_range_succ]
      apply inductionHypothesis.add
      have nonneg : (0 : ℝ) ≤ 1 / (n.factorial : ℝ) := by positivity
      simpa [div_eq_inv_mul] using (positive.pow n).smul nonneg

theorem exp (positive : PositiveKernel kernel) :
    PositiveKernel (fun i j => Real.exp (kernel i j)) := by
  refine ⟨fun i j => by rw [positive.symmetric], fun weight => ?_⟩
  have limit :
      Filter.Tendsto
        (fun n : ℕ => ∑ i, ∑ j, weight i * weight j *
          ∑ m ∈ Finset.range n, kernel i j ^ m / (m.factorial : ℝ))
        Filter.atTop
        (nhds (∑ i, ∑ j, weight i * weight j * Real.exp (kernel i j))) := by
    refine tendsto_finsetSum _ fun i _ => tendsto_finsetSum _ fun j _ => ?_
    apply Filter.Tendsto.const_mul
    have series := NormedSpace.expSeries_div_hasSum_exp (𝔸 := ℝ) (kernel i j)
    rw [← Real.exp_eq_exp_ℝ] at series
    exact series.tendsto_sum_nat
  exact ge_of_tendsto' limit fun n => (positive.partialExp n).nonneg weight

theorem integral {domain : Set ℝ} (measurable : MeasurableSet domain)
    {kernel : ℝ → ι → ι → ℝ}
    (positive : ∀ t ∈ domain, PositiveKernel (kernel t))
    (integrable : ∀ i j, IntegrableOn (fun t => kernel t i j) domain) :
    PositiveKernel (fun i j => ∫ t in domain, kernel t i j) := by
  refine ⟨fun i j => ?_, fun weight => ?_⟩
  · exact setIntegral_congr_fun measurable fun t member =>
      (positive t member).symmetric i j
  · rw [form_integral integrable]
    exact setIntegral_nonneg measurable fun t member =>
      (positive t member).nonneg weight

end PositiveKernel

namespace NegativeKernel

/-- The form of a kernel with the total weight taken off one index. -/
theorem form_balanced [DecidableEq ι] (kernel : ι → ι → ℝ) (base : ι)
    (weight : ι → ℝ) :
    ∑ i, ∑ j, (weight i - (if i = base then ∑ l, weight l else 0)) *
        (weight j - (if j = base then ∑ l, weight l else 0)) * kernel i j =
      -∑ i, ∑ j, weight i * weight j *
        (kernel i base + kernel base j - kernel i j - kernel base base) := by
  have balance : ∀ values : ι → ℝ,
      ∑ j, (weight j - (if j = base then ∑ l, weight l else 0)) * values j =
        ∑ j, weight j * values j - (∑ l, weight l) * values base := by
    intro values
    simp [sub_mul, Finset.sum_sub_distrib, ite_mul]
  have centered : ∀ i,
      ∑ j, weight j *
          (kernel i base + kernel base j - kernel i j - kernel base base) =
        (∑ l, weight l) * (kernel i base - kernel base base) +
          ∑ j, weight j * kernel base j - ∑ j, weight j * kernel i j := by
    intro i
    rw [Finset.sum_mul, ← Finset.sum_add_distrib, ← Finset.sum_sub_distrib]
    refine Finset.sum_congr rfl fun j _ => ?_
    ring
  simp only [mul_assoc, ← Finset.mul_sum, balance, centered]
  simp only [mul_add, mul_sub, Finset.sum_add_distrib, Finset.sum_sub_distrib,
    ← Finset.sum_mul, mul_left_comm (weight _), ← Finset.mul_sum]
  ring

/-- A kernel is negative only if the exponential of its negative is positive. -/
theorem positiveKernel_exp_neg (negative : NegativeKernel kernel) :
    PositiveKernel (fun i j => Real.exp (-kernel i j)) := by
  classical
  rcases isEmpty_or_nonempty ι with empty | ⟨⟨base⟩⟩
  · exact ⟨fun i => empty.elim i, fun weight => by simp⟩
  · have centered :
        PositiveKernel (fun i j =>
          kernel i base + kernel base j - kernel i j - kernel base base) := by
      refine ⟨fun i j => ?_, fun weight => ?_⟩
      · rw [negative.symmetric i base, negative.symmetric base j,
          negative.symmetric i j]
        ring
      · have balanced :
            ∑ i, (weight i - (if i = base then ∑ l, weight l else 0)) = 0 := by
          simp [Finset.sum_sub_distrib]
        have form := negative.nonpos _ balanced
        rw [form_balanced] at form
        exact neg_nonpos.1 form
    have scaled :=
      (PositiveKernel.rankOne fun i =>
        Real.exp (kernel base base / 2 - kernel i base)).mul centered.exp
    have same : ∀ i j,
        Real.exp (kernel base base / 2 - kernel i base) *
              Real.exp (kernel base base / 2 - kernel j base) *
            Real.exp
              (kernel i base + kernel base j - kernel i j - kernel base base) =
          Real.exp (-kernel i j) := by
      intro i j
      rw [← Real.exp_add, ← Real.exp_add, negative.symmetric base j]
      congr 1
      ring
    simpa only [same] using scaled

end NegativeKernel

end BatchBayes
