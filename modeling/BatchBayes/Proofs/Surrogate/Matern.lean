import Mathlib
import BatchBayes.Proofs.Surrogate.PositiveKernel
import BatchBayes.Proofs.Surrogate.Process
/-!
The Matérn kernel is positive. Gaussian kernels are, their mixtures give the
square root of a squared distance as a negative kernel, and the Matérn kernel is
a mixture of exponentials of such roots. With noise on the diagonal the
covariance matrix of any points therefore has a factor, without jitter.
-/

namespace BatchBayes

open MeasureTheory Set

/-! ## Square roots as mixtures of exponentials -/

/-- The density of the mixture that gives a square root, at one. -/
noncomputable def rootDensity (t : ℝ) : ℝ :=
  (1 - Real.exp (-t)) / (t * √t)

theorem rootDensity_pos {t : ℝ} (positive : 0 < t) : 0 < rootDensity t := by
  have below : Real.exp (-t) < 1 := by
    rw [Real.exp_lt_one_iff]
    linarith
  have root : 0 < √t := Real.sqrt_pos.2 positive
  exact div_pos (by linarith) (mul_pos positive root)

theorem measurable_rootDensity : Measurable rootDensity := by
  unfold rootDensity
  fun_prop

theorem integrableOn_rootDensity : IntegrableOn rootDensity (Ioi 0) := by
  have near : IntegrableOn rootDensity (Ioc 0 1) := by
    have bound : IntegrableOn (fun t : ℝ => t ^ (-(1 / 2) : ℝ)) (Ioc 0 1) := by
      have interval :=
        intervalIntegral.intervalIntegrable_rpow' (a := 0) (b := 1)
          (r := -(1 / 2)) (by norm_num)
      exact (intervalIntegrable_iff_integrableOn_Ioc_of_le zero_le_one).1 interval
    refine Integrable.mono' bound measurable_rootDensity.aestronglyMeasurable ?_
    refine (ae_restrict_iff' measurableSet_Ioc).2 (.of_forall fun t member => ?_)
    rw [Real.norm_eq_abs, abs_of_pos (rootDensity_pos member.1)]
    have tangent : 1 - Real.exp (-t) ≤ t := by
      have line := Real.add_one_le_exp (-t)
      linarith
    have root : 0 < √t := Real.sqrt_pos.2 member.1
    calc
      rootDensity t ≤ t / (t * √t) :=
        div_le_div_of_nonneg_right tangent (mul_pos member.1 root).le
      _ = (√t)⁻¹ := by
        rw [div_mul_eq_div_div, div_self member.1.ne', one_div]
      _ = t ^ (-(1 / 2) : ℝ) := by
        rw [Real.sqrt_eq_rpow, Real.rpow_neg member.1.le]
  have far : IntegrableOn rootDensity (Ioi 1) := by
    have bound := integrableOn_Ioi_rpow_of_lt (a := -(3 / 2)) (by norm_num) one_pos
    refine Integrable.mono' bound measurable_rootDensity.aestronglyMeasurable ?_
    refine (ae_restrict_iff' measurableSet_Ioi).2 (.of_forall fun t member => ?_)
    have positive : 0 < t := one_pos.trans member
    have root : 0 < √t := Real.sqrt_pos.2 positive
    rw [Real.norm_eq_abs, abs_of_pos (rootDensity_pos positive)]
    calc
      rootDensity t ≤ 1 / (t * √t) :=
        div_le_div_of_nonneg_right (by linarith [Real.exp_pos (-t)])
          (mul_pos positive root).le
      _ = t ^ (-(3 / 2) : ℝ) := by
        rw [Real.sqrt_eq_rpow, ← Real.rpow_one_add' positive.le (by norm_num),
          Real.rpow_neg positive.le, one_div]
        norm_num
  have both := near.union far
  rwa [Ioc_union_Ioi_eq_Ioi zero_le_one] at both

theorem integral_rootDensity_pos : 0 < ∫ t in Ioi (0 : ℝ), rootDensity t := by
  rw [setIntegral_pos_iff_support_of_nonneg_ae]
  · have support : Function.support rootDensity ∩ Ioi 0 = Ioi 0 :=
      inter_eq_right.2 fun t member => (rootDensity_pos member).ne'
    rw [support]
    simp
  · exact (ae_restrict_iff' measurableSet_Ioi).2
      (.of_forall fun t member => (rootDensity_pos member).le)
  · exact integrableOn_rootDensity

section Scaled

variable {s : ℝ} (positive : 0 < s)

include positive

theorem rootDensity_mul {t : ℝ} (member : 0 < t) :
    s * √s * rootDensity (s * t) = (1 - Real.exp (-(t * s))) / (t * √t) := by
  have root : √s ≠ 0 := (Real.sqrt_pos.2 positive).ne'
  have rootMember : √t ≠ 0 := (Real.sqrt_pos.2 member).ne'
  rw [rootDensity, Real.sqrt_mul positive.le, mul_comm t s]
  field_simp

theorem integrableOn_root :
    IntegrableOn (fun t : ℝ => (1 - Real.exp (-(t * s))) / (t * √t)) (Ioi 0) := by
  have scaled :=
    (integrableOn_Ioi_comp_mul_left_iff rootDensity 0 positive).2
      (by simpa using integrableOn_rootDensity)
  exact IntegrableOn.congr_fun (scaled.const_mul (s * √s))
    (fun t member => rootDensity_mul positive member) measurableSet_Ioi

theorem integral_root :
    ∫ t in Ioi (0 : ℝ), (1 - Real.exp (-(t * s))) / (t * √t) =
      √s * ∫ t in Ioi (0 : ℝ), rootDensity t := by
  have scaled := integral_comp_mul_left_Ioi rootDensity 0 positive
  rw [mul_zero, smul_eq_mul] at scaled
  rw [← setIntegral_congr_fun measurableSet_Ioi
      fun t member => rootDensity_mul positive member,
    integral_const_mul, scaled]
  field_simp

end Scaled

variable {ι : Type} [Fintype ι] {kernel : ι → ι → ℝ}

/-- The square root of a kernel is negative if all its multiples give positive
exponentials. -/
theorem NegativeKernel.sqrt (symmetric : ∀ i j, kernel i j = kernel j i)
    (positive : ∀ i j, 0 < kernel i j)
    (exponentials :
      ∀ t, 0 < t → PositiveKernel (fun i j => Real.exp (-(t * kernel i j)))) :
    NegativeKernel (fun i j => √(kernel i j)) := by
  refine ⟨fun i j => by rw [symmetric], fun weight balanced => ?_⟩
  have mixture :
      ∑ i, ∑ j, weight i * weight j * (√(kernel i j) *
          ∫ t in Ioi (0 : ℝ), rootDensity t) =
        ∫ t in Ioi (0 : ℝ), ∑ i, ∑ j, weight i * weight j *
          ((1 - Real.exp (-(t * kernel i j))) / (t * √t)) := by
    rw [← form_integral fun i j => integrableOn_root (positive i j)]
    simp only [integral_root (positive _ _)]
  have nonpos :
      ∫ t in Ioi (0 : ℝ), ∑ i, ∑ j, weight i * weight j *
          ((1 - Real.exp (-(t * kernel i j))) / (t * √t)) ≤ 0 := by
    refine setIntegral_nonpos measurableSet_Ioi fun t member => ?_
    have constants : ∑ i, ∑ j, weight i * weight j = 0 := by
      rw [← Finset.sum_mul_sum, balanced, zero_mul]
    have form := (exponentials t member).nonneg weight
    have scale : 0 ≤ (t * √t)⁻¹ :=
      inv_nonneg.2 (mul_nonneg (le_of_lt member) (Real.sqrt_nonneg t))
    have factored : ∀ i j,
        (1 - Real.exp (-(t * kernel i j))) / (t * √t) =
          (t * √t)⁻¹ * (1 - Real.exp (-(t * kernel i j))) :=
      fun i j => div_eq_inv_mul _ _
    simp only [factored, form_mul_left]
    refine mul_nonpos_of_nonneg_of_nonpos scale ?_
    simp only [mul_sub, mul_one, Finset.sum_sub_distrib, constants]
    linarith
  simp only [mul_comm _ (∫ t in Ioi (0 : ℝ), rootDensity t), form_mul_left]
    at mixture
  rw [← mixture] at nonpos
  exact nonpos_of_mul_nonpos_right nonpos integral_rootDensity_pos

/-! ## The Matérn kernel as a mixture -/

/-- The kernel as a function of the squared distance, in units in which the
exponent is the distance. -/
noncomputable def matern (s : ℝ) : ℝ :=
  (1 + √s + s / 3) * Real.exp (-√s)

theorem integral_matern {s : ℝ} (nonneg : 0 ≤ s) :
    IntegrableOn (fun v => v * Real.exp (-√(s + v))) (Ioi 0) ∧
      ∫ v in Ioi (0 : ℝ), v * Real.exp (-√(s + v)) = 12 * matern s := by
  -- the antiderivative, as a function of the root
  let primitive : ℝ → ℝ := fun q =>
    (2 * s * (q + 1) - 2 * (q ^ 3 + 3 * q ^ 2 + 6 * q + 6)) * Real.exp (-q)
  have outer : ∀ q,
      HasDerivAt primitive (2 * q * (q ^ 2 - s) * Real.exp (-q)) q := by
    intro q
    have cubic :
        HasDerivAt
          (fun q : ℝ => 2 * s * (q + 1) - 2 * (q ^ 3 + 3 * q ^ 2 + 6 * q + 6))
          (2 * s * 1 -
            2 * (((3 : ℕ) * q ^ (3 - 1)) + 3 * ((2 : ℕ) * q ^ (2 - 1)) + 6 * 1))
          q := by
      have linear := ((hasDerivAt_id q).add_const 1).const_mul (2 * s)
      have higher :=
        ((((hasDerivAt_pow 3 q).add ((hasDerivAt_pow 2 q).const_mul 3)).add
          ((hasDerivAt_id q).const_mul 6)).add_const 6).const_mul 2
      exact linear.sub higher
    have decay : HasDerivAt (fun q : ℝ => Real.exp (-q)) (Real.exp (-q) * -1) q :=
      (hasDerivAt_id q).neg.exp
    refine (cubic.mul decay).congr_deriv ?_
    norm_num
    ring
  have derivative : ∀ v ∈ Ioi (0 : ℝ),
      HasDerivAt (fun v => primitive √(s + v)) (v * Real.exp (-√(s + v))) v := by
    intro v member
    have positive : 0 < s + v := add_pos_of_nonneg_of_pos nonneg member
    have inner : HasDerivAt (fun v : ℝ => √(s + v)) (1 / (2 * √(s + v))) v := by
      have shifted := ((hasDerivAt_id v).const_add s).sqrt positive.ne'
      simpa using shifted
    refine ((outer √(s + v)).comp v inner).congr_deriv ?_
    have root : √(s + v) ≠ 0 := (Real.sqrt_pos.2 positive).ne'
    rw [Real.sq_sqrt positive.le]
    field_simp
    ring
  have continuous : ContinuousWithinAt (fun v => primitive √(s + v)) (Ici 0) 0 := by
    apply Continuous.continuousWithinAt
    fun_prop
  have limit :
      Filter.Tendsto (fun v => primitive √(s + v)) Filter.atTop (nhds 0) := by
    have vanishing : Filter.Tendsto primitive Filter.atTop (nhds 0) := by
      have power := fun n : ℕ => Real.tendsto_pow_mul_exp_neg_atTop_nhds_zero n
      have linear := ((power 1).const_mul (2 * s)).add ((power 0).const_mul (2 * s))
      have higher :=
        (((power 3).add ((power 2).const_mul 3)).add
          (((power 1).const_mul 6).add ((power 0).const_mul 6))).const_mul 2
      have difference := linear.sub higher
      simp only [mul_zero, add_zero, sub_zero] at difference
      refine difference.congr fun q => ?_
      simp only [primitive]
      ring
    apply vanishing.comp
    exact Real.tendsto_sqrt_atTop.comp
      (Filter.tendsto_atTop_add_const_left _ s Filter.tendsto_id)
  have integrand : ∀ v ∈ Ioi (0 : ℝ), 0 ≤ v * Real.exp (-√(s + v)) :=
    fun v member => mul_nonneg (le_of_lt member) (Real.exp_pos _).le
  refine ⟨integrableOn_Ioi_deriv_of_nonneg continuous derivative integrand limit, ?_⟩
  rw [integral_Ioi_of_hasDerivAt_of_nonneg continuous derivative integrand limit]
  have square : √s ^ 2 = s := Real.sq_sqrt nonneg
  have cube : √s ^ 3 = s * √s := by rw [pow_succ, square]
  simp only [primitive, matern, add_zero, square, cube]
  ring

/-- The Matérn kernel of a squared distance is positive if the Gaussian kernels
of that distance are. -/
theorem PositiveKernel.matern (symmetric : ∀ i j, kernel i j = kernel j i)
    (nonneg : ∀ i j, 0 ≤ kernel i j)
    (gaussians :
      ∀ t, 0 < t → PositiveKernel (fun i j => Real.exp (-(t * kernel i j)))) :
    PositiveKernel (fun i j => matern (kernel i j)) := by
  have slices : ∀ v ∈ Ioi (0 : ℝ),
      PositiveKernel (fun i j => v * Real.exp (-√(kernel i j + v))) := by
    intro v member
    apply PositiveKernel.smul (le_of_lt member)
    apply NegativeKernel.positiveKernel_exp_neg
    refine NegativeKernel.sqrt (fun i j => by rw [symmetric])
      (fun i j => add_pos_of_nonneg_of_pos (nonneg i j) member) fun t positive => ?_
    have shifted := (gaussians t positive).smul (Real.exp_pos (-(t * v))).le
    have same : ∀ i j,
        Real.exp (-(t * v)) * Real.exp (-(t * kernel i j)) =
          Real.exp (-(t * (kernel i j + v))) := by
      intro i j
      rw [← Real.exp_add]
      congr 1
      ring
    simpa only [same] using shifted
  have mixture :=
    PositiveKernel.integral measurableSet_Ioi slices
      fun i j => (integral_matern (nonneg i j)).1
  simp only [(integral_matern (nonneg _ _)).2] at mixture
  have scaled := mixture.smul (by norm_num : (0 : ℝ) ≤ 1 / 12)
  simpa [← mul_assoc] using scaled

/-! ## Covariances -/

namespace KernelParameters

theorem squaredDistance_nonneg (parameters : KernelParameters ℝ)
    (left right : List ℝ) : 0 ≤ parameters.squaredDistance left right :=
  Scalar.dot_self_nonneg _

theorem squaredDistance_cons (amplitude noise lengthscale x y : ℝ)
    (lengthscales left right : List ℝ) :
    squaredDistance ⟨amplitude, lengthscale :: lengthscales, noise⟩
        (x :: left) (y :: right) =
      ((x - y) / lengthscale) ^ 2 +
        squaredDistance ⟨amplitude, lengthscales, noise⟩ left right := by
  simp only [squaredDistance, List.zipWith_cons_cons, Scalar.dot_cons]
  ring

/-- The Gaussian kernel of a single feature is positive. -/
theorem positiveKernel_gaussian_feature (scale : ℝ) (nonneg : 0 ≤ scale)
    (lengthscale : ℝ) (feature : ι → ℝ) :
    PositiveKernel (fun i j =>
      Real.exp (-(scale * ((feature i - feature j) / lengthscale) ^ 2))) := by
  have products :=
    ((PositiveKernel.rankOne fun i => feature i / lengthscale).smul
      (mul_nonneg zero_le_two nonneg)).exp
  have scaled :=
    (PositiveKernel.rankOne fun i =>
      Real.exp (-(scale * (feature i / lengthscale) ^ 2))).mul products
  have same : ∀ i j,
      Real.exp (-(scale * (feature i / lengthscale) ^ 2)) *
            Real.exp (-(scale * (feature j / lengthscale) ^ 2)) *
          Real.exp
            (2 * scale * (feature i / lengthscale * (feature j / lengthscale))) =
        Real.exp (-(scale * ((feature i - feature j) / lengthscale) ^ 2)) := by
    intro i j
    rw [← Real.exp_add, ← Real.exp_add]
    congr 1
    ring
  simpa only [same] using scaled

/-- The Gaussian kernel of points of one dimension is positive. -/
theorem positiveKernel_gaussian (parameters : KernelParameters ℝ) {scale : ℝ}
    (nonneg : 0 ≤ scale) {point : ι → List ℝ} {dimension : Nat}
    (lengths : ∀ i, (point i).length = dimension) :
    PositiveKernel (fun i j =>
      Real.exp
        (-(scale * parameters.squaredDistance (point i) (point j)))) := by
  obtain ⟨amplitude, lengthscales, noise⟩ := parameters
  induction lengthscales generalizing point dimension with
  | nil =>
      have constant := PositiveKernel.rankOne (ι := ι) fun _ => 1
      simpa [squaredDistance] using constant
  | cons lengthscale lengthscales inductionHypothesis =>
      cases dimension with
      | zero =>
          have empty : ∀ i, point i = [] :=
            fun i => List.eq_nil_of_length_eq_zero (lengths i)
          have constant := PositiveKernel.rankOne (ι := ι) fun _ => 1
          simpa [squaredDistance, empty] using constant
      | succ dimension =>
          have split : ∀ i, point i = (point i).headD 0 :: (point i).tail := by
            intro i
            cases shape : point i with
            | nil => simpa [shape] using lengths i
            | cons x rest => rfl
          have rest :=
            @inductionHypothesis (fun i => (point i).tail) dimension
              fun i => by simp [lengths i]
          have first :=
            positiveKernel_gaussian_feature scale nonneg lengthscale
              fun i => (point i).headD 0
          have same : ∀ i j,
              Real.exp (-(scale *
                    (((point i).headD 0 - (point j).headD 0) / lengthscale) ^ 2)) *
                  Real.exp (-(scale *
                    squaredDistance ⟨amplitude, lengthscales, noise⟩
                      (point i).tail (point j).tail)) =
                Real.exp (-(scale *
                  squaredDistance ⟨amplitude, lengthscale :: lengthscales, noise⟩
                    (point i) (point j))) := by
            intro i j
            rw [split i, split j, squaredDistance_cons, ← Real.exp_add]
            congr 1
            simp only [List.headD_cons, List.tail_cons]
            ring
          simpa only [same] using first.mul rest

theorem covariance_eq_matern (parameters : KernelParameters ℝ)
    (left right : List ℝ) :
    parameters.covariance left right =
      parameters.amplitude *
        matern (5 * parameters.squaredDistance left right) := by
  simp only [covariance, matern, Scalar.sqrt_real, Scalar.exp_real]
  norm_num
  ring

/-- The covariances of points of one dimension make a positive kernel. -/
theorem positiveKernel_covariance {parameters : KernelParameters ℝ}
    (amplitude : 0 ≤ parameters.amplitude) {point : ι → List ℝ} {dimension : Nat}
    (lengths : ∀ i, (point i).length = dimension) :
    PositiveKernel (fun i j => parameters.covariance (point i) (point j)) := by
  simp only [covariance_eq_matern]
  apply PositiveKernel.smul amplitude
  refine PositiveKernel.matern (fun i j => ?_) (fun i j => ?_) fun t positive => ?_
  · rw [squaredDistance_comm]
  · exact mul_nonneg (by norm_num) (squaredDistance_nonneg _ _ _)
  · have scaled :=
      positiveKernel_gaussian parameters
        (mul_nonneg positive.le (by norm_num : (0 : ℝ) ≤ 5)) lengths
    simpa only [mul_assoc] using scaled

end KernelParameters

/-! ## Covariance matrices -/

/-- The form of a matrix of a function of two items, with noise on its
diagonal. -/
theorem LowerHalf.quadratic_ofItems {α : Type} {diagonal : α → ℝ}
    {entry : α → α → ℝ} (symmetric : ∀ left right, entry left right = entry right left)
    (noise : ℝ) (pairs : List (α × ℝ))
    (noisy : ∀ pair ∈ pairs, diagonal pair.1 = entry pair.1 pair.1 + noise) :
    quadratic (ofItems diagonal entry (pairs.map (·.1))) (pairs.map (·.2)) =
      (pairs.map fun left =>
          (pairs.map fun right => left.2 * right.2 * entry left.1 right.1).sum).sum +
        noise * (pairs.map fun pair => pair.2 ^ 2).sum := by
  induction pairs with
  | nil => simp [ofItems, quadratic, product]
  | cons pair pairs inductionHypothesis =>
      have rest :=
        inductionHypothesis fun other member =>
          noisy other (List.mem_cons_of_mem _ member)
      have row : ∀ others : List (α × ℝ),
          Scalar.dot ((others.map (·.1)).map (entry · pair.1)) (others.map (·.2)) *
              pair.2 =
            (others.map fun other =>
              pair.2 * other.2 * entry pair.1 other.1).sum := by
        intro others
        induction others with
        | nil => simp
        | cons other others tail =>
            simp only [List.map_cons, Scalar.dot_cons, List.sum_cons, ← tail,
              symmetric other.1]
            ring
      have column :
          (pairs.map fun left => left.2 * pair.2 * entry left.1 pair.1) =
            pairs.map fun right => pair.2 * right.2 * entry pair.1 right.1 := by
        refine List.map_congr_left fun other _ => ?_
        rw [symmetric other.1]
        ring
      have split : ∀ left : α × ℝ,
          ((pair :: pairs).map fun right =>
              left.2 * right.2 * entry left.1 right.1).sum =
            left.2 * pair.2 * entry left.1 pair.1 +
              (pairs.map fun right =>
                left.2 * right.2 * entry left.1 right.1).sum := by
        intro left
        rw [List.map_cons, List.sum_cons]
      simp only [split]
      rw [List.map_cons, List.map_cons, ofItems,
        quadratic_cons (isTriangular_ofItems _ _ _) (by simp) (by simp), rest,
        noisy pair List.mem_cons_self, List.map_cons, List.map_cons,
        List.sum_cons, List.sum_cons, List.sum_map_add, column, ← row]
      ring

namespace GaussianProcess

theorem rowCovariance_comm (parameters : KernelParameters ℝ)
    (left right : Observation ℝ) :
    rowCovariance parameters left right = rowCovariance parameters right left := by
  rw [rowCovariance, rowCovariance, Bool.and_comm, parameters.covariance_comm]

/-- With noise the covariance matrix of observed rows is positive. -/
theorem positiveDefinite_gram {data : Observations ℝ}
    (complete : data.Complete) {parameters : KernelParameters ℝ}
    (proper : parameters.Proper) :
    (gram data parameters 0).PositiveDefinite := by
  obtain ⟨valid, dimension⟩ := complete
  intro weights lengths nonzero
  rw [gram, LowerHalf.length_ofItems] at lengths
  obtain ⟨pairs, rows, rfl⟩ :
      ∃ pairs : List (Observation ℝ × ℝ),
        pairs.map (·.1) = data.rows ∧ pairs.map (·.2) = weights :=
    ⟨data.rows.zip weights, List.map_fst_zip lengths.ge, List.map_snd_zip lengths.le⟩
  rw [← rows] at valid dimension
  have validPair : ∀ pair ∈ pairs, pair.1.valid = true :=
    fun pair member => valid pair.1 (List.mem_map_of_mem member)
  have noisy : ∀ pair ∈ pairs,
      selfCovariance parameters 0 pair.1 =
        rowCovariance parameters pair.1 pair.1 + parameters.noise := by
    intro pair member
    simp [selfCovariance, rowCovariance, validPair pair member]
  have form :=
    LowerHalf.quadratic_ofItems (rowCovariance_comm parameters) parameters.noise
      pairs noisy
  rw [gram, ← rows, form]
  have lengths : ∀ i : Fin pairs.length,
      pairs[i.val].1.features.length = data.dimension :=
    fun i => dimension _ (List.mem_map_of_mem (List.getElem_mem i.isLt))
  have kernel :=
    KernelParameters.positiveKernel_covariance proper.amplitude_pos.le lengths
  have nonneg :
      0 ≤ (pairs.map fun left =>
        (pairs.map fun right =>
          left.2 * right.2 * rowCovariance parameters left.1 right.1).sum).sum := by
    rw [← Fin.sum_univ_fun_getElem pairs]
    simp only [← Fin.sum_univ_fun_getElem pairs]
    refine (kernel.nonneg fun i => pairs[i.val].2).trans_eq ?_
    refine Finset.sum_congr rfl fun i _ => Finset.sum_congr rfl fun j _ => ?_
    simp [rowCovariance, validPair]
  have squares : 0 < (pairs.map fun pair => pair.2 ^ 2).sum := by
    obtain ⟨weight, member, different⟩ := nonzero
    obtain ⟨pair, inPairs, rfl⟩ := List.mem_map.1 member
    refine lt_of_lt_of_le (pow_pos (abs_pos.2 different) 2) ?_
    rw [sq_abs]
    refine List.single_le_sum ?_ _ (List.mem_map_of_mem inPairs)
    intro square inSquares
    obtain ⟨other, _, rfl⟩ := List.mem_map.1 inSquares
    exact sq_nonneg _
  exact add_pos_of_nonneg_of_pos nonneg (mul_pos proper.noise_pos squares)

/-- With noise observed rows have a factor without jitter. -/
theorem exists_solveRows {data : Observations ℝ} (complete : data.Complete)
    {parameters : KernelParameters ℝ} (proper : parameters.Proper) :
    ∃ factor,
      (gram data parameters 0).cholesky? = some factor ∧
        solveRows data parameters =
          .ok ⟨parameters, data, some ⟨factor, factor.solve (labels data)⟩⟩ := by
  have positive := positiveDefinite_gram complete proper
  have found : (gram data parameters 0).cholesky?.isSome :=
    (LowerHalf.cholesky?_isSome_iff (LowerHalf.isTriangular_ofItems _ _ _)).2
      positive
  obtain ⟨factor, success⟩ := Option.isSome_iff_exists.1 found
  have least : factor? data parameters = some factor := by
    simp [factor?, jitters, success]
  refine ⟨factor, success, ?_⟩
  rw [solveRows, least]

end GaussianProcess

end BatchBayes
