import BatchBayes.Proofs.Exact
import BatchBayes.Random.Generator
/-!
Uniform draws stay within their ends.
-/

namespace BatchBayes

/-- The upper bits of a word, as a fraction of the number of their values. -/
theorem upperBits_mem (word shift : UInt64) {count : Nat}
    (values : UInt64.size = 2 ^ (shift.toNat % 64) * count) :
    0 ≤ (Scalar.ofNat (word >>> shift).toNat / Scalar.ofNat count : ℝ) ∧
      (Scalar.ofNat (word >>> shift).toNat / Scalar.ofNat count : ℝ) < 1 := by
  have bits := word.toNat_lt
  have below : (word >>> shift).toNat < count := by
    rw [UInt64.toNat_shiftRight, Nat.shiftRight_eq_div_pow]
    apply Nat.div_lt_of_lt_mul
    rw [← values]
    exact bits
  have positive : (0 : ℝ) < count := by exact_mod_cast Nat.zero_lt_of_lt below
  rw [Scalar.ofNat_real, Scalar.ofNat_real, div_lt_one positive]
  exact ⟨by positivity, by exact_mod_cast below⟩

/-- A draw is never below zero and always below one. -/
theorem Key.unit_real (key : Key) : 0 ≤ (key.unit : ℝ) ∧ (key.unit : ℝ) < 1 :=
  upperBits_mem key.generator.next64.1 11 (by decide)

namespace Generator

theorem fraction52_mem (generator : Generator) :
    0 ≤ (fraction52 generator : ℝ × Generator).1 ∧
      (fraction52 generator : ℝ × Generator).1 < 1 :=
  upperBits_mem generator.next64.1 12 (by decide)

theorem between_mem {low high : ℝ} (ordered : low ≤ high) (generator : Generator) :
    low ≤ (between low high generator).1 ∧ (between low high generator).1 ≤ high := by
  obtain ⟨nonneg, below⟩ := fraction52_mem generator
  have width : 0 ≤ high - low := sub_nonneg.2 ordered
  change
    low ≤ (fraction52 generator : ℝ × Generator).1 * (high - low) + low ∧
      (fraction52 generator : ℝ × Generator).1 * (high - low) + low ≤ high
  generalize (fraction52 generator : ℝ × Generator).1 = place at nonneg below
  constructor <;> nlinarith

end Generator

end BatchBayes
