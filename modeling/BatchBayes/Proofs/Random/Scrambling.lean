import Mathlib
import BatchBayes.Proofs.Random.Draws
/-!
Scrambling can be undone. Every step of it is a bijection of the words, so that different
seeds have different keys, and so do different children of a key and equal children of
different keys.
-/

namespace BatchBayes

namespace Key

/-! ## Steps -/

theorem eq_zero_of_shiftRight_eq {word shift : UInt64} (moves : 0 < shift.toNat % 64)
    (fixed : word >>> shift = word) : word = 0 := by
  have quotient : word.toNat / 2 ^ (shift.toNat % 64) = word.toNat := by
    rw [← Nat.shiftRight_eq_div_pow, ← UInt64.toNat_shiftRight, fixed]
  by_contra nonzero
  have positive : 0 < word.toNat := by
    rw [Nat.pos_iff_ne_zero, Ne, ← UInt64.toNat_zero, UInt64.toNat_inj]
    exact nonzero
  have smaller := Nat.div_lt_self positive (Nat.one_lt_two_pow moves.ne')
  omega

/-- Words that agree with their shifts mixed in differ by a word that is its own shift. -/
theorem xorShift_injective (shift : UInt64) (moves : 0 < shift.toNat % 64) :
    Function.Injective fun word : UInt64 => word ^^^ (word >>> shift) := by
  intro first second same
  have sum : first ^^^ (first >>> shift) = second ^^^ (second >>> shift) := same
  have fixed : (first ^^^ second) >>> shift = first ^^^ second := by
    rw [UInt64.shiftRight_xor, ← UInt64.xor_right_inj first, ← UInt64.xor_assoc, sum,
      UInt64.xor_assoc, UInt64.xor_self, UInt64.xor_zero, ← UInt64.xor_assoc,
      UInt64.xor_self, UInt64.zero_xor]
  exact UInt64.xor_eq_zero_iff.1 (eq_zero_of_shiftRight_eq moves fixed)

/-- A factor with an inverse can be taken out again. All odd factors have one. -/
theorem mul_injective (factor inverse : UInt64) (undone : factor * inverse = 1) :
    Function.Injective fun word : UInt64 => word * factor := by
  intro first second same
  calc
    first = first * factor * inverse := by rw [UInt64.mul_assoc, undone, UInt64.mul_one]
    _ = second * factor * inverse := congrArg (· * inverse) same
    _ = second := by rw [UInt64.mul_assoc, undone, UInt64.mul_one]

theorem mul_goldenGamma_injective :
    Function.Injective fun word : UInt64 => word * goldenGamma :=
  mul_injective _ 0xf1de83e19937733d (by decide)

theorem mix_injective : Function.Injective mix :=
  (xorShift_injective 31 (by decide)).comp <|
    (mul_injective _ 0x319642b2d24d8ec3 (by decide)).comp <|
      (xorShift_injective 27 (by decide)).comp <|
        (mul_injective _ 0x96de1b173f119089 (by decide)).comp <|
          xorShift_injective 30 (by decide)

/-! ## Keys -/

theorem ofSeed_injective : Function.Injective ofSeed := by
  intro first second same
  have words := mix_injective (congrArg Key.word same)
  exact (UInt64.add_left_inj goldenGamma).1 words

theorem fold_injective (key : Key) : Function.Injective key.fold := by
  intro first second same
  have mixed := mix_injective (congrArg Key.word same)
  have scaled := mix_injective ((UInt64.xor_right_inj key.word).1 mixed)
  exact (UInt64.add_left_inj 1).1 (mul_goldenGamma_injective scaled)

theorem fold_left_injective (data : UInt64) :
    Function.Injective fun key : Key => key.fold data := by
  intro first second same
  have mixed := mix_injective (congrArg Key.word same)
  have words := (UInt64.xor_left_inj (mix ((data + 1) * goldenGamma))).1 mixed
  exact congrArg Key.mk words

/-- The numbers of the children fit into a word. -/
theorem nodup_children (key : Key) {count : Nat} (fits : count ≤ 2 ^ 64) :
    (key.children count).Nodup := by
  refine (List.nodup_map_iff_inj_on List.nodup_range).2 ?_
  intro first inFirst second inSecond same
  have firstBelow := List.mem_range.1 inFirst
  have secondBelow := List.mem_range.1 inSecond
  have numbers := congrArg UInt64.toNat (key.fold_injective same)
  rwa [UInt64.toNat_ofNat_of_lt' (firstBelow.trans_le fits),
    UInt64.toNat_ofNat_of_lt' (secondBelow.trans_le fits)] at numbers

theorem children_two (key : Key) : key.children 2 = [key.split.1, key.split.2] := rfl

/-- No two derived keys meet. Scrambling is a bijection of the words, so seeds have keys of
their own, the children of a key differ from each other, and so do the children of one number
of different keys. As many children as there are words are pairwise distinct, the two halves
of a key are its first two children, and more children continue those before them. -/
theorem derived_keys_distinct :
    Function.Bijective mix ∧
    Function.Injective ofSeed ∧
    (∀ key : Key, Function.Injective key.fold) ∧
    (∀ data : UInt64, Function.Injective fun key : Key => key.fold data) ∧
    ∀ key : Key,
      (∀ count ≤ 2 ^ 64, (key.children count).Nodup) ∧
      (∀ count, 2 ≤ count → (key.children count).take 2 = [key.split.1, key.split.2]) ∧
      ∀ few many, few ≤ many → key.children few <+: key.children many := by
  refine ⟨Finite.injective_iff_bijective.1 mix_injective, ofSeed_injective, fold_injective,
    fold_left_injective, fun key => ⟨fun count fits => key.nodup_children fits, ?_, ?_⟩⟩
  · intro count several
    rw [key.children_take several, key.children_two]
  · intro few many fewer
    rw [← key.children_take fewer]
    exact List.take_prefix few _

theorem derived_keys_distinct_of_eight :
    ((ofSeed 1).children 8).Nodup ∧
      ((ofSeed 1).children 8).take 2 = [(ofSeed 1).split.1, (ofSeed 1).split.2] ∧
      (ofSeed 1).children 2 <+: (ofSeed 1).children 8 := by
  obtain ⟨_, _, _, _, each⟩ := derived_keys_distinct
  obtain ⟨distinct, halves, begins⟩ := each (ofSeed 1)
  exact ⟨distinct 8 (by decide), halves 8 (by decide), begins 2 8 (by decide)⟩

end Key

end BatchBayes
