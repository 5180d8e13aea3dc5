import BatchBayes.Random.Key
import BatchBayes.Random.Keystream
import BatchBayes.Scalar
/-!
Draws from a keystream. A generator is a value: each draw gives the drawn
value and the generator after it.
-/

namespace BatchBayes

/-- A place in a keystream: the words of the current block that are left, and
the number of the next block. -/
structure Generator where
  cipher : CipherKey
  counter : UInt64
  waiting : List UInt32
deriving DecidableEq, Repr

/-- The generator of a key, at the start of its stream. -/
def Key.generator (key : Key) : Generator :=
  ⟨CipherKey.ofSeed key.word, 0, []⟩

namespace Generator

/-! ## Words -/

/-- The next 32 bits. -/
def next32 (generator : Generator) : UInt32 × Generator :=
  match generator.waiting with
  | word :: words => (word, { generator with waiting := words })
  | [] =>
      let words := generator.cipher.block generator.counter
      (words.headD 0,
        { generator with
          counter := generator.counter + 1
          waiting := words.tail })

/-- The next 64 bits, the low half first. -/
def next64 (generator : Generator) : UInt64 × Generator :=
  let (low, generator) := generator.next32
  let (high, generator) := generator.next32
  ((high.toUInt64 <<< 32) ||| low.toUInt64, generator)

/-! ## Repeated draws -/

/-- Make a draw `count` times. -/
def times {α : Type} (draw : Generator → α × Generator) :
    Nat → Generator → List α × Generator
  | 0, generator => ([], generator)
  | count + 1, generator =>
      let (value, generator) := draw generator
      let (values, generator) := times draw count generator
      (value :: values, generator)

/-- Make a draw for every item of a list, in order. -/
def forEach {α β : Type} (draw : α → Generator → β × Generator) :
    List α → Generator → List β × Generator
  | [], generator => ([], generator)
  | item :: items, generator =>
      let (value, generator) := draw item generator
      let (values, generator) := forEach draw items generator
      (value :: values, generator)

/-! ## Numbers -/

section Numbers

variable {K : Type} [Scalar K]

/-- A multiple of `2 ^ -53`, uniform in `[0, 1)`. -/
def unit (generator : Generator) : K × Generator :=
  let (bits, generator) := generator.next64
  (Scalar.ofNat (bits >>> 11).toNat / Scalar.ofNat 0x20000000000000, generator)

/-- The number of multiples of `2 ^ -52` in the fraction of a draw. -/
def fraction52 (generator : Generator) : K × Generator :=
  let (bits, generator) := generator.next64
  (Scalar.ofNat (bits >>> 12).toNat / Scalar.ofNat 0x10000000000000, generator)

/-- Uniform between `low` and `high`. -/
def between (low high : K) (generator : Generator) : K × Generator :=
  let (value, generator) := fraction52 generator
  (value * (high - low) + low, generator)

end Numbers

/-- An index below `count`, as the whole part of a random multiple of it. Where
the fraction leaves the whole part open, a second word decides the carry. -/
def index (count : Nat) (generator : Generator) : Nat × Generator :=
  let (word, generator) := generator.next32
  let product := word.toNat * count
  let result := product / UInt32.size
  let low := product % UInt32.size
  if UInt32.size - count < low then
    let (second, generator) := generator.next32
    let carry := low + second.toNat * count / UInt32.size
    (if UInt32.size ≤ carry then result + 1 else result, generator)
  else (result, generator)

end Generator

/-- The first uniform draw of a key. -/
def Key.unit {K : Type} [Scalar K] (key : Key) : K :=
  (Generator.unit key.generator).1

end BatchBayes
