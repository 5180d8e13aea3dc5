/-!
The ChaCha stream cipher with eight rounds, as a source of 32-bit words.
-/

namespace BatchBayes

/-- Four words side by side: one row of the cipher's state. -/
structure Quad where
  first : UInt32
  second : UInt32
  third : UInt32
  fourth : UInt32
deriving DecidableEq, Repr

namespace Quad

def zip (operation : UInt32 → UInt32 → UInt32) (left right : Quad) : Quad :=
  ⟨operation left.first right.first, operation left.second right.second,
    operation left.third right.third, operation left.fourth right.fourth⟩

def add : Quad → Quad → Quad := zip (· + ·)

/-- Exclusive or of two rows, with every word turned left by `bits`. -/
def turn (bits : UInt32) : Quad → Quad → Quad :=
  zip fun left right =>
    let mixed := left ^^^ right
    (mixed <<< bits) ||| (mixed >>> (32 - bits))

/-- Move every word one place to the left, the first one to the end. -/
def shift (row : Quad) : Quad :=
  ⟨row.second, row.third, row.fourth, row.first⟩

def words (row : Quad) : List UInt32 :=
  [row.first, row.second, row.third, row.fourth]

end Quad

/-- The cipher's state, four rows of four words. -/
structure CipherState where
  top : Quad
  upper : Quad
  lower : Quad
  bottom : Quad
deriving DecidableEq, Repr

namespace CipherState

/-- One quarter round in each of the four columns. -/
def columnRound (state : CipherState) : CipherState :=
  let top := state.top.add state.upper
  let bottom := state.bottom.turn 16 top
  let lower := state.lower.add bottom
  let upper := state.upper.turn 12 lower
  let top := top.add upper
  let bottom := bottom.turn 8 top
  let lower := lower.add bottom
  let upper := upper.turn 7 lower
  ⟨top, upper, lower, bottom⟩

/-- One quarter round in each of the four diagonals. -/
def diagonalRound (state : CipherState) : CipherState :=
  let mixed := columnRound
    ⟨state.top, state.upper.shift, state.lower.shift.shift,
      state.bottom.shift.shift.shift⟩
  ⟨mixed.top, mixed.upper.shift.shift.shift, mixed.lower.shift.shift,
    mixed.bottom.shift⟩

/-- A round of the columns and one of the diagonals. -/
def doubleRound (state : CipherState) : CipherState :=
  state.columnRound.diagonalRound

def add (left right : CipherState) : CipherState :=
  ⟨left.top.add right.top, left.upper.add right.upper,
    left.lower.add right.lower, left.bottom.add right.bottom⟩

def words (state : CipherState) : List UInt32 :=
  state.top.words ++ state.upper.words ++ state.lower.words ++ state.bottom.words

end CipherState

/-- A 256-bit cipher key in two rows. -/
structure CipherKey where
  upper : Quad
  lower : Quad
deriving DecidableEq, Repr

namespace CipherKey

/-- One word drawn from a linear congruential state, and the next state. -/
def seedWord (state : UInt64) : UInt32 × UInt64 :=
  let next := state * 6364136223846793005 + 11634580027462260723
  let mixed := (((next >>> 18) ^^^ next) >>> 27).toUInt32
  let bits := (next >>> 59).toUInt32
  ((mixed >>> bits) ||| (mixed <<< ((32 - bits) % 32)), next)

/-- The cipher key grown from a 64-bit seed. -/
def ofSeed (seed : UInt64) : CipherKey :=
  let row := fun (state : UInt64) =>
    let (first, state) := seedWord state
    let (second, state) := seedWord state
    let (third, state) := seedWord state
    let (fourth, state) := seedWord state
    ((⟨first, second, third, fourth⟩ : Quad), state)
  let (upper, state) := row seed
  let (lower, _) := row state
  ⟨upper, lower⟩

/-- The sixteen words of the keystream block with the number `counter`. -/
def block (key : CipherKey) (counter : UInt64) : List UInt32 :=
  let start : CipherState :=
    { top := ⟨0x61707865, 0x3320646e, 0x79622d32, 0x6b206574⟩
      upper := key.upper
      lower := key.lower
      bottom := ⟨counter.toUInt32, (counter >>> 32).toUInt32, 0, 0⟩ }
  (start.add start.doubleRound.doubleRound.doubleRound.doubleRound).words

end CipherKey

end BatchBayes
