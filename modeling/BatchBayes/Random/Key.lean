/-!
Random keys. A key is never used up: whatever needs chance derives a key of
its own, so that the same keys give the same draws.
-/

namespace BatchBayes

/-- A 64-bit random key. -/
structure Key where
  word : UInt64
deriving DecidableEq, Repr

namespace Key

/-- The odd number nearest to `2 ^ 64` over the golden ratio. -/
def goldenGamma : UInt64 := 0x9e3779b97f4a7c15

/-- Scramble a word. Each step can be undone, so no two words meet. -/
def mix (word : UInt64) : UInt64 :=
  let first := (word ^^^ (word >>> 30)) * 0xbf58476d1ce4e5b9
  let second := (first ^^^ (first >>> 27)) * 0x94d049bb133111eb
  second ^^^ (second >>> 31)

/-- The key of a seed. -/
def ofSeed (seed : UInt64) : Key :=
  ⟨mix (seed + goldenGamma)⟩

/-- The child of a key with the number `data`. -/
def fold (key : Key) (data : UInt64) : Key :=
  ⟨mix (key.word ^^^ mix ((data + 1) * goldenGamma))⟩

/-- The first two children: one to keep and one to use. -/
def split (key : Key) : Key × Key :=
  (key.fold 0, key.fold 1)

/-- The first `count` children. -/
def children (key : Key) (count : Nat) : List Key :=
  (List.range count).map fun index => key.fold (UInt64.ofNat index)

end Key

end BatchBayes
