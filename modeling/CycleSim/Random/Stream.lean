import CycleSim.Random.ChaCha

/-!
# Seeded streams

A seed determines an endless stream of 64-bit words: a congruential generator expands it to a
cipher key, and the words of the key's keystream are taken in pairs, low half first.  A `Stream`
is a seed with the number of words drawn so far, so a draw is a look at one word of a fixed
sequence.
-/

namespace CycleSim

/-- A position in the stream of a seed. -/
structure Stream where
  seed : UInt64
  drawn : Nat := 0
  deriving DecidableEq, Repr, Inhabited

namespace Stream

/-- One step of the generator that expands seeds. -/
def expandStep (state : UInt64) : UInt64 :=
  state * 6364136223846793005 + 11634580027462260723

/-- The key word of a generator state: its bits folded onto the low half and rotated by the top
five bits. -/
def keyWord (state : UInt64) : UInt32 :=
  let folded := (((state >>> 18) ^^^ state) >>> 27).toUInt32
  let amount := (state >>> 59).toUInt32
  (folded >>> amount) ||| (folded <<< ((32 - amount) &&& 31))

/-- The cipher key of a seed: the key words of the eight states after it. -/
def key (seed : UInt64) : ChaCha.Key :=
  Vector.ofFn fun (i : Fin 8) => keyWord (Nat.repeat expandStep (i + 1) seed)

/-- Word number `k` of the stream of a seed, counted from 0. -/
def word (seed : UInt64) (k : Nat) : UInt64 :=
  let block := ChaCha.block (key seed) (UInt64.ofNat (k / 8))
  let place : Fin 16 := ⟨2 * (k % 8), by omega⟩
  let next : Fin 16 := ⟨2 * (k % 8) + 1, by omega⟩
  block[place].toUInt64 ||| (block[next].toUInt64 <<< 32)

/-- The next word. -/
def current (stream : Stream) : UInt64 :=
  word stream.seed stream.drawn

/-- The stream after `n` draws. -/
def advance (stream : Stream) (n : Nat) : Stream :=
  { stream with drawn := stream.drawn + n }

end Stream

end CycleSim
