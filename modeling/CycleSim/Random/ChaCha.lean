/-!
# The ChaCha keystream with eight rounds

A block of sixteen 32-bit words is made from a 256-bit key and a block number: four constants, the
key, the number and two zero words are mixed by four double rounds and added to themselves.
-/

namespace CycleSim.ChaCha

/-- Sixteen words: the state of the cipher, or a block of its keystream. -/
abbrev Block := Vector UInt32 16

/-- Eight words. -/
abbrev Key := Vector UInt32 8

/-- Rotation to the left; the amount lies between 1 and 31. -/
def rotateLeft (x amount : UInt32) : UInt32 :=
  (x <<< amount) ||| (x >>> (32 - amount))

/-- Mixes the words at four places. -/
def quarterRound (s : Block) (a b c d : Fin 16) : Block :=
  let s := s.set a (s[a] + s[b])
  let s := s.set d (rotateLeft (s[d] ^^^ s[a]) 16)
  let s := s.set c (s[c] + s[d])
  let s := s.set b (rotateLeft (s[b] ^^^ s[c]) 12)
  let s := s.set a (s[a] + s[b])
  let s := s.set d (rotateLeft (s[d] ^^^ s[a]) 8)
  let s := s.set c (s[c] + s[d])
  s.set b (rotateLeft (s[b] ^^^ s[c]) 7)

/-- Mixes the columns and then the diagonals. -/
def doubleRound (s : Block) : Block :=
  let s := quarterRound s 0 4 8 12
  let s := quarterRound s 1 5 9 13
  let s := quarterRound s 2 6 10 14
  let s := quarterRound s 3 7 11 15
  let s := quarterRound s 0 5 10 15
  let s := quarterRound s 1 6 11 12
  let s := quarterRound s 2 7 8 13
  quarterRound s 3 4 9 14

/-- The state before mixing.  The constants spell `expand 32-byte k`. -/
def initial (key : Key) (number : UInt64) : Block :=
  #v[0x61707865, 0x3320646e, 0x79622d32, 0x6b206574,
     key[0], key[1], key[2], key[3], key[4], key[5], key[6], key[7],
     number.toUInt32, (number >>> 32).toUInt32, 0, 0]

/-- A block of the keystream. -/
def block (key : Key) (number : UInt64) : Block :=
  let start := initial key number
  let mixed := doubleRound (doubleRound (doubleRound (doubleRound start)))
  Vector.zipWith (· + ·) start mixed

end CycleSim.ChaCha
