/-!
# Binary floating point, 64 bits

A double is handled as its bit pattern: a sign bit, eleven exponent bits and fifty-two mantissa
bits.  The all-ones exponent holds the infinities (mantissa 0) and the not-a-numbers, exponent 0
the zeros and the denormals.
-/

namespace CycleSim

/-- A bit pattern of a 64-bit binary floating-point number. -/
structure Binary64 where
  bits : UInt64
  deriving DecidableEq, Repr, Inhabited

namespace Binary64

/-- The sign bit alone. -/
def signMask : UInt64 := 0x8000000000000000

/-- The exponent bits alone. -/
def exponentMask : UInt64 := 0x7ff0000000000000

/-- The mantissa bits alone. -/
def mantissaMask : UInt64 := 0x000fffffffffffff

/-- Exponent field of the infinities and not-a-numbers. -/
def maxExponent : UInt64 := 0x7ff

/-- The sign bit, in place. -/
def sign (x : Binary64) : UInt64 :=
  x.bits &&& signMask

/-- The exponent field. -/
def exponent (x : Binary64) : UInt64 :=
  (x.bits &&& exponentMask) >>> 52

/-- The mantissa field. -/
def mantissa (x : Binary64) : UInt64 :=
  x.bits &&& mantissaMask

/-- Whether the sign bit is set. -/
def isNegative (x : Binary64) : Bool :=
  x.sign != 0

/-- Whether the pattern is a not-a-number. -/
def isNaN (x : Binary64) : Bool :=
  x.exponent == maxExponent && x.mantissa != 0

/-- Whether the pattern is an infinity. -/
def isInfinite (x : Binary64) : Bool :=
  x.exponent == maxExponent && x.mantissa == 0

/-- Whether the pattern is a number. -/
def isFinite (x : Binary64) : Bool :=
  x.exponent != maxExponent

/-- Whether the pattern is one of the two zeros. -/
def isZero (x : Binary64) : Bool :=
  x.exponent == 0 && x.mantissa == 0

/-- The infinity with the sign of `x`. -/
def infinityLike (x : Binary64) : Binary64 :=
  ⟨x.sign ||| exponentMask⟩

/-- Magnitude of a finite pattern in units of `2 ^ (-1074)`, the least positive double. -/
def magnitude (x : Binary64) : Nat :=
  if x.exponent = 0 then x.mantissa.toNat
  else (Nat.pow 2 52 + x.mantissa.toNat) * Nat.pow 2 (x.exponent.toNat - 1)

end Binary64

end CycleSim
