import CycleSim.Binary64.Rounding

/-!
# Doubling a double

`double` multiplies by two with integer logic on the bit pattern, as a hardware data path does:
zeros and denormals shift their mantissa, normals bump their exponent, the largest finite exponent
overflows to infinity, infinities and not-a-numbers pass through.  `timesTwo` is the arithmetic
product by 2, rounded from the exact value.  `Class` sorts patterns by the branch of the data path
they take.
-/

namespace CycleSim.Binary64

/-- Twice `x`, computed on the bit pattern.  The shift of a large denormal carries into the
exponent field, which makes it the right normal number. -/
def double (x : Binary64) : Binary64 :=
  if x.exponent = 0 then ⟨x.sign ||| ((x.bits <<< 1) &&& ~~~signMask)⟩
  else if x.exponent = maxExponent then x
  else if x.exponent = maxExponent - 1 then x.infinityLike
  else ⟨x.bits + 0x0010000000000000⟩

/-- Arithmetic product by 2: the double nearest to twice the value. -/
def timesTwo (x : Binary64) : Binary64 :=
  if x.isFinite then withSign x.isNegative (nearest (2 * x.magnitude) 1) else x

/-- What doubling does to a pattern. -/
inductive Class where
  | zero
  | denormal
  | normal
  | overflow
  | infinity
  | nan
  deriving DecidableEq, Repr

/-- All classes. -/
def Class.all : List Class :=
  [.zero, .denormal, .normal, .overflow, .infinity, .nan]

/-- The class of a pattern. -/
def classify (x : Binary64) : Class :=
  if x.exponent = 0 then
    if x.mantissa = 0 then .zero else .denormal
  else if x.exponent = maxExponent then
    if x.mantissa = 0 then .infinity else .nan
  else if x.exponent = maxExponent - 1 then .overflow
  else .normal

end CycleSim.Binary64
