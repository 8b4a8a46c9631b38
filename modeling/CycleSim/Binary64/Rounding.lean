import CycleSim.Binary64.Basic

/-!
# Rounding to doubles

Every arithmetic result is an exact rational rounded once.  `roundQuotient` is the rounding of a
quotient of naturals to the nearest natural; `nearest` applies it on the grid of doubles, which is
uniform below `2 ^ 53` units of the least positive double and doubles its spacing at every further
power of two.  Because the grid's patterns are consecutive, a mantissa that rounds up to the next
power of two carries into the exponent by plain addition.
-/

namespace CycleSim

/-- Where an exact half is rounded to. -/
inductive Tie where
  /-- To the even neighbour. -/
  | toEven
  /-- To the larger neighbour. -/
  | up
  deriving DecidableEq, Repr

/-- The natural nearest to `num / den`; the tie rule decides an exact half. -/
def roundQuotient (tie : Tie) (num den : Nat) : Nat :=
  let q := num / den
  let twice := 2 * (num % den)
  if den < twice then q + 1
  else if twice < den then q
  else match tie with
    | .toEven => if q % 2 = 0 then q else q + 1
    | .up => q + 1

namespace Binary64

/-- Width of the grid of doubles at magnitude `units`, as a power of two of the least positive
double. -/
def spacing (units : Nat) : Nat :=
  if units < Nat.pow 2 53 then 0 else units.log2 - 52

/-- The non-negative double nearest to `num / den` units of the least positive double, an exact
half going to the even mantissa; magnitudes past the largest finite double become infinite. -/
def nearest (num den : Nat) : Binary64 :=
  let k := spacing (num / den)
  let bits := k * Nat.pow 2 52 + roundQuotient .toEven num (den * Nat.pow 2 k)
  ⟨UInt64.ofNat (min bits exponentMask.toNat)⟩

/-- The pattern `x` with the sign bit set if `negative`. -/
def withSign (negative : Bool) (x : Binary64) : Binary64 :=
  if negative then ⟨x.bits ||| signMask⟩ else x

/-- The canonical not-a-number. -/
def nan : Binary64 :=
  ⟨0x7ff8000000000000⟩

/-- Positive infinity. -/
def infinity : Binary64 :=
  ⟨exponentMask⟩

/-- Units of the least positive double in the number 1, a power of two. -/
def unitsPerOne : Nat :=
  Nat.pow 2 1074

/-- The double nearest to a natural number. -/
def ofNat (n : Nat) : Binary64 :=
  nearest (n * unitsPerOne) 1

/-- The double nearest to the decimal number `digits · 10 ^ exponent`.  Numbers that are far above
the largest double or far below the least one are told from their power of ten alone. -/
def ofDecimal (digits : Nat) (exponent : Int) : Binary64 :=
  let power := exponent + (Nat.toDigits 10 digits).length
  if digits = 0 ∨ power < -330 then ⟨0⟩
  else if 310 < power then infinity
  else if 0 ≤ exponent then nearest (digits * Nat.pow 10 exponent.toNat * unitsPerOne) 1
  else nearest (digits * unitsPerOne) (Nat.pow 10 (-exponent).toNat)

/-- Product of two doubles, rounded once. -/
def mul (x y : Binary64) : Binary64 :=
  let negative := x.isNegative != y.isNegative
  if x.isNaN then x
  else if y.isNaN then y
  else if x.isInfinite || y.isInfinite then
    if x.isZero || y.isZero then nan else withSign negative infinity
  else withSign negative (nearest (x.magnitude * y.magnitude) unitsPerOne)

/-- Quotient of two doubles, rounded once. -/
def div (x y : Binary64) : Binary64 :=
  let negative := x.isNegative != y.isNegative
  if x.isNaN then x
  else if y.isNaN then y
  else if x.isInfinite then
    if y.isInfinite then nan else withSign negative infinity
  else if y.isInfinite then withSign negative ⟨0⟩
  else if y.isZero then
    if x.isZero then nan else withSign negative infinity
  else withSign negative (nearest (x.magnitude * unitsPerOne) y.magnitude)

/-- Whether the pattern is a number above zero or positive infinity. -/
def isPositive (x : Binary64) : Bool :=
  !x.isNegative && !x.isZero && !x.isNaN

end Binary64

end CycleSim
