import CycleSim.Binary64.Rounding
import CycleSim.Decimal.Basic

/-!
# Shortest and fixed-place decimals of doubles

Every double owns an interval of reals that round to it.  `shortest` finds the coarsest grid of
powers of ten with a point in that interval, and on it the point nearest to the double: the fewest
digits that read back, and of those the closest ones.  `fixed` rounds the exact value to a number
of places.
-/

namespace CycleSim.Binary64

/-- The reals that round to a finite positive double, in quarters of the least positive double. -/
structure RoundingInterval where
  low : Nat
  value : Nat
  high : Nat
  /-- Whether the two ends round to the double too. -/
  closed : Bool
  deriving Repr

/-- The rounding interval of a finite double's magnitude.  Half of the gap to either neighbour
belongs to it; below a power of two the gap is half as wide. -/
def roundingInterval (x : Binary64) : RoundingInterval :=
  let gap := Nat.pow 2 (x.exponent.toNat - 1)
  let value := 4 * x.magnitude
  { low := value - (if x.mantissa = 0 ∧ 1 < x.exponent then gap else 2 * gap)
    value
    high := value + 2 * gap
    closed := x.mantissa % 2 = 0 }

/-- The point nearest to the interval's value among those on the grid of `10 ^ power` that lie in
the interval; two points at the same distance are told apart by the tie rule. -/
def RoundingInterval.gridPoint? (interval : RoundingInterval) (tie : Tie) (power : Int) :
    Option Decimal :=
  let scale := Nat.pow 10 (-power).toNat
  let step := 4 * unitsPerOne * Nat.pow 10 power.toNat
  let value := interval.value * scale
  let inside (point : Nat) : Bool :=
    if interval.closed then interval.low * scale ≤ point && point ≤ interval.high * scale
    else interval.low * scale < point && point < interval.high * scale
  let below := value / step
  let nearer := roundQuotient tie value step
  let other := if nearer = below then below + 1 else below
  if inside (nearer * step) then some ⟨nearer, power⟩
  else if inside (other * step) then some ⟨other, power⟩
  else none

/-- Searches `count` grids, from `10 ^ power` downwards. -/
def RoundingInterval.search (interval : RoundingInterval) (tie : Tie) : Nat → Int → Decimal
  | 0, power => ⟨0, power⟩
  | count + 1, power =>
    match interval.gridPoint? tie power with
    | some point => point
    | none => search interval tie count (power - 1)

/-- The shortest decimal that reads back as the magnitude of a finite double.  Doubles lie below
`10 ^ 309`, and the grid of `10 ^ (-324)` is finer than that of the doubles. -/
def shortest (tie : Tie) (x : Binary64) : Decimal :=
  if x.isZero then ⟨0, 0⟩ else x.roundingInterval.search tie 634 309

/-- Text of a double that is not finite. -/
def specialText (x : Binary64) : String :=
  if x.isNaN then "NaN" else if x.isNegative then "-inf" else "inf"

/-- The exact value rounded to a number of places, a half going to the even neighbour. -/
def fixed (places : Nat) (x : Binary64) : String :=
  if x.isFinite then
    (if x.isNegative then "-" else "") ++
      Decimal.placesText
        (roundQuotient .toEven (x.magnitude * Nat.pow 10 places) unitsPerOne) places
  else x.specialText

/-- Positional notation of the shortest decimal, a tie going up. -/
def positional (x : Binary64) : String :=
  if x.isFinite then
    (if x.isNegative then "-" else "") ++ (x.shortest .up).positional
  else x.specialText

end CycleSim.Binary64
