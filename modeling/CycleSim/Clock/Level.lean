/-!
# Clock levels

The simulated design has a single one-bit clock input.  `Level` keeps its value apart from bare
booleans; the clock toggles with `Level.toggle`.
-/

namespace CycleSim

/-- Logic level of the clock input. -/
inductive Level where
  /-- Logical 0; every clock rests here before its first edge. -/
  | low
  /-- Logical 1. -/
  | high
  deriving DecidableEq, Repr, Inhabited

namespace Level

/-- Whether the level is logical 1. -/
def isHigh : Level → Bool
  | low => false
  | high => true

/-- Whether the level is logical 0. -/
def isLow (level : Level) : Bool :=
  !level.isHigh

/-- The opposite level. -/
def toggle : Level → Level
  | low => high
  | high => low

/-- The level that a boolean stands for. -/
def ofBool : Bool → Level
  | false => low
  | true => high

/-- The binary digit shown for a level. -/
def digit : Level → Char
  | low => '0'
  | high => '1'

end Level

end CycleSim
