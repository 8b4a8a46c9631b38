/-!
# Units of simulated time

Simulated time is a bare counter; the unit matters only where a time is shown.
-/

namespace CycleSim

/-- Unit of one simulated time step. -/
inductive TimeUnit where
  | second
  | millisecond
  | microsecond
  | nanosecond
  | picosecond
  | femtosecond
  deriving DecidableEq, Repr, Inhabited

namespace TimeUnit

/-- All units, from the coarsest to the finest. -/
def all : List TimeUnit :=
  [second, millisecond, microsecond, nanosecond, picosecond, femtosecond]

/-- Symbol written after a time; it is also the unit's name in configuration files. -/
def symbol : TimeUnit → String
  | second => "s"
  | millisecond => "ms"
  | microsecond => "us"
  | nanosecond => "ns"
  | picosecond => "ps"
  | femtosecond => "fs"

/-- The unit with the given symbol. -/
def ofSymbol? (text : String) : Option TimeUnit :=
  all.find? (·.symbol == text)

/-- A time counter's value with its unit, such as `42ns`. -/
def timeText (unit : TimeUnit) (time : UInt64) : String :=
  toString time.toNat ++ unit.symbol

end TimeUnit

end CycleSim
