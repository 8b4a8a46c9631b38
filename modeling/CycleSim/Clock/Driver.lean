import CycleSim.Clock.Level

/-!
# The clock driver

A square wave with one edge per tick, so that a clock period spans two ticks.  The driver counts
its edges in a 64-bit word; since the wave starts low, every odd edge is a rising one.
-/

namespace CycleSim

/-- A square-wave generator: the level last produced and the number of edges so far. -/
structure ClockDriver where
  level : Level := .low
  edges : UInt64 := 0
  deriving DecidableEq, Repr, Inhabited

namespace ClockDriver

/-- Produces the next edge. -/
def tick (clock : ClockDriver) : ClockDriver where
  level := clock.level.toggle
  edges := clock.edges + 1

/-- Rising edges among those produced: the odd-numbered ones. -/
def risingEdges (clock : ClockDriver) : UInt64 :=
  (clock.edges + 1) / 2

@[simp] theorem edges_tick (clock : ClockDriver) : clock.tick.edges = clock.edges + 1 := rfl

end ClockDriver

end CycleSim
