import CycleSim.Model.Basic

/-!
# The counter

A register of up to 64 bits that goes up by one at every rising edge, wrapping to 0, and reports
that it has finished after a number of cycles.  The register has no reset, so its first value comes
from the reset policy.
-/

namespace CycleSim

/-- A free-running counter. -/
structure Counter where
  /-- The bits of the register. -/
  mask : UInt64
  /-- The register. -/
  value : UInt64
  clock : Level := .low
  /-- The level at the evaluation before. -/
  previousClock : Level := .low
  /-- Rising edges counted so far. -/
  cycles : UInt64 := 0
  /-- Rising edges after which the counter has finished. -/
  finishAfter : UInt64
  deriving DecidableEq, Repr

namespace Counter

/-- Coverage point of the counted edges. -/
def edgePoint : String := "counter.rising_edge"

/-- Coverage point of the steps from the greatest value to 0. -/
def wrapPoint : String := "counter.wrap"

/-- Builds a counter of `width` bits, which draws its first value. -/
def build (ctx : Context) (width : UInt32) (finishAfter : UInt64) : Counter × Context :=
  let (value, ctx) := (ctx.record [.declare edgePoint, .declare wrapPoint]).drawRegister width
  ({ mask := widthMask width, value, finishAfter }, ctx)

/-- Whether the counter has counted all its cycles. -/
def finished (counter : Counter) : Bool :=
  counter.finishAfter ≤ counter.cycles

/-- One time step: a rising edge is counted until the counter has finished. -/
def evaluate (counter : Counter) : Evaluation Counter :=
  let sampled := { counter with previousClock := counter.clock }
  if counter.previousClock.rises counter.clock && !counter.finished then
    let value := (counter.value + 1) &&& counter.mask
    { model := { sampled with value, cycles := counter.cycles + 1 }
      events := .hit edgePoint :: if value = 0 then [.hit wrapPoint] else [] }
  else { model := sampled }

instance : DeviceModel Counter where
  name _ := "counter"
  setClock level counter := { counter with clock := level }
  evaluate _ counter := counter.evaluate
  finalize counter := (.ok (), counter)
  finished := finished

end Counter

end CycleSim
