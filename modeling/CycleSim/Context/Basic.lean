import CycleSim.Context.PlusArg
import CycleSim.Coverage.Database
import CycleSim.Random.Stream

/-!
# The context of a run

The settings a run ends up with after its arguments, and the state that the loop and the device
model share: simulated time, the stop latch, the coverage database and the stream behind random
register values.  Time and the latch are the loop's to change.  A device model sees the whole
context but changes only the database and the stream, through `record` and `skipDraws`.
-/

namespace CycleSim

/-- Settings and shared state of a run. -/
structure Context where
  debugLevel : UInt32
  resetPolicy : ResetPolicy
  stream : Stream
  timeUnit : TimeUnit
  /-- The coverage database, if coverage is collected. -/
  coverage : Option Coverage.Database
  /-- The arguments, as given. -/
  args : List String
  time : UInt64 := 0
  /-- Whether the model has once reported that it finished. -/
  stopRequested : Bool := false
  deriving DecidableEq, Repr, Inhabited

/-- The lowest `width` bits; widths above 64 count as 64. -/
def widthMask (width : UInt32) : UInt64 :=
  if 64 ≤ width then 0xffffffffffffffff else (1 <<< width.toUInt64) - 1

namespace Context

/-- The context at the start of a run. -/
def build (general : GeneralSettings) (coverage : CoverageSettings) (args : List String) :
    Except ConfigError Context := do
  let settings ← general.overrideAll args
  .ok { debugLevel := settings.debugLevel
        resetPolicy := settings.resetPolicy
        stream := { seed := settings.seed }
        timeUnit := settings.timeUnit
        coverage := if coverage.enabled then some default else none
        args }

/-- Seed of the random register values. -/
def seed (ctx : Context) : UInt64 :=
  ctx.stream.seed

/-- Simulated time with its unit. -/
def timeText (ctx : Context) : String :=
  ctx.timeUnit.timeText ctx.time

/-- The context one time step later. -/
def advanceTime (ctx : Context) : Context :=
  { ctx with time := ctx.time + 1 }

/-- The context after a look at the model's finished indicator: once set, the latch stays. -/
def latch (ctx : Context) (finished : Bool) : Context :=
  { ctx with stopRequested := ctx.stopRequested || finished }

/-- The remainder of the first argument that begins with a plus sign and `start`. -/
def plusArg? (ctx : Context) (start : String) : Option String :=
  (ctx.args.filterMap (stripStart? "+")).findSome? (stripStart? start)

/-- The context after coverage events, which are dropped if coverage is not collected. -/
def record (ctx : Context) (events : List Coverage.Event) : Context :=
  { ctx with coverage := ctx.coverage.map (·.recordAll events) }

/-- The context after `n` register draws; only the random policy moves the stream. -/
def skipDraws (ctx : Context) (n : Nat) : Context :=
  match ctx.resetPolicy with
  | .random => { ctx with stream := ctx.stream.advance n }
  | _ => ctx

/-- First value of an undriven register of `width` bits, the next to be drawn. -/
def registerBits (ctx : Context) (width : UInt32) : UInt64 :=
  match ctx.resetPolicy with
  | .zeros => 0
  | .ones => widthMask width
  | .random => ctx.stream.current &&& widthMask width

/-- Draws the first value of an undriven register of `width` bits. -/
def drawRegister (ctx : Context) (width : UInt32) : UInt64 × Context :=
  (ctx.registerBits width, ctx.skipDraws 1)

end Context

end CycleSim
