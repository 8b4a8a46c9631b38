import CycleSim.Clock.Driver
import CycleSim.Loop.Host
import CycleSim.Model.Basic
import CycleSim.Stats.Basic

/-!
# The simulation loop

One step of the loop looks for the stop condition first.  While the design runs on, the step moves
time by one unit, toggles the clock into the model and evaluates it.  The first step that finds the
stop latch set, or the model finished, shuts down instead: the model is finalized and the coverage
file written, and the loop is stopped for good, whether or not the shutdown succeeds.

A step acts on a `Bench`: the loop together with its host and the medium that its coverage file is
written on.
-/

namespace CycleSim

/-- What a build of the program can do. -/
structure Build where
  /-- Whether coverage files are written. -/
  coverage : Bool := true
  deriving DecidableEq, Repr, Inhabited

/-- Lifecycle of a loop. -/
inductive LoopState where
  /-- Steps evaluate the model. -/
  | running
  /-- The shutdown has been made or attempted; terminal. -/
  | stopped
  deriving DecidableEq, Repr

/-- A run of one model. -/
structure Loop (σ : Type) where
  build : Build
  context : Context
  model : σ
  clock : ClockDriver
  state : LoopState
  /-- Bound on the ticks, if any. -/
  maxTicks : Option UInt64
  /-- Where the coverage file goes. -/
  coveragePath : String
  stats : RunStats

/-- A loop with its host and the medium of its coverage file. -/
structure Bench (σ : Type) where
  loop : Loop σ
  host : Host
  medium : Medium := {}

namespace Loop

variable {σ : Type} [DeviceModel σ]

/-- A loop in its initial state; the model's clock input is driven low. -/
def new (build : Build) (context : Context) (model : σ) : Loop σ where
  build
  context
  model := DeviceModel.setClock Level.low model
  clock := {}
  state := .running
  maxTicks := none
  coveragePath := Path.join "logs" coverageFile
  stats := { model := DeviceModel.name model, timeUnit := context.timeUnit }

/-- The loop with another bound on its ticks. -/
def withMaxTicks (loop : Loop σ) (limit : Option UInt64) : Loop σ :=
  { loop with maxTicks := limit }

/-- The loop with another place for the coverage file. -/
def withCoveragePath (loop : Loop σ) (path : String) : Loop σ :=
  { loop with coveragePath := path }

/-- The bound that the next tick would pass, if there is one. -/
def exceededLimit? (loop : Loop σ) : Option UInt64 :=
  loop.maxTicks.filter (· ≤ loop.stats.ticks)

/-- The loop after the clock edge of a tick, before the evaluation. -/
def edge (loop : Loop σ) : Loop σ :=
  let clock := loop.clock.tick
  { loop with
    context := loop.context.advanceTime
    clock
    model := DeviceModel.setClock clock.level loop.model }

/-- The loop after a tick, with the outcome of the model's evaluation.  Only a successful one
counts in the statistics. -/
def tick (loop : Loop σ) : Except SimError Unit × Loop σ :=
  let loop := loop.edge
  let evaluation := DeviceModel.evaluate loop.context loop.model
  let loop := { loop with context := loop.context.absorb evaluation, model := evaluation.model }
  match evaluation.result with
  | .error cause => (.error cause, loop)
  | .ok () =>
    (.ok (), { loop with
      stats := { loop.stats with
        ticks := loop.stats.ticks + 1
        cycles := loop.clock.risingEdges
        simTime := loop.context.time } })

end Loop

namespace Bench

variable {σ : Type} [DeviceModel σ]

/-- Looks whether the run is asked to stop; the model's indicator is latched. -/
def checkFinished (bench : Bench σ) : Bool × Bench σ :=
  let loop := bench.loop
  let finished := DeviceModel.finished loop.model
  let context := loop.context.latch finished
  let host := if !loop.context.stopRequested && finished then
      bench.host.report (.finishSignalled (DeviceModel.name loop.model) loop.context.timeText)
    else bench.host
  (context.stopRequested, { bench with loop := { loop with context }, host })

/-- Writes the coverage file, in a build and a context with coverage, and counts its points. -/
def writeCoverage (bench : Bench σ) : Except SimError Unit × Bench σ :=
  match bench.loop.build.coverage, bench.loop.context.coverage with
  | true, some db =>
    let path := bench.loop.coveragePath
    match bench.host.store bench.medium path db with
    | (.error cause, host) => (.error (.coverageWrite path cause), { bench with host })
    | (.ok (), host) =>
      let host := host.report (.coverageWritten path db.size db.covered)
      let stats := { bench.loop.stats with
        coveragePoints := db.size
        coverageCovered := db.covered }
      (.ok (), { bench with loop := { bench.loop with stats }, host })
  | _, _ => (.ok (), bench)

/-- Marks a shutdown that has succeeded. -/
def conclude (bench : Bench σ) : Bench σ :=
  let loop := bench.loop
  let stats := { loop.stats with finished := true }
  { bench with
    loop := { loop with stats }
    host := bench.host.report
      (.runFinished (DeviceModel.name loop.model) loop.context.timeText loop.stats.ticks) }

/-- Stops the loop: finalizes the model and writes coverage.  The loop is stopped even if one of
the two fails. -/
def shutdown (bench : Bench σ) : Except SimError Unit × Bench σ :=
  let (result, model) := DeviceModel.finalize bench.loop.model
  let bench := { bench with loop := { bench.loop with state := .stopped, model } }
  match result with
  | .error cause => (.error cause, bench)
  | .ok () =>
    match bench.writeCoverage with
    | (.error cause, bench) => (.error cause, bench)
    | (.ok (), bench) => (.ok (), bench.conclude)

/-- One step of the loop: a shutdown if the run is asked to stop, a refusal at the tick limit, a
tick otherwise. -/
def step (bench : Bench σ) : Except SimError LoopState × Bench σ :=
  match bench.loop.state with
  | .stopped => (.ok .stopped, bench)
  | .running =>
    match bench.checkFinished with
    | (true, bench) =>
      match bench.shutdown with
      | (.error cause, bench) => (.error cause, bench)
      | (.ok (), bench) => (.ok .stopped, bench)
    | (false, bench) =>
      match bench.loop.exceededLimit? with
      | some limit => (.error (.tickLimitExceeded limit), bench)
      | none =>
        let edge := bench.loop.edge
        let host := bench.host.report (.ticked edge.context.time edge.clock.level)
        match bench.loop.tick with
        | (.error cause, loop) => (.error cause, { bench with loop, host })
        | (.ok (), loop) => (.ok .running, { bench with loop, host })

/-- Steps until the loop stops or a step fails; `none` if that takes more than `bound` steps. -/
def stepsWithin : Nat → Bench σ → Option (Except SimError RunStats × Bench σ)
  | 0, _ => none
  | bound + 1, bench =>
    match bench.step with
    | (.error cause, bench) => some (.error cause, bench)
    | (.ok .stopped, bench) => some (.ok bench.loop.stats, bench)
    | (.ok .running, bench) => stepsWithin bound bench

/-- Runs the model to its end and returns the statistics; `none` if that takes more than `bound`
steps. -/
def runWithin (bound : Nat) (bench : Bench σ) : Option (Except SimError RunStats × Bench σ) :=
  stepsWithin bound
    { bench with host := bench.host.report (.runStarted (DeviceModel.name bench.loop.model)) }

end Bench

end CycleSim
