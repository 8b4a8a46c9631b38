import Mathlib.Tactic.Common
import CycleSim.Loop.Basic

/-!
# What one step does

A step has four outcomes: a stopped loop rests, a loop that is asked to stop closes, a loop at its
tick limit refuses, and any other loop ticks.  `Turn` lists the four with their guards and their
results, and `turn_step` says that there is no fifth.  What is proved of steps later is proved by
cases on `Turn`; the lemmas before it say what the parts of a step change and what they leave alone.
-/

namespace CycleSim

namespace Context

/-- Draws do not move time. -/
@[simp] lemma time_skipDraws (ctx : Context) (n : ℕ) : (ctx.skipDraws n).time = ctx.time := by
  unfold skipDraws
  split <;> rfl

/-- Draws do not touch the latch. -/
@[simp] lemma stopRequested_skipDraws (ctx : Context) (n : ℕ) :
    (ctx.skipDraws n).stopRequested = ctx.stopRequested := by
  unfold skipDraws
  split <;> rfl

/-- Coverage events and draws do not move time. -/
@[simp] lemma time_absorb {σ : Type} (ctx : Context) (evaluation : Evaluation σ) :
    (ctx.absorb evaluation).time = ctx.time := by
  rw [absorb, time_skipDraws]
  rfl

/-- Coverage events and draws do not touch the latch. -/
@[simp] lemma stopRequested_absorb {σ : Type} (ctx : Context) (evaluation : Evaluation σ) :
    (ctx.absorb evaluation).stopRequested = ctx.stopRequested := by
  rw [absorb, stopRequested_skipDraws]
  rfl

/-- A look at an indicator that is not set changes nothing. -/
@[simp] lemma latch_false (ctx : Context) : ctx.latch false = ctx := by
  simp [latch]

end Context

namespace Loop

variable {σ : Type} [DeviceModel σ]

/-- The evaluation that the next tick makes. -/
def evaluation (loop : Loop σ) : Evaluation σ :=
  DeviceModel.evaluate loop.edge.context loop.edge.model

/-- The statistics after a successful tick. -/
def countedStats (loop : Loop σ) : RunStats :=
  { loop.stats with
    ticks := loop.stats.ticks + 1
    cycles := loop.clock.tick.risingEdges
    simTime := loop.context.time + 1 }

/-- A tick has the outcome of its evaluation. -/
lemma tick_fst (loop : Loop σ) : loop.tick.1 = loop.evaluation.result := by
  unfold tick evaluation
  cases h : (DeviceModel.evaluate loop.edge.context loop.edge.model).result <;> simp [h]

/-- A tick moves the clock, the time and the model, whatever its outcome; the statistics count
only a successful one. -/
lemma tick_snd (loop : Loop σ) :
    loop.tick.2 = { loop.edge with
      context := loop.edge.context.absorb loop.evaluation
      model := loop.evaluation.model
      stats := if loop.evaluation.result.isOk then loop.countedStats else loop.stats } := by
  cases outcome : loop.evaluation.result with
  | error cause =>
    have failed : (DeviceModel.evaluate loop.edge.context loop.edge.model).result =
        .error cause := outcome
    simp only [tick, failed]
    rfl
  | ok =>
    have passed : (DeviceModel.evaluate loop.edge.context loop.edge.model).result =
        .ok () := outcome
    simp only [tick, passed, Context.time_absorb]
    rfl

end Loop

namespace Bench

variable {σ : Type} [DeviceModel σ]

/-- Whether a step finds the run asked to stop. -/
def asked (bench : Bench σ) : Bool :=
  bench.loop.context.stopRequested || DeviceModel.finished bench.loop.model

/-- The answer of a look at the indicator. -/
lemma checkFinished_fst (bench : Bench σ) : bench.checkFinished.1 = bench.asked := rfl

/-- A look at the indicator touches no file. -/
@[simp] lemma checkFinished_files (bench : Bench σ) :
    bench.checkFinished.2.host.files = bench.host.files := by
  simp only [checkFinished]
  split <;> rfl

/-- A look at the indicator opens no file. -/
@[simp] lemma checkFinished_openings (bench : Bench σ) :
    bench.checkFinished.2.host.openings = bench.host.openings := by
  simp only [checkFinished]
  split <;> rfl

/-- A look that finds nothing changes nothing. -/
lemma checkFinished_of_clear {bench : Bench σ} (clear : bench.asked = false) :
    bench.checkFinished = (false, bench) := by
  obtain ⟨latch, indicator⟩ := Bool.or_eq_false_iff.mp clear
  simp [checkFinished, indicator, latch]

/-! ### Shutdowns -/

/-- The loop and the host with the model finalized, the loop being stopped. -/
def finalized (bench : Bench σ) : Bench σ :=
  { bench with
    loop := { bench.loop with
      state := .stopped
      model := (DeviceModel.finalize bench.loop.model).2 } }

/-- A shutdown fails if the model refuses to close, and else ends as the writing of coverage
does. -/
lemma shutdown_eq (bench : Bench σ) :
    bench.shutdown =
      match (DeviceModel.finalize bench.loop.model).1 with
      | .error cause => (.error cause, bench.finalized)
      | .ok () =>
        match bench.finalized.writeCoverage with
        | (.error cause, after) => (.error cause, after)
        | (.ok (), after) => (.ok (), after.conclude) := rfl

omit [DeviceModel σ] in
/-- Writing coverage changes nothing of the loop but the statistics. -/
lemma writeCoverage_loop (bench : Bench σ) :
    ∃ points covered, bench.writeCoverage.2.loop =
      { bench.loop with
        stats := { bench.loop.stats with
          coveragePoints := points, coverageCovered := covered } } := by
  refine ⟨bench.writeCoverage.2.loop.stats.coveragePoints,
    bench.writeCoverage.2.loop.stats.coverageCovered, ?_⟩
  unfold writeCoverage
  split
  · simp only []
    split <;> rfl
  · rfl

/-- A shutdown stops the loop and finalizes the model, and nothing else of the loop changes but
the entries of the statistics that speak of the shutdown. -/
lemma shutdown_loop (bench : Bench σ) :
    ∃ finished points covered, bench.shutdown.2.loop =
      { bench.finalized.loop with
        stats := { bench.loop.stats with
          finished := finished, coveragePoints := points, coverageCovered := covered } } := by
  rw [shutdown_eq]
  cases (DeviceModel.finalize bench.loop.model).1 with
  | error cause => exact ⟨_, _, _, rfl⟩
  | ok =>
    obtain ⟨points, covered, written⟩ := bench.finalized.writeCoverage_loop
    rcases h : bench.finalized.writeCoverage with ⟨result, after⟩
    rw [h] at written
    cases result with
    | error cause => exact ⟨_, _, _, written⟩
    | ok =>
      refine ⟨true, points, covered, ?_⟩
      simp only [conclude] at written ⊢
      rw [written]
      rfl

/-- The loop and the host after a step that finds the run asked to stop. -/
def closed (bench : Bench σ) : Bench σ :=
  bench.checkFinished.2.shutdown.2

/-- A loop that closes is stopped with its model finalized; clock and time stay as they were. -/
lemma closed_loop (bench : Bench σ) :
    ∃ finished points covered, bench.closed.loop =
      { bench.loop with
        state := .stopped
        context := bench.loop.context.latch (DeviceModel.finished bench.loop.model)
        model := (DeviceModel.finalize bench.loop.model).2
        stats := { bench.loop.stats with
          finished := finished, coveragePoints := points, coverageCovered := covered } } :=
  bench.checkFinished.2.shutdown_loop

/-! ### The four outcomes -/

/-- The loop and the host after a step that ticks. -/
def ticked (bench : Bench σ) : Bench σ :=
  { bench with
    loop := bench.loop.tick.2
    host := bench.host.report
      (.ticked bench.loop.edge.context.time bench.loop.edge.clock.level) }

/-- The outcomes of a step, each with its guards. -/
inductive Turn (bench : Bench σ) : Except SimError LoopState × Bench σ → Prop where
  /-- A stopped loop stays as it is. -/
  | rest (stopped : bench.loop.state = .stopped) : Turn bench (.ok .stopped, bench)
  /-- A loop that is asked to stop shuts down. -/
  | close (running : bench.loop.state = .running) (asked : bench.asked = true) :
      Turn bench (bench.checkFinished.2.shutdown.1.map fun _ => .stopped, bench.closed)
  /-- A loop at its tick limit stays as it is. -/
  | refuse (running : bench.loop.state = .running) (clear : bench.asked = false) {limit : UInt64}
      (exceeded : bench.loop.exceededLimit? = some limit) :
      Turn bench (.error (.tickLimitExceeded limit), bench)
  /-- Any other loop ticks. -/
  | tick (running : bench.loop.state = .running) (clear : bench.asked = false)
      (below : bench.loop.exceededLimit? = none) :
      Turn bench (bench.loop.evaluation.result.map fun _ => .running, bench.ticked)

/-- A stopped loop rests. -/
lemma step_of_stopped {bench : Bench σ} (stopped : bench.loop.state = .stopped) :
    bench.step = (.ok .stopped, bench) := by
  simp only [step, stopped]

/-- A running loop that is asked to stop closes. -/
lemma step_of_asked {bench : Bench σ} (running : bench.loop.state = .running)
    (asked : bench.asked = true) :
    bench.step = (bench.checkFinished.2.shutdown.1.map fun _ => .stopped, bench.closed) := by
  have look : bench.checkFinished = (true, bench.checkFinished.2) :=
    Prod.ext (bench.checkFinished_fst.trans asked) rfl
  simp only [step, running]
  rw [look]
  simp only [closed]
  rcases bench.checkFinished.2.shutdown with ⟨result, after⟩
  cases result <;> rfl

/-- A running loop at its tick limit refuses. -/
lemma step_of_exceeded {bench : Bench σ} (running : bench.loop.state = .running)
    (clear : bench.asked = false) {limit : UInt64}
    (exceeded : bench.loop.exceededLimit? = some limit) :
    bench.step = (.error (.tickLimitExceeded limit), bench) := by
  simp only [step, running, checkFinished_of_clear clear, exceeded]

/-- A running loop below its tick limit ticks. -/
lemma step_of_below {bench : Bench σ} (running : bench.loop.state = .running)
    (clear : bench.asked = false) (below : bench.loop.exceededLimit? = none) :
    bench.step = (bench.loop.evaluation.result.map fun _ => .running, bench.ticked) := by
  simp only [step, running, checkFinished_of_clear clear, below, ← Loop.tick_fst, ticked]
  rcases bench.loop.tick with ⟨result, after⟩
  cases result <;> rfl

/-- Every step has one of the four outcomes. -/
theorem turn_step (bench : Bench σ) : Turn bench bench.step := by
  cases state : bench.loop.state with
  | stopped =>
    rw [step_of_stopped state]
    exact .rest state
  | running =>
    cases asked : bench.asked with
    | true =>
      rw [step_of_asked state asked]
      exact .close state asked
    | false =>
      cases limit : bench.loop.exceededLimit? with
      | some limit =>
        rw [step_of_exceeded state asked limit]
        exact .refuse state asked limit
      | none =>
        rw [step_of_below state asked limit]
        exact .tick state asked limit

end Bench

end CycleSim
