import CycleSim.Proofs.Loop.EdgeRun
import CycleSim.Proofs.Loop.Resume
import CycleSim.Proofs.Model.CounterRegister

/-!
# Runs of the counter

The run of a new counter of `n` cycles takes `2 * n - 1` ticks, the odd ones of which have an edge.
With a limit that allows them it ends with `n` added to the register, and the coverage file tells of
`n` edges and of the wraps of the register; with a lower limit the run is refused behind it and no
step opens a file (`counter_run`).  No addition of a step overflows its word.
-/

namespace CycleSim.Bench

open EdgeTriggered

/-- The additions that a step of a loop over a counter makes stay below the size of a word: of the
time, of the clock's edges, of the rising edges behind the new edge, of the statistics' ticks and of
the counter's cycles.  The register is not among them: it wraps by design. -/
structure NoOverflow (bench : Bench Counter) : Prop where
  time : bench.loop.context.time.toNat + 1 < 2 ^ 64
  edges : bench.loop.clock.edges.toNat + 1 < 2 ^ 64
  risingEdges : bench.loop.clock.tick.edges.toNat + 1 < 2 ^ 64
  ticks : bench.loop.stats.ticks.toNat + 1 < 2 ^ 64
  cycles : bench.loop.model.cycles.toNat + 1 < 2 ^ 64

variable {build : Build} {context : Context} {host : Host} {path : String} {width : UInt32}
  {cycles : UInt64} {first bench : Bench Counter} {n : ℕ}

/-- A run of fewer than `2 ^ 63` cycles overflows nowhere. -/
lemma Reached.noOverflow (reached : Reached first path n bench)
    (fresh : (work first.loop.model).cycles = 0)
    (few : first.loop.model.finishAfter.toNat < 2 ^ 63) (small : n + 2 < 2 ^ 64) :
    NoOverflow bench := by
  obtain ⟨time, edges, ticks, -, -⟩ := reached.counts
  have counted : bench.loop.model.cycles.toNat = min first.loop.model.finishAfter.toNat _ :=
    (congrArg (·.cycles.toNat) reached.work_eq).trans (Counter.cycles_iterate fresh _)
  refine ⟨?_, ?_, ?_, ?_, ?_⟩
  · omega
  · omega
  · rw [ClockDriver.edges_tick, UInt64.toNat_add, edges, UInt64.toNat_one]
    omega
  · omega
  · omega

/-- A new loop over a new counter, and how many edges finish it. -/
lemma ready_newCounter (build : Build) (initial : context.Initial) (host : Host) (width : UInt32)
    (cycles : UInt64) :
    (start build (Counter.build context width cycles).2 (Counter.build context width cycles).1
        host).Ready ∧
      (Counter.build context width cycles).2.time = 0 ∧
      FinishedBy (start build (Counter.build context width cycles).2
        (Counter.build context width cycles).1 host).loop.model cycles.toNat :=
  ⟨ready_counter build initial.clear host width cycles,
    (Context.time_skipDraws _ _).trans initial.time_eq,
    fun k => Counter.finished_iterate rfl k⟩

/-- The run of a new counter with coverage, of fewer than `2 ^ 63` cycles and at most 64 bits, from
any first value that its context gives it: within its limit it counts all its cycles in
`2 * cycles - 1` ticks and ends well, its register is the sum modulo its range, and the file holds
the two points with their exact counts.  A lower limit ends it with the failure of that limit at
that time, with the edges so far counted, and no step touches a file.  Neither run overflows. -/
theorem counter_run {general : GeneralSettings} {coverage : CoverageSettings} {args : List String}
    (built : Context.build general coverage args = .ok context)
    (enabled : coverage.enabled = true) (compiled : build.coverage = true) {place : Location}
    (writable : host.files.writablePlace path = .ok place) (narrow : width.toNat ≤ 64)
    (few : cycles.toNat < 2 ^ 63) (limit : Option UInt64) :
    let counter := (Counter.build context width cycles).1
    let first := start build (Counter.build context width cycles).2 counter host
    let length := 2 * cycles.toNat - 1
    ((∀ ticks ∈ limit, length ≤ ticks.toNat) →
      ∃ steps last, Trail first (runCalls path limit (.ok last.loop.stats)) steps last ∧
        last.loop.stats.ticks.toNat = length ∧ last.loop.stats.simTime.toNat = length ∧
        last.loop.stats.cycles.toNat = cycles.toNat ∧ last.loop.stats.finished = true ∧
        last.loop.model.value.toNat =
          (counter.value.toNat + cycles.toNat) % 2 ^ width.toNat ∧
        last.loop.stats.coveragePoints = 2 ∧
        last.host.files.readBytes path = .ok (Counter.coverageText cycles.toNat
          ((counter.value.toNat + cycles.toNat) / 2 ^ width.toNat)).toUTF8 ∧
        ∀ step ∈ steps, step.NoOverflow) ∧
    (∀ ticks ∈ limit, ticks.toNat < length →
      ∃ steps last,
        Trail first (runCalls path limit (.error (.tickLimitExceeded ticks))) steps last ∧
        last.loop.context.time = ticks ∧
        last.loop.model.value.toNat =
          (counter.value.toNat + (ticks.toNat + 1) / 2) % 2 ^ width.toNat ∧
        last.host.files = host.files ∧ ∀ step ∈ steps, step.LeavesFiles ∧ step.NoOverflow) := by
  intro counter first length
  have initial := Context.initial_of_build built enabled
  have recorded := Counter.coverage_build initial.coverage_eq width cycles
  obtain ⟨ready, time, finishes⟩ := ready_newCounter build initial host width cycles
  have fresh : Counter.Fresh width (work counter) := Counter.fresh_build context width cycles
  have value : (work counter).value = counter.value := rfl
  have bits : registerWidth width = width.toNat := Nat.min_eq_left narrow
  have fits : length ≤ 2 ^ 64 - 3 := by omega
  have noOverflow {n : ℕ} {step : Bench Counter} (le : n ≤ length)
      (reached : Reached first path n step) : step.NoOverflow :=
    reached.noOverflow rfl few (by omega)
  constructor
  · intro within
    obtain ⟨steps, last, trail, reached, ended⟩ := ready.exists_finishing_run time finishes
      (Nat.le_trans fits (by decide)) compiled recorded writable within
    have points := ended.points
    have holds := ended.holds
    have counted : (work counter).counted cycles.toNat = cycles.toNat := Nat.min_self _
    have register : last.loop.model.value.toNat = _ :=
      (congrArg (·.value.toNat) ended.work_eq).trans (fresh.value_iterate cycles.toNat)
    rw [← Coverage.Database.recordAll_append] at points holds
    refine ⟨steps, last, trail, ended.ticks, ended.simTime, ended.cycles, ended.finished, ?_, ?_,
      ?_, fun step mem => ?_⟩
    · rw [register, counted, bits, value]
    · exact points.trans (Counter.size_database _ _)
    · have text := fresh.text_database cycles.toNat
      rw [counted, bits, value] at text
      rw [holds]
      exact congrArg (fun text : String => Except.ok text.toUTF8) text
    · obtain ⟨n, le, reached⟩ := reached step mem
      exact noOverflow le reached
  · rintro ticks ⟨rfl⟩ lt
    obtain ⟨steps, last, trail, leaves, reached⟩ :=
      ready.exists_refused_run path time finishes lt (by omega)
    have counted : (work counter).counted ((ticks.toNat + 1) / 2) = (ticks.toNat + 1) / 2 :=
      Nat.min_eq_right (show _ ≤ cycles.toNat by omega)
    have register : last.loop.model.value.toNat = _ :=
      (congrArg (·.value.toNat) reached.work_eq).trans (fresh.value_iterate _)
    refine ⟨steps, last, trail, UInt64.toNat_inj.mp reached.counts.time, ?_,
      reached.stands.files_eq, fun step mem => ?_⟩
    · rw [register, counted, bits, value]
    · obtain ⟨alone, n, le, reached⟩ := leaves step mem
      exact ⟨alone, noOverflow (by omega) reached⟩

/-- A new context that starts registers with all bits set. -/
def allOnes : Context :=
  { Context.plain with resetPolicy := .ones, coverage := some default }

/-- The loop over a counter of two bits and three cycles that starts at its greatest value. -/
def firstWrapping : Bench Counter :=
  start {} (Counter.build allOnes 2 3).2 (Counter.build allOnes 2 3).1 {}

/-- That counter wraps at its first edge, and the run of five ticks ends at 2; limited to two ticks
it ends at 0. -/
theorem counter_run_wrapping :
    (∃ steps last, Trail firstWrapping (runCalls "cover" none (.ok last.loop.stats)) steps last ∧
      last.loop.stats.ticks.toNat = 5 ∧ last.loop.model.value.toNat = 2 ∧
      last.host.files.readBytes "cover" = .ok (Counter.coverageText 3 1).toUTF8) ∧
    ∃ steps last,
      Trail firstWrapping (runCalls "cover" (some 2) (.error (.tickLimitExceeded 2))) steps last ∧
      last.loop.context.time = 2 ∧ last.loop.model.value.toNat = 0 := by
  have built : Context.build { resetPolicy := .ones } {} [] = .ok allOnes := rfl
  have writable : ({} : Host).files.writablePlace "cover" = .ok ["cover"] := by decide +kernel
  have narrow : (2 : UInt32).toNat ≤ 64 := by decide
  have few : (3 : UInt64).toNat < 2 ^ 63 := by decide
  have compiled : ({} : Build).coverage = true := rfl
  constructor
  · obtain ⟨finishes, -⟩ := counter_run built rfl compiled writable narrow few none
    obtain ⟨steps, last, trail, ticks, -, -, -, value, -, holds, -⟩ := finishes nofun
    exact ⟨steps, last, trail, ticks, value, holds⟩
  · obtain ⟨-, refused⟩ := counter_run built rfl compiled writable narrow few (some 2)
    obtain ⟨steps, last, trail, time, value, -⟩ := refused 2 rfl (by decide)
    exact ⟨steps, last, trail, time, value⟩

end CycleSim.Bench
