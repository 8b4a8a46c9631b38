import Mathlib.Algebra.Ring.Nat
import CycleSim.Proofs.Loop.Session
import CycleSim.Proofs.Loop.Storing
import CycleSim.Proofs.Model.EdgeTriggered

/-!
# Loops over edge-triggered models

Between two steps a loop over an edge-triggered model stands in one of three phases of its clock,
and it is known from its phase, from the number of rising edges that its model has seen, and from
the number of times that the clock was set back while it was high.  `Stands` says how, and one tick
moves it to the next phase (`Stands.step`).  Since edges make up the work of the model, a run ends
at the first edge with which the work is finished (`Stands.exists_finished`).
-/

namespace CycleSim

/-- Where a loop stands between two steps, by the level of its clock and the level that the model
has last seen. -/
inductive Phase where
  /-- The clock is low and was seen low. -/
  | low
  /-- The clock is high and was seen high. -/
  | high
  /-- The clock was set back to low after it was seen high. -/
  | dropped
  deriving DecidableEq, Repr

namespace Phase

/-- The level of the clock. -/
def level : Phase → Level
  | low => .low
  | high => .high
  | dropped => .low

/-- The level that the model has last seen. -/
def sampled : Phase → Level
  | low => .low
  | high => .high
  | dropped => .high

/-- The phase after a tick. -/
def next : Phase → Phase
  | low => high
  | high => low
  | dropped => high

/-- The rising edges of a tick. -/
def edges : Phase → ℕ
  | low => 1
  | high => 0
  | dropped => 0

/-- The phase in which the clock of a new loop starts. -/
def restarted : Phase → Phase
  | low => low
  | high => dropped
  | dropped => dropped

/-- The ticks that are missing to the end of the period. -/
def lag : Phase → ℕ
  | low => 0
  | high => 1
  | dropped => 2

/-- A tick toggles the clock. -/
lemma level_next (phase : Phase) : phase.next.level = phase.level.toggle := by
  cases phase <;> rfl

/-- After a tick the model has seen the clock. -/
lemma sampled_next (phase : Phase) : phase.next.sampled = phase.level.toggle := by
  cases phase <;> rfl

/-- A period of the clock takes two ticks and has one edge. -/
lemma lag_next (phase : Phase) : phase.next.lag + 1 = phase.lag + 2 * phase.edges := by
  cases phase <;> rfl

/-- Setting a high clock back costs a tick. -/
lemma lag_restarted (phase : Phase) :
    phase.restarted.lag = phase.lag + if phase.level = .high then 1 else 0 := by
  cases phase <;> rfl

/-- A tick has an edge if the model has seen the clock low and sees it high. -/
lemma rises_eq (phase : Phase) :
    phase.sampled.rises phase.level.toggle = decide (phase = .low) := by
  cases phase <;> rfl

end Phase

namespace Bench

open EdgeTriggered

variable {σ : Type} [DeviceModel σ] [EdgeTriggered σ]

/-- A running loop without a limit, its clock low and the latch clear, over a sound model that has
last seen the clock low. -/
structure Ready (first : Bench σ) : Prop where
  running : first.loop.state = .running
  maxTicks_eq : first.loop.maxTicks = none
  level_eq : first.loop.clock.level = .low
  sampled_eq : sampled first.loop.model = .low
  clear : first.loop.context.stopRequested = false
  sound : Sound (work first.loop.model)

/-- The loop stands in a phase of its clock after a number of edges since `first`, with the clock
set back a number of times while it was high. -/
structure Stands (first : Bench σ) (cuts edges : ℕ) (phase : Phase) (bench : Bench σ) : Prop where
  running : bench.loop.state = .running
  maxTicks_eq : bench.loop.maxTicks = none
  build_eq : bench.loop.build = first.loop.build
  files_eq : bench.host.files = first.host.files
  medium_eq : bench.medium = first.medium
  level_eq : bench.loop.clock.level = phase.level
  sampled_eq : sampled bench.loop.model = phase.sampled
  work_eq : work bench.loop.model = edge^[edges] (work first.loop.model)
  context_eq : bench.loop.context =
    { first.loop.context.record (trace (work first.loop.model) edges) with
      time := bench.loop.context.time }
  time_eq : (bench.loop.context.time.toNat + phase.lag) % 2 ^ 64 =
    (first.loop.context.time.toNat + 2 * edges + cuts) % 2 ^ 64
  unfinished : ∀ k < edges, DeviceModel.finished (edge^[k] (work first.loop.model)) = false
  newest : DeviceModel.finished bench.loop.model = true →
    phase = .high ∧ 0 < edges ∨ phase = .low ∧ edges = 0 ∧ cuts = 0

variable {first bench : Bench σ} {cuts edges : ℕ} {phase : Phase}

/-- A loop stands at its own beginning. -/
lemma Ready.stands (ready : first.Ready) : Stands first 0 0 .low first where
  running := ready.running
  maxTicks_eq := ready.maxTicks_eq
  build_eq := rfl
  files_eq := rfl
  medium_eq := rfl
  level_eq := ready.level_eq
  sampled_eq := ready.sampled_eq
  work_eq := rfl
  context_eq := by
    rw [trace_zero, Context.record_nil]
  time_eq := rfl
  unfinished := nofun
  newest _ := .inr ⟨rfl, rfl, rfl⟩

/-- The work of a loop is finished when its edges finish it. -/
lemma Stands.finished_eq (stands : Stands first cuts edges phase bench) :
    DeviceModel.finished bench.loop.model =
      DeviceModel.finished (edge^[edges] (work first.loop.model)) := by
  rw [← stands.work_eq, finished_work]

/-- The latch of a loop that stands is clear. -/
lemma Stands.asked_eq (ready : first.Ready) (stands : Stands first cuts edges phase bench) :
    bench.asked = DeviceModel.finished bench.loop.model := by
  rw [asked, stands.context_eq]
  show (first.loop.context.stopRequested || _) = _
  rw [ready.clear, Bool.false_or]

/-- The work of a loop that stands is sound. -/
lemma Stands.sound (ready : first.Ready) (stands : Stands first cuts edges phase bench) :
    Sound (work bench.loop.edge.model) := by
  show Sound (work (DeviceModel.setClock _ bench.loop.model))
  rw [work_setClock, stands.work_eq]
  exact sound_iterate ready.sound edges

/-- The evaluation of the next tick finds a rising edge in the low phase only. -/
lemma Stands.rises_eq (stands : Stands first cuts edges phase bench) :
    (sampled bench.loop.edge.model).rises (clock bench.loop.edge.model) =
      decide (phase = .low) := by
  rw [← phase.rises_eq, ← stands.level_eq, ← stands.sampled_eq]
  exact congrArg₂ Level.rises (sampled_setClock _ _) (clock_setClock _ _)

/-- The next evaluation does the work of the edges of its phase. -/
lemma Stands.work_evaluation (ready : first.Ready)
    (stands : Stands first cuts edges phase bench) :
    work bench.loop.evaluation.model = edge^[edges + phase.edges] (work first.loop.model) := by
  have here : work bench.loop.edge.model = edge^[edges] (work first.loop.model) :=
    (work_setClock _ _).trans stands.work_eq
  refine (work_evaluate _ (stands.sound ready)).trans ?_
  rw [stands.rises_eq, here]
  cases phase with
  | low => exact (Function.iterate_succ_apply' _ _ _).symm
  | high => rfl
  | dropped => rfl

/-- The next evaluation records the events of the edges of its phase. -/
lemma Stands.events_evaluation (ready : first.Ready)
    (stands : Stands first cuts edges phase bench) :
    trace (work first.loop.model) edges ++ bench.loop.evaluation.events =
      trace (work first.loop.model) (edges + phase.edges) := by
  have here : work bench.loop.edge.model = edge^[edges] (work first.loop.model) :=
    (work_setClock _ _).trans stands.work_eq
  rw [Loop.evaluation, events_evaluate _ (stands.sound ready), stands.rises_eq, here]
  cases phase with
  | low => exact (trace_succ _ _).symm
  | high => exact List.append_nil _
  | dropped => exact List.append_nil _

/-- A tick records the events of its evaluation and moves time. -/
lemma Stands.context_ticked (ready : first.Ready)
    (stands : Stands first cuts edges phase bench) :
    bench.ticked.loop.context =
      { first.loop.context.record (trace (work first.loop.model) (edges + phase.edges)) with
        time := bench.loop.context.time + 1 } := by
  have draws : bench.loop.evaluation.draws = 0 := draws_evaluate _ (stands.sound ready)
  have loop : bench.ticked.loop = _ := bench.loop.tick_snd
  rw [loop, ← stands.events_evaluation ready, Context.record_append, Context.absorb, draws,
    Context.skipDraws_zero]
  exact congrArg (fun context : Context => context.advanceTime.record _) stands.context_eq

/-- While the model has not finished, a step succeeds and leads to the next phase, with an edge if
the clock was low and seen low. -/
theorem Stands.step (ready : first.Ready) (stands : Stands first cuts edges phase bench)
    (unfinished : DeviceModel.finished bench.loop.model = false) :
    bench.step = (.ok .running, bench.ticked) ∧
      Stands first cuts (edges + phase.edges) phase.next bench.ticked := by
  have clear : bench.asked = false := (stands.asked_eq ready).trans unfinished
  have below : bench.loop.exceededLimit? = none := by
    rw [Loop.exceededLimit?, stands.maxTicks_eq]
    rfl
  have passed : bench.loop.evaluation.result = .ok () := result_evaluate _ (stands.sound ready)
  have loop : bench.ticked.loop = _ := bench.loop.tick_snd
  have worked := stands.work_evaluation ready
  have context := stands.context_ticked ready
  have step := step_of_below stands.running clear below
  rw [passed] at step
  refine ⟨step, ?_⟩
  constructor
  · rw [loop]
    exact stands.running
  · rw [loop]
    exact stands.maxTicks_eq
  · rw [loop]
    exact stands.build_eq
  · exact stands.files_eq
  · exact stands.medium_eq
  · rw [loop, phase.level_next, ← stands.level_eq]
    rfl
  · rw [loop, phase.sampled_next, ← stands.level_eq]
    exact (sampled_evaluate _ (stands.sound ready)).trans (clock_setClock _ _)
  · rw [loop]
    exact worked
  · rw [context]
  · have lag := phase.lag_next
    have time := stands.time_eq
    rw [context]
    show ((bench.loop.context.time + 1).toNat + phase.next.lag) % 2 ^ 64 = _
    rw [UInt64.toNat_add]
    show ((bench.loop.context.time.toNat + 1) % 2 ^ 64 + phase.next.lag) % 2 ^ 64 = _
    omega
  · intro k lt
    by_cases old : k < edges
    · exact stands.unfinished k old
    · -- Only an edge makes room for a new number, and it is that of the work before the edge.
      have one : phase.edges ≤ 1 := by
        cases phase <;> decide
      rw [show k = edges by omega, ← stands.finished_eq]
      exact unfinished
  · intro finished
    left
    rw [loop] at finished
    change DeviceModel.finished bench.loop.evaluation.model = true at finished
    rw [← finished_work, worked] at finished
    cases phase with
    | low => exact ⟨rfl, edges.succ_pos⟩
    | high => exact absurd (stands.finished_eq.trans finished) (by simp [unfinished])
    | dropped => exact absurd (stands.finished_eq.trans finished) (by simp [unfinished])

/-! ### Up to the last edge -/

/-- The edges so far are no more than any number that finishes the work. -/
lemma Stands.edges_le (stands : Stands first cuts edges phase bench) {enough : ℕ}
    (finish : DeviceModel.finished (edge^[enough] (work first.loop.model)) = true) :
    edges ≤ enough := by
  by_contra lt
  have before := stands.unfinished enough (Nat.not_le.mp lt)
  exact Bool.false_ne_true (before.symm.trans finish)

/-- If some number of edges finishes the work, a run comes to a place where it is finished. -/
theorem Stands.exists_finished (ready : first.Ready)
    (stands : Stands first cuts edges phase bench) {enough : ℕ}
    (finish : DeviceModel.finished (edge^[enough] (work first.loop.model)) = true) :
    ∃ total phase' n last, Stands first cuts total phase' last ∧
      DeviceModel.finished last.loop.model = true ∧
      last.loop.coveragePath = bench.loop.coveragePath ∧
      ∀ bound, bench.stepsWithin (bound + n) = last.stepsWithin bound := by
  -- Each tick comes nearer to the next edge or has one, and no edge comes after the last.
  induction h : 4 * (enough - edges) + phase.lag using Nat.strong_induction_on
    generalizing edges phase bench with
  | _ measure ih =>
    cases finished : DeviceModel.finished bench.loop.model with
    | true => exact ⟨edges, phase, 0, bench, stands, finished, rfl, fun _ => rfl⟩
    | false =>
      obtain ⟨step, stands'⟩ := stands.step ready finished
      have le := stands'.edges_le finish
      have lag := phase.lag_next
      have less : 4 * (enough - (edges + phase.edges)) + phase.next.lag < measure := by
        cases phase <;> simp only [Phase.edges, Phase.lag, Phase.next] at * <;> omega
      obtain ⟨total, phase', n, last, there, done, path, steps⟩ := ih _ less stands' rfl
      have loop : bench.ticked.loop = _ := bench.loop.tick_snd
      refine ⟨total, phase', n + 1, last, there, done, ?_, fun bound => ?_⟩
      · rw [path, loop]
        rfl
      rw [← Nat.add_assoc, stepsWithin_of_running step]
      exact steps bound

/-- Two loops that stand where the work is finished have had the same edges. -/
lemma Stands.edges_eq {other : Bench σ} {cuts' edges' : ℕ} {phase' : Phase}
    (stands : Stands first cuts edges phase bench)
    (stands' : Stands first cuts' edges' phase' other)
    (finished : DeviceModel.finished bench.loop.model = true)
    (finished' : DeviceModel.finished other.loop.model = true) : edges = edges' :=
  Nat.le_antisymm (stands.edges_le (stands'.finished_eq.symm.trans finished'))
    (stands'.edges_le (stands.finished_eq.symm.trans finished))

/-- Where the work is finished, time has moved by two units for each edge but the last, which took
one, and by one for each time that a high clock was set back. -/
lemma Stands.time_of_finished (stands : Stands first cuts edges phase bench)
    (finished : DeviceModel.finished bench.loop.model = true) :
    bench.loop.context.time.toNat =
      (first.loop.context.time.toNat + (2 * edges - 1) + cuts) % 2 ^ 64 := by
  have time := stands.time_eq
  have small := bench.loop.context.time.toNat_lt
  rcases stands.newest finished with ⟨rfl, pos⟩ | ⟨rfl, rfl, rfl⟩
  · simp only [Phase.lag] at time
    omega
  · simpa [Phase.lag, Nat.mod_eq_of_lt small] using time

/-- An unlimited run with its coverage file at `path` ends well with the last argument. -/
def RunsTo (path : String) (bench final : Bench σ) : Prop :=
  ∃ stats, Session bench (runCalls path none (.ok stats)) final

/-- Coverage can be written where a loop stands if it could be written at the beginning. -/
lemma Stands.coverageWritable (stands : Stands first cuts edges phase bench) {path : String}
    (path_eq : bench.loop.coveragePath = path)
    (writable : (first.configured path none).CoverageWritable) :
    bench.checkFinished.2.CoverageWritable := by
  intro compiled enabled
  change bench.loop.build.coverage = true at compiled
  change bench.loop.context.coverage.isSome = true at enabled
  rw [stands.build_eq] at compiled
  rw [stands.context_eq] at enabled
  have present : first.loop.context.coverage.isSome = true := by
    simpa [Context.record] using enabled
  obtain ⟨unbounded, place, found⟩ := writable compiled present
  refine ⟨(congrArg Medium.room stands.medium_eq).trans unbounded, place, ?_⟩
  rw [checkFinished_files, stands.files_eq]
  exact (congrArg _ path_eq).trans found

/-- The run of a loop that stands ends well at the edge that finishes its work, and leaves the
work, the coverage and the time that are there. -/
theorem Stands.exists_runsTo (ready : first.Ready)
    (stands : Stands first cuts edges phase bench) {enough : ℕ}
    (finish : DeviceModel.finished (edge^[enough] (work first.loop.model)) = true)
    {path : String} (writable : (first.configured path none).CoverageWritable) :
    ∃ total phase' last final, RunsTo path bench final ∧
      Stands first cuts total phase' last ∧
      DeviceModel.finished last.loop.model = true ∧
      final.loop.model = last.loop.model ∧
      final.loop.context = last.loop.context.latch true := by
  have stands' : Stands first cuts edges phase (bench.configured path none).opened :=
    { stands with maxTicks_eq := rfl }
  obtain ⟨total, phase', n, last, there, finished, path_eq, steps⟩ :=
    stands'.exists_finished ready finish
  have asked : last.asked = true := (there.asked_eq ready).trans finished
  have agreed : (DeviceModel.finalize last.loop.model).1 = .ok () := finalize_fst finished
  have closing : last.checkFinished.2.shutdown.1 = .ok () :=
    shutdown_ok agreed (there.coverageWritable path_eq writable)
  have returned := stepsWithin_of_asked there.running asked 0
  rw [closing] at returned
  obtain ⟨_, _, _, loop⟩ := last.closed_loop
  refine ⟨total, phase', last, last.closed,
    ⟨_, session_runCalls ((steps 1).trans returned)⟩, there, finished, ?_, ?_⟩
  · rw [loop]
    exact finalize_snd _
  · rw [loop, finished]

end Bench

end CycleSim
