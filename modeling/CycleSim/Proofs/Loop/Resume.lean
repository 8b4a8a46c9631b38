import CycleSim.Proofs.Loop.Edges
import CycleSim.Proofs.Loop.Trail
import CycleSim.Proofs.Model.Counter
import CycleSim.Proofs.Model.Doubler

/-!
# Cut and resumed runs

A run can be cut at any step before its model has finished: the loop is given up, and a new loop is
made of its context and its model.  The new clock starts low, so after a cut while the clock was
high the next high level is one that the model has already seen, and no edge.  `Resumed` are the
loops that come from a first one by any number of cuts.  Such a loop stands where the first one
would have come without cuts, but for one tick for every cut while the clock was high; so its run
ends with the same work done (`resumed_run`).
-/

namespace CycleSim.Bench

section EdgeTriggered

open EdgeTriggered

variable {σ : Type} [DeviceModel σ]

/-- A new loop of the context and the model of a loop, on the same host and medium. -/
def restarted (bench : Bench σ) : Bench σ :=
  start bench.loop.build bench.loop.context bench.loop.model bench.host bench.medium

/-- The loops that come from a first one by cuts, each after any number of steps without the model
having finished.  The number counts the cuts made while the clock was high. -/
inductive Resumed (first : Bench σ) : ℕ → Bench σ → Prop where
  | uncut : Resumed first 0 first
  | cut {cuts : ℕ} {bench : Bench σ} (resumed : Resumed first cuts bench) (n : ℕ)
      (unfinished : DeviceModel.finished (bench.stepped n).loop.model = false) :
      Resumed first (cuts + if (bench.stepped n).loop.clock.level = .high then 1 else 0)
        (bench.stepped n).restarted

variable [EdgeTriggered σ] {first bench : Bench σ} {cuts edges : ℕ} {phase : Phase}

/-- A step never takes back that the model has finished. -/
lemma finished_step (finished : DeviceModel.finished bench.loop.model = true) :
    DeviceModel.finished bench.step.2.loop.model = true := by
  have asked : bench.asked = true := Bool.or_eq_true_iff.mpr (.inr finished)
  cases state : bench.loop.state with
  | stopped =>
    rw [step_of_stopped state]
    exact finished
  | running =>
    obtain ⟨_, _, _, loop⟩ := bench.closed_loop
    rw [step_of_asked state asked, loop, finalize_snd]
    exact finished

/-- No number of steps takes back that the model has finished. -/
lemma finished_stepped (finished : DeviceModel.finished bench.loop.model = true) (n : ℕ) :
    DeviceModel.finished (bench.stepped n).loop.model = true := by
  induction n generalizing bench with
  | zero => exact finished
  | succ n ih => exact ih (finished_step finished)

/-- Steps that leave the model unfinished lead to a place where the loop stands. -/
lemma Stands.stepped (ready : first.Ready) (stands : Stands first cuts edges phase bench) {n : ℕ}
    (unfinished : DeviceModel.finished (bench.stepped n).loop.model = false) :
    ∃ edges' phase', Stands first cuts edges' phase' (bench.stepped n) := by
  induction n generalizing bench edges phase with
  | zero => exact ⟨edges, phase, stands⟩
  | succ n ih =>
    cases finished : DeviceModel.finished bench.loop.model with
    | true =>
      have later := finished_stepped finished (n + 1)
      exact absurd (later.symm.trans unfinished) Bool.noConfusion
    | false =>
      obtain ⟨step, next⟩ := stands.step ready finished
      have after : bench.step.2 = bench.ticked := congrArg Prod.snd step
      change ∃ edges' phase', Stands first cuts edges' phase' (bench.step.2.stepped n)
      rw [after]
      refine ih next ?_
      rw [← after]
      exact unfinished

/-- A new loop of the context and the model of a loop stands where that one stood, its clock set
back. -/
lemma Stands.restarted (stands : Stands first cuts edges phase bench)
    (unfinished : DeviceModel.finished bench.loop.model = false) :
    Stands first (cuts + if bench.loop.clock.level = .high then 1 else 0) edges phase.restarted
      bench.restarted where
  running := rfl
  maxTicks_eq := rfl
  build_eq := stands.build_eq
  files_eq := stands.files_eq
  medium_eq := stands.medium_eq
  level_eq := by cases phase <;> rfl
  sampled_eq := by
    have same : phase.restarted.sampled = phase.sampled := by cases phase <;> rfl
    rw [same, ← stands.sampled_eq]
    exact sampled_setClock _ _
  work_eq := (work_setClock _ _).trans stands.work_eq
  context_eq := stands.context_eq
  time_eq := by
    have lag := phase.lag_restarted
    have time := stands.time_eq
    rw [stands.level_eq]
    show (bench.loop.context.time.toNat + _) % 2 ^ 64 = _
    omega
  unfinished := stands.unfinished
  newest finished := by
    have before : DeviceModel.finished bench.loop.model = true := by
      rw [← finished_work, ← work_setClock .low, finished_work]
      exact finished
    exact absurd (before.symm.trans unfinished) Bool.noConfusion

/-- However a run was cut, its loop stands. -/
lemma Resumed.exists_stands (ready : first.Ready) (resumed : Resumed first cuts bench) :
    ∃ edges phase, Stands first cuts edges phase bench := by
  induction resumed with
  | uncut => exact ⟨0, .low, ready.stands⟩
  | cut _ n unfinished ih =>
    obtain ⟨edges, phase, stands⟩ := ih
    obtain ⟨edges', phase', stands'⟩ := stands.stepped ready unfinished
    exact ⟨edges', phase'.restarted, stands'.restarted unfinished⟩

/-- If enough edges finish the work of a model, its run ends well with or without cuts, with the
same work done and the same coverage; every cut while the clock was high has cost one tick. -/
theorem Resumed.exists_runsTo (ready : first.Ready) (resumed : Resumed first cuts bench)
    {enough : ℕ} (finish : DeviceModel.finished (edge^[enough] (work first.loop.model)) = true)
    {path : String} (writable : (first.configured path none).CoverageWritable) :
    ∃ whole final, RunsTo path first whole ∧ RunsTo path bench final ∧
      work final.loop.model = work whole.loop.model ∧
      final.loop.context.coverage = whole.loop.context.coverage ∧
      final.loop.context.time.toNat = (whole.loop.context.time.toNat + cuts) % 2 ^ 64 := by
  obtain ⟨_, _, stands⟩ := resumed.exists_stands ready
  obtain ⟨total, _, last, whole, run, there, finished, model, context⟩ :=
    ready.stands.exists_runsTo ready finish writable
  obtain ⟨total', _, last', final, run', there', finished', model', context'⟩ :=
    stands.exists_runsTo ready finish writable
  obtain rfl : total = total' := there.edges_eq there' finished finished'
  refine ⟨whole, final, run, run', ?_, ?_, ?_⟩
  · rw [model, model', there.work_eq, there'.work_eq]
  · rw [context, context']
    show last'.loop.context.coverage = last.loop.context.coverage
    rw [there.context_eq, there'.context_eq]
  · have time := there.time_of_finished finished
    have time' := there'.time_of_finished finished'
    rw [context, context']
    show last'.loop.context.time.toNat = (last.loop.context.time.toNat + cuts) % 2 ^ 64
    omega

end EdgeTriggered

/-- A loop over a new counter is ready. -/
lemma ready_counter (build : Build) {context : Context} (fresh : context.stopRequested = false)
    (host : Host) (width : UInt32) (cycles : UInt64) :
    (start build (Counter.build context width cycles).2 (Counter.build context width cycles).1
      host).Ready :=
  ⟨rfl, rfl, rfl, rfl, (Context.stopRequested_skipDraws _ _).trans fresh, trivial⟩

/-- A loop over a new doubler is ready. -/
lemma ready_doubler (build : Build) {context : Context} (fresh : context.stopRequested = false)
    (host : Host) (operands : Array Binary64) :
    (start build (Doubler.withOperands context operands).2
      (Doubler.withOperands context operands).1 host).Ready := by
  have latch : (Doubler.withOperands context operands).2.stopRequested = false := by
    refine (Context.stopRequested_skipDraws _ _).trans ?_
    exact (Context.stopRequested_skipDraws _ _).trans fresh
  exact ⟨rfl, rfl, rfl, rfl, latch, (Doubler.fresh_withOperands context operands).pipelined⟩

/-- Runs of the built-in models can be cut and resumed.  However the run of a new counter or
doubler is divided into consecutive loops, it ends with the register value, the cycles or the
checked results, and the coverage, of the uninterrupted run.  Its time is the time of that run and
one unit for every cut made while the clock was high, counted as times are in 64 bits. -/
theorem resumed_run (build : Build) (context : Context) (fresh : context.stopRequested = false)
    (host : Host) (path : String) :
    (∀ (width : UInt32) (cycles : UInt64) {cuts : ℕ} {bench : Bench Counter},
      let parts := Counter.build context width cycles
      let first := start build parts.2 parts.1 host
      Resumed first cuts bench → (first.configured path none).CoverageWritable →
      ∃ whole final, RunsTo path first whole ∧ RunsTo path bench final ∧
        final.loop.model.value = whole.loop.model.value ∧
        final.loop.model.cycles = whole.loop.model.cycles ∧
        final.loop.context.coverage = whole.loop.context.coverage ∧
        final.loop.context.time.toNat = (whole.loop.context.time.toNat + cuts) % 2 ^ 64) ∧
    (∀ (operands : Array Binary64) {cuts : ℕ} {bench : Bench Doubler},
      let parts := Doubler.withOperands context operands
      let first := start build parts.2 parts.1 host
      Resumed first cuts bench → (first.configured path none).CoverageWritable →
      ∃ whole final, RunsTo path first whole ∧ RunsTo path bench final ∧
        final.loop.model.checked = whole.loop.model.checked ∧
        final.loop.context.coverage = whole.loop.context.coverage ∧
        final.loop.context.time.toNat = (whole.loop.context.time.toNat + cuts) % 2 ^ 64) := by
  constructor
  · intro width cycles cuts bench parts first resumed writable
    have ready : first.Ready := ready_counter build fresh host width cycles
    have finish : (Counter.edge^[cycles.toNat] (EdgeTriggered.work first.loop.model)).finished :=
      (Counter.finished_iterate rfl cycles.toNat).mpr le_rfl
    obtain ⟨whole, final, run, run', work, coverage, time⟩ :=
      resumed.exists_runsTo ready finish writable
    have value := congrArg Counter.value work
    have cycles := congrArg Counter.cycles work
    exact ⟨whole, final, run, run', value, cycles, coverage, time⟩
  · intro operands cuts bench parts first resumed writable
    have ready : first.Ready := ready_doubler build fresh host operands
    have finish : (Doubler.edge^[operands.size + 1]
        (EdgeTriggered.work first.loop.model)).finished :=
      ((Doubler.fresh_withOperands context operands).finished_iterate operands.size).mpr le_rfl
    obtain ⟨whole, final, run, run', work, coverage, time⟩ :=
      resumed.exists_runsTo ready finish writable
    have checked := congrArg Doubler.checked work
    exact ⟨whole, final, run, run', checked, coverage, time⟩

/-- A context that collects coverage and starts registers at 0. -/
def covered : Context :=
  { Context.plain with coverage := some default }

/-- A counter of two cycles and a doubler of one operand, both cut after their first tick, when the
clock is high: the counter has counted one cycle by then, the doubler has loaded its operand. -/
theorem resumed_run_cut :
    (let parts := Counter.build covered 8 2
      let first := start {} parts.2 parts.1 {}
      ∃ bench whole final, Resumed first 1 bench ∧
        RunsTo "cover" first whole ∧ RunsTo "cover" bench final ∧
        final.loop.model.cycles = whole.loop.model.cycles ∧
        final.loop.context.time.toNat = (whole.loop.context.time.toNat + 1) % 2 ^ 64) ∧
    (let parts := Doubler.withOperands covered #[⟨0x3ff0000000000000⟩]
      let first := start {} parts.2 parts.1 {}
      ∃ bench whole final, Resumed first 1 bench ∧
        RunsTo "cover" first whole ∧ RunsTo "cover" bench final ∧
        final.loop.model.checked = whole.loop.model.checked ∧
        final.loop.context.time.toNat = (whole.loop.context.time.toNat + 1) % 2 ^ 64) := by
  obtain ⟨counters, doublers⟩ := resumed_run {} covered rfl {} "cover"
  constructor
  · intro parts first
    have resumed : Resumed first 1 (first.stepped 1).restarted := .cut .uncut 1 (by decide)
    have writable : (first.configured "cover" none).CoverageWritable :=
      fun _ _ => ⟨rfl, ["cover"], by decide +kernel⟩
    obtain ⟨whole, final, run, run', -, cycles, -, time⟩ := counters 8 2 resumed writable
    exact ⟨_, whole, final, resumed, run, run', cycles, time⟩
  · intro parts first
    have resumed : Resumed first 1 (first.stepped 1).restarted := .cut .uncut 1 (by decide)
    have writable : (first.configured "cover" none).CoverageWritable :=
      fun _ _ => ⟨rfl, ["cover"], by decide +kernel⟩
    obtain ⟨whole, final, run, run', checked, -, time⟩ := doublers _ resumed writable
    exact ⟨_, whole, final, resumed, run, run', checked, time⟩

end CycleSim.Bench
