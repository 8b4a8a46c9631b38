import CycleSim.Proofs.Loop.ModelMap

/-!
# The journal of a loop's calls

`Recorded` wraps a model and writes down every call that the loop makes on it: each clock write with
the finished indicator just before it, each evaluation with the time, the clock level and the latch
that the model sees and with its result, and each finalization.  Wrapping is a `ModelMap`, so every
session of a loop has one journal (`Session.exists_journal`, `Journaled.unique`).

`Journal.Protocol` is the grammar of journals: the opening clock write, then ticks of a clock write
and an evaluation each, then at most one finalization.  Every session keeps to it
(`inStep_of_session`), and the counters of the loop count its ticks.
-/

namespace CycleSim

/-- The level of a clock after `n` edges, the first of which is a rising one. -/
def Level.wave (n : Nat) : Level :=
  .ofBool (n % 2 = 1)

/-- Every edge toggles the level. -/
lemma Level.wave_succ (n : Nat) : Level.wave (n + 1) = (Level.wave n).toggle := by
  rcases Nat.mod_two_eq_zero_or_one n with h | h <;> simp [Level.wave, Nat.add_mod, h] <;> rfl

/-- The level is high after an odd number of edges. -/
lemma Level.wave_eq_high_iff (n : Nat) : Level.wave n = .high ↔ n % 2 = 1 := by
  by_cases h : n % 2 = 1 <;> simp [Level.wave, h, Level.ofBool]

/-- What a model sees of an evaluation, and how the evaluation ends. -/
structure Evaluated where
  /-- The simulated time. -/
  time : UInt64
  /-- The level last driven. -/
  clock : Level
  /-- Whether the stop latch is set. -/
  latched : Bool
  result : Except SimError Unit

/-- A call that the loop makes on its model. -/
inductive ModelCall where
  /-- The clock input is driven; `finished` is the model's indicator just before. -/
  | setClock (level : Level) (finished : Bool)
  | evaluate (entry : Evaluated)
  | finalize (result : Except SimError Unit)

/-- The calls on a model, oldest first. -/
abbrev Journal := List ModelCall

namespace Journal

/-- The levels that were driven. -/
def clockWrites (journal : Journal) : List Level :=
  journal.filterMap fun
    | .setClock level _ => some level
    | _ => none

/-- The evaluations. -/
def evaluations (journal : Journal) : List Evaluated :=
  journal.filterMap fun
    | .evaluate entry => some entry
    | _ => none

/-- The number of finalizations. -/
def finalizations (journal : Journal) : Nat :=
  journal.countP fun
    | .finalize _ => true
    | _ => false

@[simp] lemma clockWrites_append (first second : Journal) :
    clockWrites (first ++ second) = first.clockWrites ++ second.clockWrites :=
  List.filterMap_append

@[simp] lemma evaluations_append (first second : Journal) :
    evaluations (first ++ second) = first.evaluations ++ second.evaluations :=
  List.filterMap_append

@[simp] lemma finalizations_append (first second : Journal) :
    finalizations (first ++ second) = first.finalizations + second.finalizations :=
  List.countP_append

end Journal

/-- A model with the journal of the calls made on it. -/
structure Recorded (σ : Type) where
  model : σ
  /-- The level last driven. -/
  clock : Level := .low
  journal : Journal := []

/-- A model on which no call has been made. -/
def Recorded.blank {σ : Type} (model : σ) : Recorded σ where
  model

variable {σ : Type} [DeviceModel σ]

instance : DeviceModel (Recorded σ) where
  name recorded := DeviceModel.name recorded.model
  setClock level recorded :=
    { model := DeviceModel.setClock level recorded.model
      clock := level
      journal := recorded.journal ++ [.setClock level (DeviceModel.finished recorded.model)] }
  evaluate ctx recorded :=
    let evaluation := DeviceModel.evaluate ctx recorded.model
    evaluation.mapModel fun model =>
      { recorded with
        model
        journal := recorded.journal ++
          [.evaluate ⟨ctx.time, recorded.clock, ctx.stopRequested, evaluation.result⟩] }
  finalize recorded :=
    let closing := DeviceModel.finalize recorded.model
    (closing.1, { recorded with
      model := closing.2
      journal := recorded.journal ++ [.finalize closing.1] })
  finished recorded := DeviceModel.finished recorded.model

/-- The journal takes nothing away from the model and adds nothing to it. -/
lemma modelMap_model : ModelMap (Recorded.model : Recorded σ → σ) where
  name _ := rfl
  setClock _ _ := rfl
  evaluate _ _ := rfl
  finalize _ := rfl
  finished _ := rfl

namespace Bench

/-- The session of the new loop on `model` with these calls ends at the last argument, and the loop
has made the calls in `journal` on its model. -/
def Journaled (build : Build) (context : Context) (model : σ) (host : Host)
    (calls : List (Call × Answer)) (journal : Journal) (after : Bench σ) (medium : Medium := {}) :
    Prop :=
  ∃ recorded : Bench (Recorded σ),
    Session (start build context (.blank model) host medium) calls recorded ∧
      recorded.mapModel Recorded.model = after ∧ recorded.loop.model.journal = journal

variable {build : Build} {context : Context} {model : σ} {host : Host} {medium : Medium}
  {calls : List (Call × Answer)}

/-- Every session has a journal. -/
theorem Session.exists_journal {after : Bench σ}
    (session : Session (start build context model host medium) calls after) :
    ∃ journal, Journaled build context model host calls journal after medium := by
  have wrapped : start build context model host medium = _ :=
    start_mapModel modelMap_model build context (Recorded.blank model) host medium
  rw [wrapped] at session
  obtain ⟨recorded, lifted, same⟩ := session.lift modelMap_model
  exact ⟨recorded.loop.model.journal, recorded, lifted, same, rfl⟩

/-- The calls on a loop determine the calls that the loop makes on its model. -/
theorem Journaled.unique {calls' : List (Call × Answer)} {journal journal' : Journal}
    {after after' : Bench σ} (first : Journaled build context model host calls journal after medium)
    (second : Journaled build context model host calls' journal' after' medium)
    (same : calls.map Prod.fst = calls'.map Prod.fst) : journal = journal' ∧ after = after' := by
  obtain ⟨recorded, session, rfl, rfl⟩ := first
  obtain ⟨recorded', session', rfl, rfl⟩ := second
  obtain ⟨-, rfl⟩ := session.unique session' same
  exact ⟨rfl, rfl⟩

end Bench

/-! ### The protocol -/

/-- The journals of loops that started at `time`: with these results of evaluations so far and in
this state. -/
inductive Journal.Protocol (time : UInt64) :
    LoopState → List (Except SimError Unit) → Journal → Prop where
  /-- The model's clock input is driven low. -/
  | opened (finished : Bool) : Protocol time .running [] [.setClock .low finished]
  /-- A tick drives the next level of the clock and evaluates the model one time unit later. -/
  | ticked {results : List (Except SimError Unit)} {journal : Journal}
      (before : Protocol time .running results journal) (result : Except SimError Unit) :
      Protocol time .running (results ++ [result])
        (journal ++ [.setClock (.wave (results.length + 1)) false,
          .evaluate ⟨time + .ofNat (results.length + 1), .wave (results.length + 1), false,
            result⟩])
  /-- The model is finalized. -/
  | closed {results : List (Except SimError Unit)} {journal : Journal}
      (before : Protocol time .running results journal) (result : Except SimError Unit) :
      Protocol time .stopped results (journal ++ [.finalize result])

namespace Bench

/-- The loop keeps to the protocol, and its time, its clock and its statistics count the ticks in
the journal. -/
structure InStep (time : UInt64) (results : List (Except SimError Unit))
    (bench : Bench (Recorded σ)) : Prop where
  journal : Journal.Protocol time bench.loop.state results bench.loop.model.journal
  time : bench.loop.context.time = time + .ofNat results.length
  clock : bench.loop.clock = ⟨.wave results.length, .ofNat results.length⟩
  ticks : bench.loop.stats.ticks = .ofNat (results.countP (·.isOk))

variable {time : UInt64} {results : List (Except SimError Unit)} {bench : Bench (Recorded σ)}

/-- A new loop has made the opening clock write. -/
lemma inStep_start (build : Build) (context : Context) (model : σ) (host : Host)
    (medium : Medium) :
    InStep context.time [] (start build context (Recorded.blank model) host medium) where
  journal := .opened (DeviceModel.finished model)
  time := (UInt64.add_zero _).symm
  clock := rfl
  ticks := rfl

/-- A loop that closes writes down the finalization. -/
lemma journal_closed (bench : Bench (Recorded σ)) :
    bench.closed.loop.model.journal = bench.loop.model.journal ++
      [.finalize (DeviceModel.finalize bench.loop.model).1] := by
  obtain ⟨finished, points, covered, loop⟩ := bench.closed_loop
  rw [loop]
  rfl

/-- A loop that ticks writes down a clock write and an evaluation. -/
lemma journal_ticked (bench : Bench (Recorded σ)) :
    bench.ticked.loop.model.journal = bench.loop.model.journal ++
      [.setClock bench.loop.clock.level.toggle (DeviceModel.finished bench.loop.model),
        .evaluate ⟨bench.loop.context.time + 1, bench.loop.clock.level.toggle,
          bench.loop.context.stopRequested, bench.loop.evaluation.result⟩] := by
  simp only [ticked, Loop.tick_snd]
  exact List.append_assoc ..

/-- A shutdown keeps the counters and adds the finalization. -/
lemma InStep.closed (inStep : InStep time results bench)
    (running : bench.loop.state = .running) : InStep time results bench.closed := by
  have protocol := inStep.journal
  rw [running] at protocol
  have journal := bench.journal_closed
  obtain ⟨finished, points, covered, loop⟩ := bench.closed_loop
  constructor
  · rw [journal, loop]
    exact protocol.closed _
  · rw [loop]
    exact inStep.time
  · rw [loop]
    exact inStep.clock
  · rw [loop]
    exact inStep.ticks

/-- A tick moves the counters and adds a clock write and an evaluation. -/
lemma InStep.ticked (inStep : InStep time results bench) (running : bench.loop.state = .running)
    (clear : bench.asked = false) :
    InStep time (results ++ [bench.loop.evaluation.result]) bench.ticked := by
  obtain ⟨latch, indicator⟩ := Bool.or_eq_false_iff.mp clear
  have later : bench.loop.context.time + 1 = time + .ofNat (results.length + 1) := by
    rw [inStep.time, UInt64.ofNat_add, UInt64.add_assoc]
    rfl
  have level : bench.loop.clock.level.toggle = .wave (results.length + 1) := by
    rw [inStep.clock, Level.wave_succ]
  have protocol := inStep.journal
  rw [running] at protocol
  have journal := bench.journal_ticked
  rw [later, level, latch, indicator] at journal
  have loop : bench.ticked.loop = _ := bench.loop.tick_snd
  constructor
  · rw [journal, loop]
    show Journal.Protocol time bench.loop.state _ _
    rw [running]
    exact protocol.ticked _
  · rw [loop, List.length_append]
    simp only [Context.time_absorb]
    exact later
  · rw [loop, List.length_append]
    simp only [Loop.edge, ClockDriver.tick, inStep.clock, List.length_singleton,
      Level.wave_succ, UInt64.ofNat_add]
    rfl
  · rw [loop, List.countP_append]
    cases outcome : bench.loop.evaluation.result with
    | error cause => exact inStep.ticks
    | ok =>
      simp only [Except.isOk, Except.toBool, if_true, Loop.countedStats, inStep.ticks,
        List.countP_singleton, UInt64.ofNat_add]
      rfl

/-- Steps, the log and the settings keep a loop in step. -/
lemma inStep_invariant (time : UInt64) :
    Invariant fun bench : Bench (Recorded σ) => ∃ results, InStep time results bench where
  step bench := by
    rintro ⟨results, inStep⟩
    have turn := turn_step bench
    generalize bench.step = outcome at turn ⊢
    cases turn with
    | rest | refuse => exact ⟨results, inStep⟩
    | close running => exact ⟨results, inStep.closed running⟩
    | tick running clear => exact ⟨_, inStep.ticked running clear⟩
  report bench _ := fun ⟨results, inStep⟩ => ⟨results, { inStep with }⟩
  withMaxTicks bench _ := fun ⟨results, inStep⟩ => ⟨results, { inStep with }⟩
  withCoveragePath bench _ := fun ⟨results, inStep⟩ => ⟨results, { inStep with }⟩

/-- The loop is in step at the end of every session. -/
theorem inStep_of_session {context : Context} {calls : List (Call × Answer)} {build : Build}
    {model : σ} {host : Host} {medium : Medium}
    (session : Session (start build context (.blank model) host medium) calls bench) :
    ∃ results, InStep context.time results bench :=
  session.preserves (inStep_invariant context.time)
    ⟨[], inStep_start build context model host medium⟩

end Bench

/-! ### What the protocol says of a journal -/

namespace Journal.Protocol

variable {time : UInt64} {state : LoopState} {results : List (Except SimError Unit)}
  {journal : Journal}

/-- The clock input is driven low once and then along the square wave. -/
lemma clockWrites_eq (protocol : Protocol time state results journal) :
    journal.clockWrites = (List.range (results.length + 1)).map .wave := by
  induction protocol with
  | opened => rfl
  | ticked before result ih =>
    rw [clockWrites_append, ih, List.length_append, List.length_singleton,
      List.range_succ (n := _ + 1), List.map_append]
    rfl
  | closed before result ih =>
    rw [clockWrites_append, ih]
    exact List.append_nil _

/-- Each evaluation comes one time unit after the one before it, on the next level of the wave. -/
lemma evaluations_eq (protocol : Protocol time state results journal) :
    journal.evaluations = results.mapIdx fun k result =>
      ⟨time + .ofNat (k + 1), .wave (k + 1), false, result⟩ := by
  induction protocol with
  | opened => rfl
  | ticked before result ih =>
    rw [evaluations_append, ih, List.mapIdx_append, List.mapIdx_singleton, Nat.zero_add]
    rfl
  | closed before result ih =>
    rw [evaluations_append, ih]
    exact List.append_nil _

/-- The evaluations end with the results, in order. -/
lemma results_eq (protocol : Protocol time state results journal) :
    journal.evaluations.map Evaluated.result = results := by
  induction protocol with
  | opened => rfl
  | ticked before result ih =>
    rw [evaluations_append, List.map_append, ih]
    rfl
  | closed before result ih =>
    rw [evaluations_append, List.map_append, ih]
    exact List.append_nil _

/-- There is one evaluation for each result. -/
lemma length_evaluations (protocol : Protocol time state results journal) :
    journal.evaluations.length = results.length := by
  rw [← protocol.results_eq, List.length_map]

/-- A stopped loop has finalized its model once and a running one has not. -/
lemma finalizations_eq (protocol : Protocol time state results journal) :
    journal.finalizations = if state = .stopped then 1 else 0 := by
  induction protocol with
  | opened => rfl
  | ticked before result ih =>
    rw [finalizations_append, ih]
    rfl
  | closed before result ih =>
    rw [finalizations_append, ih]
    rfl

end Journal.Protocol

end CycleSim
