import Mathlib.Data.List.Chain
import CycleSim.Model.Scripted
import CycleSim.Proofs.Loop.Journal

/-!
# The lifecycle of a loop

A loop runs until the first step that finds it asked to stop, and is stopped for good from then on,
whether or not its shutdown succeeds.  `session_lifecycle` says so for every model and every order
of calls: the model is finalized once, when the loop stops; no evaluation is made unless the step
has just found the latch clear and the indicator not set; the step that stops makes no tick; and
steps after it do nothing.
-/

namespace CycleSim

/-- A model that finishes with its first evaluation and refuses to close. -/
def Scripted.refusing : Scripted where
  script := { finishFrom := 1, finalizeFailure := some (.config "busy") }

namespace Journal

/-- An evaluation may stand only behind a clock write that found the indicator not set, and it finds
the latch clear. -/
def Guards (before after : ModelCall) : Prop :=
  ∀ entry, after = .evaluate entry →
    before = .setClock entry.clock false ∧ entry.latched = false

/-- Every journal begins with the clock input driven low. -/
lemma Protocol.head_eq {time : UInt64} {state : LoopState}
    {results : List (Except SimError Unit)} {journal : Journal}
    (protocol : Protocol time state results journal) :
    ∃ finished, journal.head? = some (.setClock .low finished) := by
  induction protocol with
  | opened finished => exact ⟨finished, rfl⟩
  | ticked before result ih =>
    obtain ⟨finished, head⟩ := ih
    exact ⟨finished, by rw [List.head?_append, head]; rfl⟩
  | closed before result ih =>
    obtain ⟨finished, head⟩ := ih
    exact ⟨finished, by rw [List.head?_append, head]; rfl⟩

/-- Every evaluation in a journal is guarded by the clock write before it. -/
lemma Protocol.isChain {time : UInt64} {state : LoopState}
    {results : List (Except SimError Unit)} {journal : Journal}
    (protocol : Protocol time state results journal) : journal.IsChain Guards := by
  induction protocol with
  | opened finished => exact .singleton _
  | ticked before result ih =>
    -- The evaluation stands behind the clock write of its own tick; what stood last before the
    -- tick is followed by that clock write, which needs no guard.
    refine List.isChain_append.mpr ⟨ih, ?_, ?_⟩
    · refine List.isChain_pair.mpr ?_
      rintro entry ⟨rfl⟩
      exact ⟨rfl, rfl⟩
    · rintro _ - _ ⟨rfl⟩ entry clash
      cases clash
  | closed before result ih =>
    refine List.isChain_append.mpr ⟨ih, .singleton _, ?_⟩
    rintro _ - _ ⟨rfl⟩ entry clash
    cases clash

end Journal

namespace Bench

variable {σ : Type} [DeviceModel σ]

/-- A step evaluates the model only if it has found the loop running, the latch clear and the
indicator not set. -/
lemma clear_of_evaluations_ne {bench : Bench (Recorded σ)}
    (evaluated : bench.step.2.loop.model.journal.evaluations ≠
      bench.loop.model.journal.evaluations) :
    bench.loop.state = .running ∧ bench.loop.context.stopRequested = false ∧
      DeviceModel.finished bench.loop.model.model = false := by
  have turn := turn_step bench
  generalize bench.step = outcome at turn evaluated
  cases turn with
  | rest | refuse => exact absurd rfl evaluated
  | close =>
    rw [journal_closed, Journal.evaluations_append] at evaluated
    exact absurd (List.append_nil _) evaluated
  | tick running clear => exact ⟨running, Bool.or_eq_false_iff.mp clear⟩

/-- A step that finds a running loop asked to stop leaves it stopped, and makes no part of a
tick. -/
lemma stopped_of_asked {bench : Bench (Recorded σ)} (running : bench.loop.state = .running)
    (asked : bench.loop.context.stopRequested = true ∨
      DeviceModel.finished bench.loop.model.model = true) :
    bench.step.2.loop.state = .stopped ∧
      bench.step.2.loop.context.time = bench.loop.context.time ∧
      bench.step.2.loop.clock = bench.loop.clock ∧
      bench.step.2.loop.model.journal.clockWrites = bench.loop.model.journal.clockWrites ∧
      bench.step.2.loop.model.journal.evaluations = bench.loop.model.journal.evaluations := by
  have found : bench.asked = true := Bool.or_eq_true_iff.mpr asked
  have journal := bench.journal_closed
  obtain ⟨finished, points, covered, loop⟩ := bench.closed_loop
  rw [step_of_asked running found]
  simp only [journal, Journal.clockWrites_append, Journal.evaluations_append]
  rw [loop]
  exact ⟨rfl, rfl, rfl, List.append_nil _, List.append_nil _⟩

/-- Whatever the model does and whatever calls are made: a loop is stopped exactly when it has
finalized its model, which it does at most once; every evaluation belongs to a step that has just
found the latch clear and the indicator not set; a step that finds the run asked to stop stops the
loop without any part of a tick, whether or not it fails; and a stopped loop stays as it is. -/
theorem session_lifecycle {build : Build} {context : Context} {model : σ} {host : Host}
    {medium : Medium} {calls : List (Call × Answer)} {bench : Bench σ}
    (session : Session (start build context model host medium) calls bench) :
    (∃ journal, Journaled build context model host calls journal bench medium ∧
      journal.finalizations ≤ 1 ∧
      (bench.loop.state = .stopped ↔ journal.finalizations = 1) ∧
      (∃ finished, journal.head? = some (.setClock .low finished)) ∧
      journal.IsChain Journal.Guards) ∧
    (∀ recorded : Bench (Recorded σ),
      recorded.step.2.loop.model.journal.evaluations ≠
          recorded.loop.model.journal.evaluations →
        recorded.loop.state = .running ∧ recorded.loop.context.stopRequested = false ∧
          DeviceModel.finished recorded.loop.model.model = false) ∧
    (∀ recorded : Bench (Recorded σ), recorded.loop.state = .running →
      recorded.loop.context.stopRequested = true ∨
          DeviceModel.finished recorded.loop.model.model = true →
        recorded.step.2.loop.state = .stopped ∧
          recorded.step.2.loop.context.time = recorded.loop.context.time ∧
          recorded.step.2.loop.clock = recorded.loop.clock ∧
          recorded.step.2.loop.model.journal.clockWrites =
            recorded.loop.model.journal.clockWrites ∧
          recorded.step.2.loop.model.journal.evaluations =
            recorded.loop.model.journal.evaluations) ∧
    (∀ other : Bench σ, other.loop.state = .stopped → other.step = (.ok .stopped, other)) := by
  refine ⟨?_, fun _ => clear_of_evaluations_ne, fun _ => stopped_of_asked,
    fun _ => step_of_stopped⟩
  obtain ⟨journal, recorded, lifted, rfl, rfl⟩ := session.exists_journal
  obtain ⟨results, inStep⟩ := inStep_of_session lifted
  have count := inStep.journal.finalizations_eq
  refine ⟨_, ⟨recorded, lifted, rfl, rfl⟩, ?_, ?_, inStep.journal.head_eq,
    inStep.journal.isChain⟩
  · rw [count]
    split <;> decide
  · show recorded.loop.state = .stopped ↔ _
    rw [count]
    split <;> simp_all

/-- The loop on a model that refuses to close, after its failed shutdown and a run. -/
def refused : Bench Scripted :=
  (start {} .plain .refusing {}).step.2.step.2.opened

/-- The calls that lead there.  The run after the failed shutdown answers with statistics. -/
def refusedCalls : List (Call × Answer) :=
  [(.step, .stepped (.ok .running)),
    (.step, .stepped (.error (.config (.reported "busy")))),
    (.run, .ran (.ok
      { model := "scripted", timeUnit := .nanosecond, ticks := 1, cycles := 1, simTime := 1 }))]

/-- The model that refuses to close is finalized once, although two calls follow its last
evaluation. -/
theorem session_lifecycle_refused :
    Session (start {} .plain .refusing {}) refusedCalls refused ∧
      ∃ journal, Journaled {} .plain .refusing {} refusedCalls journal refused ∧
        journal.finalizations = 1 := by
  have returned : (start {} .plain .refusing {}).step.2.step.2.runWithin 1 =
      some (.ok refused.loop.stats, refused) := rfl
  have session : Session (start {} .plain .refusing {}) refusedCalls refused :=
    .cons .step (.cons .step (.cons (.run returned) (.nil _)))
  obtain ⟨⟨journal, journaled, -, stopped, -⟩, -⟩ := session_lifecycle session
  exact ⟨session, journal, journaled, stopped.mp rfl⟩

end Bench

end CycleSim
