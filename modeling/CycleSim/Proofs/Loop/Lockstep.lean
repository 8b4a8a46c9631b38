import Mathlib.Algebra.Ring.Nat
import CycleSim.Model.Scripted
import CycleSim.Proofs.Loop.Journal

/-!
# Time, clock, model and statistics in lockstep

Four counters are moved in three places of a tick: the time of the context, the edges of the clock,
the calls on the model and the ticks of the statistics.  `session_lockstep` ties them to the number
of evaluations in every session.  A failing evaluation moves all of them but the statistics, so the
ticks count the evaluations that succeeded.
-/

namespace CycleSim

/-- A model that fails at its second evaluation and never finishes. -/
def Scripted.faltering : Scripted where
  script := { failures := [(2, .config "late")] }

/-- Every second level of the wave is high, from the first edge on. -/
lemma Level.count_high_wave (n : Nat) :
    ((List.range (n + 1)).map Level.wave).count .high = (n + 1) / 2 := by
  induction n with
  | zero => rfl
  | succ n ih =>
    rw [List.range_succ, List.map_append, List.count_append, ih, List.map_singleton,
      List.count_singleton]
    by_cases odd : (n + 1) % 2 = 1
    · rw [(Level.wave_eq_high_iff _).mpr odd]
      simp only [beq_self_eq_true, if_true]
      omega
    · have low : Level.wave (n + 1) ≠ .high := fun high => odd ((wave_eq_high_iff _).mp high)
      simp only [beq_eq_false_iff_ne.mpr low, Bool.false_eq_true, if_false]
      omega

/-- The rising edges are the odd ones, as long as the edges and their successor fit a word. -/
lemma ClockDriver.toNat_risingEdges {clock : ClockDriver} (few : clock.edges.toNat ≤ 2 ^ 64 - 2) :
    clock.risingEdges.toNat = (clock.edges.toNat + 1) / 2 := by
  rw [risingEdges, UInt64.toNat_div, UInt64.toNat_add]
  have one : (1 : UInt64).toNat = 1 := rfl
  have two : (2 : UInt64).toNat = 2 := rfl
  rw [one, two]
  omega

namespace Bench

variable {σ : Type} [DeviceModel σ]

/-- A successful tick leaves the statistics up to date with clock and time. -/
lemma stats_of_running {before after : Bench σ} (step : before.step = (.ok .running, after)) :
    after.loop.stats.cycles = after.loop.clock.risingEdges ∧
      after.loop.stats.simTime = after.loop.context.time := by
  have turn := turn_step before
  rw [step] at turn
  generalize outcome : (Except.ok LoopState.running, after) = pair at turn
  cases turn with
  | rest => cases outcome
  | close =>
    obtain ⟨result, -⟩ := Prod.mk.inj outcome
    cases closing : before.checkFinished.2.shutdown.1 <;> rw [closing] at result <;> cases result
  | refuse => cases outcome
  | tick running clear below =>
    obtain ⟨result, rfl⟩ := Prod.mk.inj outcome
    cases evaluated : before.loop.evaluation.result with
    | error cause =>
      rw [evaluated] at result
      cases result
    | ok =>
      simp only [ticked, Loop.tick_snd, evaluated, Context.time_absorb]
      exact ⟨rfl, rfl⟩

/-- However steps, runs and settings are called on a new loop, and whatever its model does: while
the counters fit their words, the time since the start, the edges of the clock and the evaluations
of the model are equally many; the clock, the levels driven and the levels seen follow the square
wave; and the statistics count the evaluations that succeeded.  A step that leaves the loop running
leaves cycles and time of the statistics up to date. -/
theorem session_lockstep {build : Build} {context : Context} {model : σ} {host : Host}
    {medium : Medium} {calls : List (Call × Answer)} {bench : Bench σ}
    (session : Session (start build context model host medium) calls bench) :
    (∃ journal, Journaled build context model host calls journal bench medium ∧
      (journal.evaluations.length ≤ 2 ^ 64 - 2 →
        context.time.toNat + journal.evaluations.length < 2 ^ 64 →
        bench.loop.context.time.toNat = context.time.toNat + journal.evaluations.length ∧
        bench.loop.clock.edges.toNat = journal.evaluations.length ∧
        bench.loop.clock.risingEdges.toNat = journal.clockWrites.count .high ∧
        (bench.loop.clock.level = .high ↔ journal.evaluations.length % 2 = 1) ∧
        journal.clockWrites = (List.range (journal.evaluations.length + 1)).map .wave ∧
        (∀ k entry, journal.evaluations[k]? = some entry →
          entry.time.toNat = context.time.toNat + (k + 1) ∧
            (entry.clock = .high ↔ (k + 1) % 2 = 1)) ∧
        bench.loop.stats.ticks.toNat = journal.evaluations.countP (·.result.isOk))) ∧
    (∀ before after : Bench σ, before.step = (.ok .running, after) →
      after.loop.stats.cycles = after.loop.clock.risingEdges ∧
        after.loop.stats.simTime = after.loop.context.time) := by
  refine ⟨?_, fun _ _ => stats_of_running⟩
  obtain ⟨journal, recorded, lifted, rfl, rfl⟩ := session.exists_journal
  obtain ⟨results, inStep⟩ := inStep_of_session lifted
  have writes := inStep.journal.clockWrites_eq
  have entries := inStep.journal.evaluations_eq
  refine ⟨_, ⟨recorded, lifted, rfl, rfl⟩, ?_⟩
  rw [inStep.journal.length_evaluations]
  intro few early
  -- The invariant counts in words; as long as nothing wraps, these are the numbers themselves.
  have edges : recorded.loop.clock.edges.toNat = results.length := by
    rw [inStep.clock, UInt64.toNat_ofNat', Nat.mod_eq_of_lt (by omega)]
  have later : ∀ n ≤ results.length,
      (context.time + UInt64.ofNat n).toNat = context.time.toNat + n := by
    intro n le
    rw [UInt64.toNat_add, UInt64.toNat_ofNat', Nat.mod_eq_of_lt (by omega),
      Nat.mod_eq_of_lt (by omega)]
  refine ⟨?_, edges, ?_, ?_, writes, ?_, ?_⟩
  · show recorded.loop.context.time.toNat = _
    rw [inStep.time, later _ (Nat.le_refl _)]
  · show recorded.loop.clock.risingEdges.toNat = _
    rw [writes, Level.count_high_wave, ClockDriver.toNat_risingEdges (by omega), edges]
  · show recorded.loop.clock.level = _ ↔ _
    rw [inStep.clock]
    exact Level.wave_eq_high_iff _
  · intro k entry found
    rw [entries, List.getElem?_mapIdx] at found
    obtain ⟨result, at_k, rfl⟩ := Option.map_eq_some_iff.mp found
    have inside : k < results.length := (List.getElem?_eq_some_iff.mp at_k).1
    exact ⟨later _ inside, Level.wave_eq_high_iff _⟩
  · have fits : results.countP (·.isOk) ≤ results.length := List.countP_le_length
    have successes : recorded.loop.model.journal.evaluations.countP (·.result.isOk) =
        results.countP (·.isOk) := by
      rw [← inStep.journal.results_eq, List.countP_map]
      rfl
    rw [successes]
    show recorded.loop.stats.ticks.toNat = _
    rw [inStep.ticks, UInt64.toNat_ofNat', Nat.mod_eq_of_lt (by omega)]

/-- The loop on a model that fails at its second evaluation, started at time 5 and after three
steps. -/
def faltered : Bench Scripted :=
  (start {} { Context.plain with time := 5 } .faltering {}).step.2.step.2.step.2

/-- The steps that lead there. -/
def falteredCalls : List (Call × Answer) :=
  [(.step, .stepped (.ok .running)), (.step, .stepped (.error (.config (.reported "late")))),
    (.step, .stepped (.ok .running))]

/-- The failing evaluation moves time and clock and is no tick of the statistics. -/
theorem session_lockstep_faltered :
    Session (start {} { Context.plain with time := 5 } .faltering {}) falteredCalls faltered ∧
      ∃ journal,
        Journaled {} { Context.plain with time := 5 } .faltering {} falteredCalls journal faltered ∧
          journal.evaluations.length = 3 ∧ faltered.loop.context.time.toNat = 5 + 3 ∧
          faltered.loop.clock.edges.toNat = 3 ∧ faltered.loop.stats.ticks.toNat = 2 := by
  have session : Session (start {} { Context.plain with time := 5 } .faltering {}) falteredCalls
      faltered := .cons .step (.cons .step (.cons .step (.nil _)))
  have recorded : Journaled {} { Context.plain with time := 5 } .faltering {} falteredCalls _
      faltered := ⟨_, .cons .step (.cons .step (.cons .step (.nil _))), rfl, rfl⟩
  obtain ⟨⟨journal, journaled, counts⟩, -⟩ := session_lockstep session
  obtain ⟨rfl, -⟩ := journaled.unique recorded rfl
  obtain ⟨time, edges, -, -, -, -, ticks⟩ := counts (by decide) (by decide)
  exact ⟨session, _, recorded, rfl, time, edges, ticks⟩

end Bench

end CycleSim
