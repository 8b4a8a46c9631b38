import CycleSim.Proofs.Loop.Alongside
import CycleSim.Proofs.Loop.Closing
import CycleSim.Proofs.Loop.Trail

/-!
# The outcome of a run

A loop reports to a log that it never reads, so loops that differ in nothing but their logs make the
same steps (`SameButLog.step`).  What a run comes to is therefore told without the log: `Yields`
holds of the answer of a run, the loop that it leaves and the files that it leaves.

A run is the steps that it makes, so steps that succeed belong to the run that follows them: a run
behind them yields what a run in their place yields (`yields_stepped`).
-/

namespace CycleSim.Bench

variable {σ : Type} [DeviceModel σ] {bench first second : Bench σ}
  {result : Except SimError RunStats} {loop : Loop σ} {files : FileTree}

/-! ### The log plays no part -/

omit [DeviceModel σ] in
/-- The loops, the files and the media are the same; the logs may differ. -/
structure SameButLog (first second : Bench σ) : Prop where
  loop_eq : first.loop = second.loop
  files_eq : first.host.files = second.host.files
  medium_eq : first.medium = second.medium

omit [DeviceModel σ] in
/-- What is the same but for the log is so the other way round. -/
lemma SameButLog.symm (same : SameButLog first second) : SameButLog second first :=
  ⟨same.loop_eq.symm, same.files_eq.symm, same.medium_eq.symm⟩

/-- A look at the indicator does not depend on the log. -/
lemma SameButLog.checkFinished (same : SameButLog first second) :
    SameButLog first.checkFinished.2 second.checkFinished.2 := by
  have look (bench : Bench σ) : bench.checkFinished.2.loop = { bench.loop with
      context := bench.loop.context.latch (DeviceModel.finished bench.loop.model) } := rfl
  refine ⟨?_, ?_, same.medium_eq⟩
  · rw [look, look, same.loop_eq]
  · rw [checkFinished_files, checkFinished_files, same.files_eq]

/-- A finalization does not depend on the log. -/
lemma SameButLog.finalized (same : SameButLog first second) :
    SameButLog first.finalized second.finalized := by
  refine ⟨?_, same.files_eq, same.medium_eq⟩
  unfold Bench.finalized
  rw [same.loop_eq]

/-- A shutdown does not depend on the log. -/
lemma SameButLog.shutdown (same : SameButLog first second) :
    first.shutdown.1 = second.shutdown.1 ∧ SameButLog first.shutdown.2 second.shutdown.2 := by
  have finalized := same.finalized
  cases closing : (DeviceModel.finalize second.loop.model).1 with
  | error cause =>
    have closing' : (DeviceModel.finalize first.loop.model).1 = .error cause := by
      rw [same.loop_eq, closing]
    rw [shutdown_of_refused closing, shutdown_of_refused closing']
    exact ⟨rfl, finalized⟩
  | ok =>
    have closing' : (DeviceModel.finalize first.loop.model).1 = .ok () := by
      rw [same.loop_eq, closing]
    by_cases uncovered : second.loop.build.coverage = false ∨ second.loop.context.coverage = none
    · have uncovered' : first.loop.build.coverage = false ∨ first.loop.context.coverage = none := by
        rwa [same.loop_eq]
      rw [shutdown_of_uncovered closing uncovered, shutdown_of_uncovered closing' uncovered']
      refine ⟨rfl, ?_, finalized.files_eq, finalized.medium_eq⟩
      unfold conclude
      rw [finalized.loop_eq]
    · obtain ⟨compiled, enabled⟩ := not_or.mp uncovered
      rw [Bool.not_eq_false] at compiled
      obtain ⟨db, enabled⟩ := Option.ne_none_iff_exists'.mp enabled
      have compiled' : first.loop.build.coverage = true := by rw [same.loop_eq, compiled]
      have enabled' : first.loop.context.coverage = some db := by rw [same.loop_eq, enabled]
      obtain ⟨result, files, storing⟩ :=
        exists_storing second.medium second.loop.coveragePath db second.host.files
      have storing' : Storing first.medium first.loop.coveragePath db first.host.files result
          files := by
        rwa [same.medium_eq, same.loop_eq, same.files_eq]
      cases result with
      | error cause =>
        rw [shutdown_of_unstored closing compiled enabled storing,
          shutdown_of_unstored closing' compiled' enabled' storing', same.loop_eq]
        exact ⟨rfl, finalized.loop_eq, rfl, same.medium_eq⟩
      | ok =>
        rw [shutdown_of_stored closing compiled enabled storing,
          shutdown_of_stored closing' compiled' enabled' storing']
        refine ⟨rfl, ?_, rfl, same.medium_eq⟩
        unfold conclude reported stored
        rw [finalized.loop_eq]

/-- A step does not depend on the log. -/
theorem SameButLog.step (same : SameButLog first second) :
    first.step.1 = second.step.1 ∧ SameButLog first.step.2 second.step.2 := by
  have asked : second.asked = first.asked := by
    unfold Bench.asked
    rw [same.loop_eq]
  have turn := turn_step first
  generalize first.step = outcome at turn ⊢
  cases turn with
  | rest stopped =>
    rw [same.loop_eq] at stopped
    rw [step_of_stopped stopped]
    exact ⟨rfl, same⟩
  | close running found =>
    rw [same.loop_eq] at running
    rw [step_of_asked running (asked.trans found)]
    obtain ⟨answer, closed⟩ := same.checkFinished.shutdown
    exact ⟨congrArg (Except.map _) answer, closed⟩
  | refuse running clear exceeded =>
    rw [same.loop_eq] at running exceeded
    rw [step_of_exceeded running (asked.trans clear) exceeded]
    exact ⟨rfl, same⟩
  | tick running clear below =>
    rw [same.loop_eq] at running below
    rw [step_of_below running (asked.trans clear) below, same.loop_eq]
    refine ⟨rfl, ?_, same.files_eq, same.medium_eq⟩
    unfold ticked
    rw [same.loop_eq]

/-- Loops that differ in nothing but their logs run side by side. -/
lemma alongside_sameButLog : Alongside (@SameButLog σ) id fun _ => True where
  step := SameButLog.step
  opened same := ⟨same.loop_eq, same.files_eq, same.medium_eq⟩
  stats same := congrArg Loop.stats same.loop_eq
  withMaxTicks limit same :=
    ⟨congrArg (·.withMaxTicks limit) same.loop_eq, same.files_eq, same.medium_eq⟩
  withCoveragePath {_ _ path} _ same :=
    ⟨congrArg (·.withCoveragePath path) same.loop_eq, same.files_eq, same.medium_eq⟩

/-- A run does not depend on the log. -/
lemma SameButLog.stepsWithin (same : SameButLog first second) {bound : ℕ} {after : Bench σ}
    (returned : first.stepsWithin bound = some (result, after)) :
    ∃ after', second.stepsWithin bound = some (result, after') ∧ SameButLog after after' := by
  obtain ⟨result', after', returned', alike, next⟩ :=
    alongside_sameButLog.stepsWithin same returned
  obtain rfl : result = result' := by simpa only [Except.map_id, id] using alike
  exact ⟨after', returned', next⟩

/-! ### Outcomes -/

/-- A run returns `result`, and leaves this loop and these files. -/
def Yields (bench : Bench σ) (result : Except SimError RunStats) (loop : Loop σ)
    (files : FileTree) : Prop :=
  ∃ after, Makes bench .run (.ran result) after ∧ after.loop = loop ∧ after.host.files = files

/-- A run yields what its steps return. -/
lemma yields_iff :
    bench.Yields result loop files ↔
      ∃ bound after, bench.stepsWithin bound = some (result, after) ∧
        after.loop = loop ∧ after.host.files = files := by
  have opened : SameButLog bench.opened bench := ⟨rfl, rfl, rfl⟩
  constructor
  · rintro ⟨after, made, rfl, rfl⟩
    cases made with
    | run returned =>
      obtain ⟨after', returned', same⟩ := opened.stepsWithin returned
      exact ⟨_, after', returned', same.loop_eq.symm, same.files_eq.symm⟩
  · rintro ⟨bound, after, returned, rfl, rfl⟩
    obtain ⟨after', returned', same⟩ := opened.symm.stepsWithin returned
    exact ⟨after', .run returned', same.loop_eq.symm, same.files_eq.symm⟩

/-- What a run yields does not depend on the log. -/
lemma SameButLog.yields_iff (same : SameButLog first second) :
    first.Yields result loop files ↔ second.Yields result loop files := by
  have transfer {one other : Bench σ} (same : SameButLog one other)
      (yields : one.Yields result loop files) : other.Yields result loop files := by
    obtain ⟨bound, after, returned, rfl, rfl⟩ := Bench.yields_iff.mp yields
    obtain ⟨after', returned', same'⟩ := same.stepsWithin returned
    exact Bench.yields_iff.mpr
      ⟨bound, after', returned', same'.loop_eq.symm, same'.files_eq.symm⟩
  exact ⟨transfer same, transfer same.symm⟩

/-- A step that succeeds is a part of the run that follows it. -/
lemma yields_step {state : LoopState} (passed : bench.step.1 = .ok state) :
    bench.step.2.Yields result loop files ↔ bench.Yields result loop files := by
  have step : bench.step = (.ok state, bench.step.2) := Prod.ext passed rfl
  have same : ∃ shift, ∀ bound,
      bench.step.2.stepsWithin (bound + 1) = bench.stepsWithin (bound + 1 + shift) := by
    cases state with
    | running => exact ⟨1, fun bound => (stepsWithin_of_running step (bound + 1)).symm⟩
    | stopped =>
      -- Behind the end of a run a second run finds the loop stopped and returns at once.
      refine ⟨0, fun bound => ?_⟩
      have again := step_of_stopped (state_eq_of_stopped passed)
      exact (stepsWithin_of_stopped again bound).trans (stepsWithin_of_stopped step bound).symm
  obtain ⟨shift, same⟩ := same
  rw [yields_iff, yields_iff]
  constructor
  · rintro ⟨bound, after, returned, left⟩
    refine ⟨bound + 1 + shift, after, ?_, left⟩
    rw [← same]
    exact stepsWithin_mono (Nat.le_succ bound) returned
  · rintro ⟨bound, after, returned, left⟩
    refine ⟨bound + 1, after, ?_, left⟩
    rw [same]
    exact stepsWithin_mono (by omega) returned

/-- A run behind steps that succeed yields what a run in their place yields. -/
theorem yields_stepped {n : ℕ} (passed : ∀ k < n, ∃ state, (bench.stepped k).step.1 = .ok state) :
    (bench.stepped n).Yields result loop files ↔ bench.Yields result loop files := by
  induction n with
  | zero => rfl
  | succ n ih =>
    obtain ⟨state, last⟩ := passed n n.lt_succ_self
    rw [stepped_succ, yields_step last]
    exact ih fun k lt => passed k (Nat.lt_succ_of_lt lt)

end CycleSim.Bench
