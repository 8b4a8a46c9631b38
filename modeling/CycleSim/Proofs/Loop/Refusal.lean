import CycleSim.Model.Scripted
import CycleSim.Proofs.Loop.Outcome
import CycleSim.Proofs.Loop.Pace

/-!
# Runs refused at their tick limit

A step looks for the end of the run before it looks at the tick limit, and it looks at the limit
before it moves anything.  So a step that is refused its tick leaves no trace
(`step_of_tickLimitExceeded`), and a run that ended with a refusal is taken up again under a higher
limit where it stopped (`refused_run_resumable`).

The error of the tick limit is an error like any other, and a model may fail with it.  What a model
fails with is told by `ModelFails`; it is a refusal only if the loop makes it.  A failure of the
model has moved the loop, and the run behind it is another one (`nested_failure_moves`).
-/

namespace CycleSim

/-- A model that finishes with its second evaluation. -/
def Scripted.lasting : Scripted where
  script := { finishFrom := 2 }

/-- A device that runs simulations of its own, one at each evaluation and the last at its
finalization, and answers as they do. -/
structure Nested where
  /-- What the simulations come to that are still to run. -/
  results : List (Except SimError Unit)

instance : DeviceModel Nested where
  name _ := "nested"
  setClock _ model := model
  evaluate _ model := { model := ⟨model.results.tail⟩, result := model.results.headD (.ok ()) }
  finalize model := (model.results.headD (.ok ()), ⟨model.results.tail⟩)
  finished model := model.results.length ≤ 1

namespace Bench

variable {σ : Type} [DeviceModel σ] {bench : Bench σ}

/-- The failure is one of the model: the evaluation of a tick or the finalization of a closing step
fails with `cause`. -/
inductive ModelFails (bench : Bench σ) (cause : SimError) : Prop where
  | evaluation (running : bench.loop.state = .running) (clear : bench.asked = false)
      (below : bench.loop.exceededLimit? = none)
      (failed : bench.loop.evaluation.result = .error cause)
  | finalization (closes : bench.Closes)
      (failed : (DeviceModel.finalize bench.loop.model).1 = .error cause)

/-- A step that answers the error of the tick limit leaves everything as it was, unless that is
what the model has failed with. -/
theorem step_of_tickLimitExceeded {limit : UInt64}
    (refused : bench.step.1 = .error (.tickLimitExceeded limit)) :
    bench.ModelFails (.tickLimitExceeded limit) ∨ bench.step.2 = bench := by
  by_cases closes : bench.Closes
  · have outcome := closing_step closes
    generalize bench.step = after at outcome refused
    cases outcome with
    | refused failed =>
      cases refused
      exact .inl (.finalization closes failed)
    | uncovered | unstored | stored => cases refused
  · have turn := turn_step bench
    generalize bench.step = outcome at turn refused ⊢
    cases turn with
    | rest => cases refused
    | close running asked => exact absurd ⟨running, asked⟩ closes
    | refuse => exact .inr rfl
    | tick running clear below =>
      left
      refine .evaluation running clear below ?_
      cases evaluated : bench.loop.evaluation.result with
      | ok => rw [evaluated] at refused; cases refused
      | error cause =>
        rw [evaluated] at refused
        cases refused
        rfl

/-- A step that leaves the loop running has found its ticks below their limit. -/
lemma ticks_lt_of_running (runs : bench.step.1 = .ok .running) :
    ∀ ticks ∈ bench.loop.maxTicks, bench.loop.stats.ticks < ticks := by
  intro ticks mem
  obtain ⟨-, -, -, below, -⟩ := ticked_of_running runs
  have free := Option.filter_eq_none_iff.mp below ticks mem
  rwa [decide_eq_true_iff, UInt64.not_le] at free

/-- The limit of a loop's ticks can be raised without the steps below it changing. -/
lemma RunsOn.raised {lower : UInt64} {higher : Option UInt64} {n : ℕ} (runs : bench.RunsOn n)
    (limit : bench.loop.maxTicks = some lower) (le : ∀ ticks ∈ higher, lower ≤ ticks) :
    (bench.limited higher).RunsOn n ∧
      (bench.limited higher).stepped n = (bench.stepped n).limited higher := by
  obtain ⟨runs', same⟩ := runs.limited_of_below fun k lt ticks mem => by
    have before : bench.RunsOn k := fun i lt' => runs i (Nat.lt_trans lt' lt)
    have low : lower ∈ (bench.stepped k).loop.maxTicks := before.paced.maxTicks_eq.trans limit
    exact UInt64.lt_of_lt_of_le (ticks_lt_of_running (runs k lt) lower low) (le ticks mem)
  exact ⟨runs', same n le_rfl⟩

/-- A run that was refused can be taken up again under a higher limit, and yields what a run under
that limit yields. -/
lemma yields_of_refused {refused : Bench σ} {steps : List (Bench σ)} {lower limit : UInt64}
    {higher : Option UInt64}
    (run : Performs (bench.limited (some lower)) .run (.ran (.error (.tickLimitExceeded limit)))
      steps refused)
    (own : ∀ step ∈ steps, ¬step.ModelFails (.tickLimitExceeded limit))
    (le : ∀ ticks ∈ higher, lower ≤ ticks) (result : Except SimError RunStats) (loop : Loop σ)
    (files : FileTree) :
    (refused.limited higher).Yields result loop files ↔
      (bench.limited higher).Yields result loop files := by
  obtain ⟨n, runs, -, answer, rfl, rfl⟩ := run.exists_of_run
  generalize place_eq : (bench.limited (some lower)).opened.stepped n = place at answer own
  have failed : place.step.1 = .error (.tickLimitExceeded limit) := by
    cases ended : place.step.1 <;> rw [ended] at answer <;> cases answer
    rfl
  have last : ¬place.ModelFails (.tickLimitExceeded limit) := by
    apply own
    rw [← place_eq]
    exact List.mem_map.mpr ⟨n, List.mem_range.mpr n.lt_succ_self, rfl⟩
  -- The step that was refused has left no trace, so the run ended where that step began.
  have unmoved : place.step.2 = place := (step_of_tickLimitExceeded failed).resolve_left last
  obtain ⟨raised, same⟩ := runs.raised rfl le
  have same' : SameButLog ((bench.limited (some lower)).opened.limited higher)
      (bench.limited higher) := ⟨rfl, rfl, rfl⟩
  rw [stepped_succ, place_eq, unmoved, ← place_eq, ← same]
  refine Iff.trans ?_ same'.yields_iff
  apply yields_stepped
  intro k lt
  exact ⟨_, raised k lt⟩

/-- A refusal at the tick limit loses nothing, whatever the model is and wherever the loop stands.
A step that answers the error of the tick limit leaves everything as it was, unless the model itself
has failed with that error.  A run that ends with a refusal, followed by a run under a limit that is
no lower or under none, yields the answer, the loop and the files of one run under that limit; in
particular the second run returns if and only if the one run does.  And steps that succeed, followed
by a run, yield what a run alone yields. -/
theorem refused_run_resumable :
    (∀ (bench : Bench σ) (limit : UInt64), bench.step.1 = .error (.tickLimitExceeded limit) →
      bench.ModelFails (.tickLimitExceeded limit) ∨ bench.step.2 = bench) ∧
    (∀ (bench refused : Bench σ) (steps : List (Bench σ)) (lower limit : UInt64)
      (higher : Option UInt64),
      Performs (bench.limited (some lower)) .run (.ran (.error (.tickLimitExceeded limit))) steps
        refused →
      (∀ ticks ∈ higher, lower ≤ ticks) →
      (∃ step ∈ steps, step.ModelFails (.tickLimitExceeded limit)) ∨
        ∀ result loop files, (refused.limited higher).Yields result loop files ↔
          (bench.limited higher).Yields result loop files) ∧
    (∀ (bench : Bench σ) (n : ℕ), (∀ k < n, ∃ state, (bench.stepped k).step.1 = .ok state) →
      ∀ result loop files, (bench.stepped n).Yields result loop files ↔
        bench.Yields result loop files) := by
  refine ⟨fun _ _ => step_of_tickLimitExceeded, ?_, fun _ _ passed _ _ _ => yields_stepped passed⟩
  intro bench refused steps lower limit higher run le
  by_cases fails : ∃ step ∈ steps, step.ModelFails (.tickLimitExceeded limit)
  · exact .inl fails
  · right
    push Not at fails
    exact yields_of_refused run fails le

/-- What a run yields whose first step fails is that failure. -/
lemma Yields.eq_of_error {result : Except SimError RunStats} {loop : Loop σ} {files : FileTree}
    {cause : SimError} (yields : bench.Yields result loop files)
    (failed : bench.step.1 = .error cause) : result = .error cause := by
  obtain ⟨bound, after, returned, -, -⟩ := yields_iff.mp yields
  have first : bench.stepsWithin 1 = some (.error cause, bench.step.2) :=
    stepsWithin_of_error (Prod.ext failed rfl) 0
  exact (Prod.mk.inj (stepsWithin_unique returned first)).1

/-- The loop on a device whose first simulation ends at its own tick limit, in an evaluation. -/
def nestedEvaluation : Bench Nested :=
  start {} .plain { results := [.error (.tickLimitExceeded 3), .ok (), .ok ()] } {}

/-- The loop on a device whose only simulation ends so, in the finalization. -/
def nestedFinalization : Bench Nested :=
  start {} .plain { results := [.error (.tickLimitExceeded 3)] } {}

/-- The loop behind the first step of a run under limit 3. -/
def steppedUnderThree (bench : Bench Nested) : Bench Nested :=
  (bench.limited (some 3)).opened.stepped 1

/-- A step that answers the error of the tick limit need not leave everything as it was, and a run
that does need not be resumable.  Where an evaluation or the finalization of the device fails with
that error, the loop has moved; and another run ends well, while one run under no limit ends with
the failure. -/
theorem nested_failure_moves :
    ((nestedEvaluation.step.1 = .error (.tickLimitExceeded 3) ∧
        nestedEvaluation.step.2 ≠ nestedEvaluation) ∧
      (∃ steps, Performs (nestedEvaluation.limited (some 3)) .run
        (.ran (.error (.tickLimitExceeded 3))) steps nestedEvaluation.steppedUnderThree) ∧
      ∃ result loop files,
        (nestedEvaluation.steppedUnderThree.limited none).Yields result loop files ∧
          ¬(nestedEvaluation.limited none).Yields result loop files) ∧
    (nestedFinalization.step.1 = .error (.tickLimitExceeded 3) ∧
        nestedFinalization.step.2 ≠ nestedFinalization) ∧
      (∃ steps, Performs (nestedFinalization.limited (some 3)) .run
        (.ran (.error (.tickLimitExceeded 3))) steps nestedFinalization.steppedUnderThree) ∧
      ∃ result loop files,
        (nestedFinalization.steppedUnderThree.limited none).Yields result loop files ∧
          ¬(nestedFinalization.limited none).Yields result loop files := by
  constructor
  · refine ⟨⟨rfl, fun same => ?_⟩, ⟨_, .run (n := 0) nofun nofun⟩, ?_⟩
    · have time := congrArg (·.loop.context.time) same
      exact absurd time (by decide)
    · -- The other run ticks once, finds the device finished and closes.
      have resumed : (nestedEvaluation.steppedUnderThree.limited none).Yields
          (.ok ((nestedEvaluation.steppedUnderThree.limited none).stepped 2).loop.stats) _ _ :=
        yields_iff.mpr ⟨2, _, rfl, rfl, rfl⟩
      exact ⟨_, _, _, resumed, fun whole => nomatch whole.eq_of_error rfl⟩
  · refine ⟨⟨rfl, fun same => ?_⟩, ⟨_, .run (n := 0) nofun nofun⟩, ?_⟩
    · have state := congrArg (·.loop.state) same
      exact absurd state (by decide)
    · -- The other run finds the loop stopped.
      have resumed : (nestedFinalization.steppedUnderThree.limited none).Yields
          (.ok (nestedFinalization.steppedUnderThree.limited none).loop.stats) _ _ :=
        yields_iff.mpr ⟨1, _, rfl, rfl, rfl⟩
      exact ⟨_, _, _, resumed, fun whole => nomatch whole.eq_of_error rfl⟩

/-- A scripted model never fails with the error of the tick limit. -/
lemma not_modelFails_scripted (bench : Bench Scripted) (limit : UInt64) :
    ¬bench.ModelFails (.tickLimitExceeded limit) := by
  have other (failure : ScriptedFailure) (time : UInt64) :
      failure.toError time ≠ .tickLimitExceeded limit := by
    cases failure <;> exact nofun
  intro fails
  cases fails with
  | evaluation _ _ _ failed =>
    simp only [Loop.evaluation, DeviceModel.evaluate, Scripted.evaluate] at failed
    split at failed
    · exact other _ _ (Except.error.inj failed)
    · cases failed
  | finalization _ failed =>
    simp only [DeviceModel.finalize] at failed
    split at failed
    · exact other _ _ (Except.error.inj failed)
    · cases failed

/-- The loop on a model that finishes with its second evaluation. -/
def lasting : Bench Scripted :=
  start {} .plain .lasting {}

/-- That loop after a run with limit 1. -/
def lastingRefused : Bench Scripted :=
  (lasting.limited (some 1)).opened.stepped 2

/-- With limit 1 its run is refused the second tick, and a further step is refused without a trace.
Without the limit the run is taken up again and ends well after two ticks, as one run does and as a
run behind two steps does. -/
theorem refused_run_resumable_lasting :
    (∃ steps, Performs (lasting.limited (some 1)) .run (.ran (.error (.tickLimitExceeded 1))) steps
      lastingRefused) ∧
    lastingRefused.step.1 = .error (.tickLimitExceeded 1) ∧
    lastingRefused.step.2 = lastingRefused ∧
    ∃ stats loop files, stats.ticks = 2 ∧ stats.finished = true ∧
      (lastingRefused.limited none).Yields (.ok stats) loop files ∧
      (lasting.limited none).Yields (.ok stats) loop files ∧
      (lasting.stepped 2).Yields (.ok stats) loop files := by
  obtain ⟨unmoved, resumes, continues⟩ := @refused_run_resumable Scripted _
  have runs : (lasting.limited (some 1)).opened.RunsOn 1 := by
    intro k lt
    obtain rfl : k = 0 := by omega
    rfl
  have run : Performs (lasting.limited (some 1)) .run (.ran (.error (.tickLimitExceeded 1))) _
      lastingRefused := .run runs nofun
  have refused : lastingRefused.step.1 = .error (.tickLimitExceeded 1) := rfl
  have whole : (lasting.limited none).Yields (.ok (lasting.stepped 3).loop.stats)
      (lasting.stepped 3).loop (lasting.stepped 3).host.files :=
    yields_iff.mpr ⟨3, _, rfl, rfl, rfl⟩
  have passed : ∀ k < 2, ∃ state, (lasting.stepped k).step.1 = .ok state := by
    intro k lt
    obtain rfl | rfl : k = 0 ∨ k = 1 := by omega
    · exact ⟨.running, rfl⟩
    · exact ⟨.running, rfl⟩
  refine ⟨⟨_, run⟩, refused, ?_, _, _, _, rfl, rfl, ?_, whole, ?_⟩
  · exact (unmoved _ _ refused).resolve_left (not_modelFails_scripted _ _)
  · rcases resumes _ _ _ _ _ none run nofun with ⟨step, -, fails⟩ | same
    · exact absurd fails (not_modelFails_scripted step 1)
    · exact (same _ _ _).mpr whole
  · exact (continues lasting 2 passed _ _ _).mpr whole

end Bench

end CycleSim
