import CycleSim.Proofs.Loop.CoverageFile
import CycleSim.Proofs.Loop.Exit
import CycleSim.Proofs.Loop.Lifecycle
import CycleSim.Proofs.Loop.Pace
import CycleSim.Proofs.Loop.Refusal
import CycleSim.Proofs.Loop.Resume

/-!
# What the statistics of a run tell

A run that returns statistics has found the loop stopped or has stopped it.  Its statistics tell two
things of the loop that are true of most runs, and this module says of which.

They tell that the run has finished, unless the shutdown had failed in an earlier call: a loop whose
shutdown has failed is stopped, so a later run of it returns the statistics that the failure left
(`run_finished_iff`).  And they tell the time that the run has reached, unless the run stops before
its first tick: the statistics of a new loop begin at time 0, even if its context does not
(`run_simTime_iff`).
-/

namespace CycleSim

/-- The failure that a call answers, if it answers one. -/
def Answer.failure? : Answer → Option SimError
  | .stepped (.error cause) => some cause
  | .ran (.error cause) => some cause
  | _ => none

namespace Bench

variable {σ : Type} [DeviceModel σ] {bench first last step : Bench σ} {steps : List (Bench σ)}
  {calls : List (Call × Answer)} {cause : SimError}

/-! ### No failure is lost -/

/-- A step that fails gives its call the answer. -/
lemma Performs.failure?_eq {call : Call} {answer : Answer} {after : Bench σ}
    (made : Performs bench call answer steps after) (mem : step ∈ steps)
    (failed : step.step.1 = .error cause) : answer.failure? = some cause := by
  cases made with
  | step =>
    rw [List.mem_singleton.mp mem] at failed
    rw [failed]
    rfl
  | run runs ends =>
    obtain ⟨k, lt, rfl⟩ := List.mem_map.mp mem
    have le := Nat.lt_succ_iff.mp (List.mem_range.mp lt)
    rcases Nat.lt_or_eq_of_le le with lt | rfl
    · exact nomatch (runs k lt).symm.trans failed
    · rw [failed]
      rfl
  | withMaxTicks | withCoveragePath => exact absurd mem List.not_mem_nil

/-- Every failure of a step is the answer of some call. -/
lemma Trail.exists_failure (trail : Trail bench calls steps last) (mem : step ∈ steps)
    (failed : step.step.1 = .error cause) : ∃ entry ∈ calls, entry.2.failure? = some cause := by
  induction trail with
  | nil => exact absurd mem List.not_mem_nil
  | cons made rest ih =>
    rcases List.mem_append.mp mem with here | later
    · exact ⟨_, List.mem_cons_self, made.failure?_eq here failed⟩
    · obtain ⟨entry, mem, answered⟩ := ih later
      exact ⟨entry, List.mem_cons_of_mem _ mem, answered⟩

/-! ### Whether a run has finished -/

/-- A run that returns statistics leaves the loop stopped and returns what the loop holds. -/
lemma Makes.stopped_of_ran {stats : RunStats} (made : Makes bench .run (.ran (.ok stats)) last) :
    last.loop.state = .stopped ∧ last.loop.stats = stats := by
  obtain ⟨steps, performs⟩ := made.exists_performs
  obtain ⟨n, -, ends, answer, -, rfl⟩ := performs.exists_of_run
  rw [stepped_succ] at answer ⊢
  cases ended : (bench.opened.stepped n).step.1 with
  | error cause =>
    rw [ended] at answer
    cases answer
  | ok state =>
    rw [ended] at answer ends
    cases state with
    | running => exact absurd rfl ends
    | stopped => exact ⟨state_eq_of_stopped ended, (Except.ok.inj answer).symm⟩

/-- A stopped loop was closed at one of its steps. -/
lemma Stage.exists_closing (stage : Stage first steps last)
    (stopped : last.loop.state = .stopped) :
    ∃ closing ∈ steps, closing.Closes ∧ Unclosed first closing ∧ Agrees last closing.step.2 := by
  rcases stage.exists_closes with ⟨here, -⟩ | ⟨closing, mem, closes⟩
  · exact nomatch here.running.symm.trans stopped
  · obtain ⟨here, agrees⟩ := stage.agrees mem closes
    exact ⟨closing, mem, closes, here, agrees⟩

/-- After a closing step the run is unfinished exactly if the step has failed. -/
lemma Closes.unfinished_iff (closes : bench.Closes) (fresh : bench.loop.stats.finished = false) :
    bench.step.2.loop.stats.finished = false ↔ ∃ cause, bench.step.1 = .error cause := by
  have outcome := closing_step closes
  generalize bench.step = after at outcome ⊢
  cases outcome with
  | refused | unstored => exact ⟨fun _ => ⟨_, rfl⟩, fun _ => fresh⟩
  | uncovered | stored => exact ⟨nofun, fun ⟨_, failed⟩ => nomatch failed⟩

/-- What the statistics of a run say of its end.  Whenever a run returns statistics, some step of
the session has closed the loop.  They call the run finished exactly if that step finalized the
model with success and wrote the coverage file, if there was coverage to write; and they call it
unfinished exactly if that step has failed, with a failure that an earlier call has answered.  So
statistics that are returned before any call has failed call the run finished. -/
theorem run_finished_iff {build : Build} {context : Context} {model : σ} {host : Host}
    {medium : Medium} {stats : RunStats}
    (session : Session (start build context model host medium)
      (calls ++ [(.run, .ran (.ok stats))]) last) :
    (∃ steps closing,
      Trail (start build context model host medium) (calls ++ [(.run, .ran (.ok stats))]) steps
        last ∧
        closing ∈ steps ∧ closing.Closes ∧
        (stats.finished = true ↔
          (DeviceModel.finalize closing.loop.model).1 = .ok () ∧
            (build.coverage = false ∨ closing.loop.context.coverage = none ∨
              ∃ content files, closing.Writes content files)) ∧
        (stats.finished = false ↔
          ∃ cause, closing.step.1 = .error cause ∧
            ∃ entry ∈ calls, entry.2.failure? = some cause)) ∧
    ((∀ entry ∈ calls, entry.2.failure? = none) → stats.finished = true) := by
  obtain ⟨before, -, run⟩ := session.exists_of_append
  obtain ⟨stopped, rfl⟩ := run.makes.stopped_of_ran
  obtain ⟨steps, trail⟩ := session.exists_trail
  obtain ⟨closing, mem, closes, here, agrees⟩ := trail.stage.exists_closing stopped
  have finished := closes.finished_iff here.finished_eq
  have unfinished := closes.unfinished_iff here.finished_eq
  rw [← agrees.stats_eq] at finished unfinished
  rw [here.build_eq] at finished
  -- The failing step belongs to an earlier call, for the last call has answered statistics.
  have earlier {cause : SimError} (failed : closing.step.1 = .error cause) :
      ∃ entry ∈ calls, entry.2.failure? = some cause := by
    obtain ⟨entry, mem, answered⟩ := trail.exists_failure mem failed
    rcases List.mem_append.mp mem with mem | mem
    · exact ⟨entry, mem, answered⟩
    · rw [List.mem_singleton.mp mem] at answered
      cases answered
  constructor
  · refine ⟨steps, closing, trail, mem, closes, finished, unfinished.trans ?_⟩
    constructor
    · rintro ⟨cause, failed⟩
      exact ⟨cause, failed, earlier failed⟩
    · rintro ⟨cause, failed, -⟩
      exact ⟨cause, failed⟩
  · intro noFailure
    by_contra notFinished
    obtain ⟨cause, failed⟩ := unfinished.mp (Bool.eq_false_of_not_eq_true notFinished)
    obtain ⟨entry, mem, answered⟩ := earlier failed
    exact nomatch (noFailure entry mem).symm.trans answered

/-- The loop on a model that refuses to close, after two runs. -/
def rerun : Bench Scripted :=
  ((start {} .plain .refusing {}).opened.stepped 2).opened.stepped 1

/-- The statistics of the second run: one tick, and not finished. -/
def rerunStats : RunStats where
  model := "scripted"
  timeUnit := .nanosecond
  ticks := 1
  cycles := 1
  simTime := 1

/-- The first run answers the failure of the shutdown. -/
def rerunCalls : List (Call × Answer) :=
  [(.run, .ran (.error (.config (.reported "busy"))))]

/-- The two runs of that loop make a session. -/
lemma session_rerun :
    Session (start {} .plain .refusing {}) (rerunCalls ++ [(.run, .ran (.ok rerunStats))]) rerun :=
  .cons (.run (show runWithin 2 _ = _ from rfl)) (.cons (.run (show runWithin 1 _ = _ from rfl))
    (.nil _))

/-- A run that returns statistics need not have finished: behind a failed shutdown the second run
returns the statistics of an unfinished one. -/
theorem rerun_unfinished :
    Session (start {} .plain .refusing {}) (rerunCalls ++ [(.run, .ran (.ok rerunStats))]) rerun ∧
      rerunStats.finished = false :=
  ⟨session_rerun, rfl⟩

/-- The calls that run the lasting loop into its limit and lift the limit. -/
def liftedCalls : List (Call × Answer) :=
  [(.withMaxTicks (some 1), .configured), (.run, .ran (.error (.tickLimitExceeded 1))),
    (.withMaxTicks none, .configured)]

/-- The lasting loop after these calls and a run. -/
def lifted : Bench Scripted :=
  (lastingRefused.limited none).opened.stepped 2

/-- The unfinished run has failed before.  The lasting loop, which was refused a tick before, has
finalized its model when its run returns, and so it has if its run is the first call. -/
theorem run_finished_iff_rerun :
    (∃ cause, ∃ entry ∈ rerunCalls, entry.2.failure? = some cause) ∧
    (Session lasting (liftedCalls ++ [(.run, .ran (.ok lifted.loop.stats))]) lifted ∧
      ∃ closing : Bench Scripted, closing.Closes ∧
        (DeviceModel.finalize closing.loop.model).1 = .ok ()) ∧
    (Session lasting ([] ++ [(.run, .ran (.ok (lasting.opened.stepped 3).loop.stats))])
        (lasting.opened.stepped 3) ∧
      (lasting.opened.stepped 3).loop.stats.finished = true) := by
  refine ⟨?_, ?_, ?_⟩
  · obtain ⟨⟨_, closing, -, -, -, -, unfinished⟩, -⟩ := run_finished_iff session_rerun
    obtain ⟨cause, -, answered⟩ := unfinished.mp rfl
    exact ⟨cause, answered⟩
  · have session : Session lasting (liftedCalls ++ [(.run, .ran (.ok lifted.loop.stats))]) lifted :=
      .cons (.withMaxTicks _) (.cons (.run (show runWithin 2 _ = _ from rfl))
        (.cons (.withMaxTicks _) (.cons (.run (show runWithin 2 _ = _ from rfl)) (.nil _))))
    obtain ⟨⟨_, closing, -, -, closes, finished, -⟩, -⟩ := run_finished_iff session
    exact ⟨session, closing, closes, (finished.mp rfl).1⟩
  · have session : Session lasting
        ([] ++ [(.run, .ran (.ok (lasting.opened.stepped 3).loop.stats))])
        (lasting.opened.stepped 3) := .cons (.run (show runWithin 3 _ = _ from rfl)) (.nil _)
    obtain ⟨-, finished⟩ := run_finished_iff session
    exact ⟨session, finished (List.forall_mem_nil _)⟩

/-! ### Where a run has ended -/

/-- Calls that only set a loop up leave it as it was. -/
lemma Session.agrees_of_configured (session : Session bench calls last)
    (configured : ∀ entry ∈ calls, entry.2 = .configured) : Agrees last bench := by
  induction session with
  | nil bench => exact .refl bench
  | cons made rest ih =>
    obtain ⟨here, later⟩ := List.forall_mem_cons.mp configured
    have agrees := ih later
    cases made with
    | step | run => cases here
    | withMaxTicks limit => exact { agrees with }
    | withCoveragePath path => exact { agrees with }

/-- The step that ends a run is its first exactly if the loop was asked to stop from the
beginning. -/
lemma RunsOn.eq_zero_iff {n : ℕ} (runs : bench.RunsOn n) (closes : (bench.stepped n).Closes) :
    n = 0 ↔ bench.asked = true := by
  constructor
  · rintro rfl
    exact closes.2
  · intro asked
    by_contra later
    obtain ⟨-, -, clear, -, -⟩ := ticked_of_running (runs 0 (Nat.pos_of_ne_zero later))
    exact nomatch clear.symm.trans asked

/-- A run of a running loop that returns statistics closes the loop behind its ticks. -/
lemma Makes.exists_closes {stats : RunStats} (made : Makes bench .run (.ran (.ok stats)) last)
    (running : bench.loop.state = .running) :
    ∃ n, bench.opened.RunsOn n ∧ (bench.opened.stepped n).Closes ∧
      (bench.opened.stepped n).step = (.ok .stopped, last) ∧ stats = last.loop.stats := by
  obtain ⟨stopped, rfl⟩ := made.stopped_of_ran
  obtain ⟨steps, performs⟩ := made.exists_performs
  obtain ⟨n, runs, ends, answer, -, rfl⟩ := performs.exists_of_run
  have ended : (bench.opened.stepped n).step.1 = .ok .stopped := by
    rcases outcome : (bench.opened.stepped n).step.1 with _ | (_ | _)
    · rw [outcome] at answer
      cases answer
    · exact absurd outcome ends
    · rfl
  have closes : (bench.opened.stepped n).Closes := by
    rcases stopped_or_closes ended with stopped | closes
    · exact nomatch (runs.paced.state_eq.trans running).symm.trans stopped
    · exact closes
  exact ⟨n, runs, closes, Prod.ext ended (bench.opened.stepped_succ n).symm, rfl⟩

/-- It makes no tick exactly if the loop was asked to stop from the beginning. -/
lemma Makes.exists_paced {stats : RunStats} (made : Makes bench .run (.ran (.ok stats)) last)
    (running : bench.loop.state = .running) :
    ∃ n closing, Paced bench n closing ∧ (n = 0 ↔ bench.asked = true) ∧ last = closing.closed ∧
      stats = closing.closed.loop.stats := by
  obtain ⟨n, runs, closes, ended, rfl⟩ := made.exists_closes running
  have closed : last = (bench.opened.stepped n).closed := by
    rw [step_of_asked closes.1 closes.2] at ended
    exact (congrArg Prod.snd ended).symm
  exact ⟨n, _, { runs.paced with }, runs.eq_zero_iff closes, closed, by rw [← closed]⟩

omit [DeviceModel σ] in
/-- The counters of a loop after ticks from its beginning, as its statistics tell them.  They begin
at 0, and so does the time of the statistics, whatever the time of the context is. -/
lemma Paced.report {n : ℕ} (paced : Paced first n bench) (clock : first.loop.clock = {})
    (ticks : first.loop.stats.ticks = 0) (cycles : first.loop.stats.cycles = 0)
    (simTime : first.loop.stats.simTime = 0) :
    bench.loop.stats.ticks = bench.loop.clock.edges ∧
      bench.loop.stats.cycles = bench.loop.clock.risingEdges ∧
      bench.loop.stats.simTime = if n = 0 then 0 else bench.loop.context.time := by
  have wave : bench.loop.clock = ⟨.wave n, .ofNat n⟩ := by
    rw [paced.clock_eq, clock, ClockDriver.iterate_tick]
  refine ⟨?_, ?_, ?_⟩
  · rw [paced.ticks_eq, ticks, wave, UInt64.zero_add]
  · rw [paced.stats_eq]
    dsimp only
    split
    · rename_i none
      rw [cycles, wave, none]
      rfl
    · rfl
  · rw [paced.stats_eq, simTime]

/-- What the statistics of the first run of a loop say of the place where it has ended.  Whenever
the first run of a new loop returns statistics, whatever its context has seen before, their ticks
are the edges of the clock and their cycles the rising edges.  Their time is the time of the
context, unless the run was to stop before its first tick and the context came with a time of its
own; then they tell time 0. -/
theorem run_simTime_iff {build : Build} {context : Context} {model : σ} {host : Host}
    {medium : Medium} {settings : List (Call × Answer)} {stats : RunStats}
    (session : Session (start build context model host medium)
      (settings ++ [(.run, .ran (.ok stats))]) last)
    (configured : ∀ entry ∈ settings, entry.2 = .configured) :
    stats.ticks = last.loop.clock.edges ∧
      stats.cycles = last.loop.clock.risingEdges ∧
      (stats.simTime = last.loop.context.time ↔
        ¬FinishedAfter context model 0 ∨ context.time = 0) ∧
      (FinishedAfter context model 0 →
        stats.simTime = 0 ∧ last.loop.context.time = context.time) := by
  obtain ⟨before, setup, run⟩ := session.exists_of_append
  have fresh := setup.agrees_of_configured configured
  have asked_iff : before.asked = true ↔ FinishedAfter context model 0 := by
    rw [asked, fresh.context_eq, fresh.model_eq, Bool.or_eq_true_iff]
    rfl
  obtain ⟨n, closing, paced, atOnce, rfl, rfl⟩ := run.makes.exists_paced fresh.state_eq
  rw [asked_iff] at atOnce
  have stats_eq : before.loop.stats = (start build context model host medium).loop.stats :=
    fresh.stats_eq
  obtain ⟨ticks, cycles, simTime⟩ := paced.report fresh.clock_eq (by rw [stats_eq]; rfl)
    (by rw [stats_eq]; rfl) (by rw [stats_eq]; rfl)
  have time : closing.loop.context.time = context.time + .ofNat n := by
    rw [paced.time_eq, fresh.context_eq]
    rfl
  obtain ⟨finished, points, covered, loop⟩ := closing.closed_loop
  rw [loop]
  refine ⟨ticks, cycles, ?_, ?_⟩
  · show closing.loop.stats.simTime = closing.loop.context.time ↔ _
    rw [simTime, ← atOnce]
    by_cases none : n = 0
    · rw [if_pos none, time, none]
      simp [eq_comm]
    · simp [none]
  · intro stops
    have none := atOnce.mpr stops
    show closing.loop.stats.simTime = 0 ∧ closing.loop.context.time = context.time
    rw [simTime, if_pos none, time, none]
    exact ⟨rfl, UInt64.add_zero _⟩

/-- A new loop on the context and the model of the lasting loop, which has run to its end. -/
def renewed : Bench Scripted :=
  (lasting.opened.stepped 3).restarted

/-- That loop after its run, which stops at once. -/
def renewedEnded : Bench Scripted :=
  renewed.opened.stepped 1

/-- The statistics that a run returns need not tell the time that it has reached: the new loop stops
at time 2, and its statistics tell time 0. -/
theorem renewed_simTime :
    Session renewed [(.run, .ran (.ok renewedEnded.loop.stats))] renewedEnded ∧
      renewedEnded.loop.context.time = 2 ∧ renewedEnded.loop.stats.simTime = 0 :=
  ⟨.cons (.run (show runWithin 1 _ = _ from rfl)) (.nil _), rfl, rfl⟩

/-- The lasting loop cut after its first tick, and the run of a new loop on its context and its
model, with the coverage file moved. -/
def continuedEnded : Bench Scripted :=
  ((lasting.stepped 1).restarted.configured "cover" none).opened.stepped 2

/-- The loop that was cut makes one more tick: its statistics count that tick alone, and tell
time 2.  The new loop at the end of a run stops at time 2, and its statistics tell time 0. -/
theorem run_simTime_iff_continued :
    (continuedEnded.loop.stats.ticks = 1 ∧ continuedEnded.loop.clock.edges = 1 ∧
      continuedEnded.loop.stats.simTime = continuedEnded.loop.context.time ∧
      continuedEnded.loop.context.time = 2) ∧
    (renewedEnded.loop.stats.simTime = 0 ∧ renewedEnded.loop.context.time = 2) := by
  constructor
  · have session : Session (lasting.stepped 1).restarted
        ([(.withCoveragePath "cover", .configured), (.withMaxTicks none, .configured)] ++
          [(.run, .ran (.ok continuedEnded.loop.stats))]) continuedEnded :=
      session_runCalls (show stepsWithin 2 _ = _ from rfl)
    obtain ⟨ticks, -, simTime, -⟩ := run_simTime_iff session (by simp)
    have unstopped : ¬FinishedAfter (lasting.stepped 1).loop.context
        (lasting.stepped 1).loop.model 0 := by
      unfold FinishedAfter
      decide
    exact ⟨ticks.trans rfl, rfl, simTime.mpr (.inl unstopped), rfl⟩
  · have session : Session renewed ([] ++ [(.run, .ran (.ok renewedEnded.loop.stats))])
        renewedEnded := .cons (.run (show runWithin 1 _ = _ from rfl)) (.nil _)
    obtain ⟨-, -, -, atOnce⟩ := run_simTime_iff session (List.forall_mem_nil _)
    obtain ⟨simTime, time⟩ := atOnce (.inl rfl)
    exact ⟨simTime, time.trans rfl⟩

end Bench

end CycleSim
