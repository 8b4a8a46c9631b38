import CycleSim.Model.Device
import CycleSim.Proofs.Loop.ModelMap
import CycleSim.Proofs.Loop.Report
import CycleSim.Proofs.Model.CounterRun
import CycleSim.Proofs.Model.DoublerRun

/-!
# Runs of the devices

The run of a new device returns within the ticks that the device is known to need, whatever its tick
limit (`exists_returned_device`).  On a medium without a bound a run that fails leaves the files as
they were (`Makes.files_of_failed`), and one that returns statistics tells in them where it has
ended (`Makes.finishes`).
-/

namespace CycleSim

/-- The first model of a sum behaves as itself. -/
lemma modelMap_inl {σ τ : Type} [DeviceModel σ] [DeviceModel τ] :
    ModelMap (Sum.inl : σ → σ ⊕ τ) where
  name _ := rfl
  setClock _ _ := rfl
  evaluate _ _ := rfl
  finalize _ := rfl
  finished _ := rfl

/-- The second model of a sum behaves as itself. -/
lemma modelMap_inr {σ τ : Type} [DeviceModel σ] [DeviceModel τ] :
    ModelMap (Sum.inr : τ → σ ⊕ τ) where
  name _ := rfl
  setClock _ _ := rfl
  evaluate _ _ := rfl
  finalize _ := rfl
  finished _ := rfl

/-- A device that is built is a new counter or a new doubler, as the settings name it. -/
lemma Device.counter_or_doubler_of_build {settings : ModelSettings} {context : Context}
    {built : Device × Context} (builds : Device.build settings context = .ok built) :
    (settings.name = "counter" ∧
      built = (Counter.build context settings.counterWidth settings.counterCycles).map .inl id) ∨
    (settings.name = "doubler" ∧
      ∃ operands, built = (Doubler.withOperands context operands).map .inr id) := by
  unfold Device.build at builds
  split at builds
  · rename_i named
    cases builds
    exact .inl ⟨named, rfl⟩
  split at builds
  · rename_i named
    cases chosen : Doubler.chosenOperands context with
    | error cause =>
      rw [Doubler.build, chosen] at builds
      cases builds
    | ok operands =>
      rw [Doubler.build, chosen] at builds
      cases builds
      exact .inr ⟨named, operands, rfl⟩
  · cases builds

/-- Building a device takes no time. -/
lemma Device.time_build {settings : ModelSettings} {context : Context} {built : Device × Context}
    (builds : Device.build settings context = .ok built) : built.2.time = context.time := by
  obtain ⟨-, rfl⟩ | ⟨-, operands, rfl⟩ := counter_or_doubler_of_build builds
  · exact Context.time_skipDraws _ _
  · exact (Context.time_skipDraws _ _).trans (Context.time_skipDraws _ _)

namespace Bench

/-! ### What a run leaves -/

section Leaves

variable {σ : Type} [DeviceModel σ] {bench last : Bench σ} {cause : SimError} {stats : RunStats}

/-- On a medium without a bound a step that fails touches no file. -/
lemma files_of_step_error (unbounded : bench.medium.room = none)
    (failed : bench.step.1 = .error cause) : bench.step.2.host.files = bench.host.files := by
  by_cases closes : bench.Closes
  · have closing := closing_step closes
    generalize bench.step = outcome at closing failed ⊢
    cases closing with
    | refused => exact bench.checkFinished_files
    | unstored _ _ _ unstored => exact unstored.files_eq unbounded
    | uncovered | stored => cases failed
  have turn := turn_step bench
  generalize bench.step = outcome at turn failed ⊢
  cases turn with
  | rest => rfl
  | close running asked => exact absurd ⟨running, asked⟩ closes
  | refuse => rfl
  | tick => rfl

/-- The session of a run with its settings makes the run on the loop that they set up. -/
lemma Session.makes_run {path : String} {limit : Option UInt64} {result : Except SimError RunStats}
    (session : Session bench (runCalls path limit result) last) :
    Makes (bench.configured path limit) .run (.ran result) last := by
  cases session with
  | cons moved rest =>
    cases moved
    cases rest with
    | cons limited run =>
      cases limited
      exact run.makes

/-- On a medium without a bound a run that fails touches no file. -/
lemma Makes.files_of_failed (unbounded : bench.medium.room = none)
    (made : Makes bench .run (.ran (.error cause)) last) :
    last.host.files = bench.host.files := by
  obtain ⟨steps, performs⟩ := made.exists_performs
  obtain ⟨n, runs, -, answer, -, rfl⟩ := performs.exists_of_run
  have failed : (bench.opened.stepped n).step.1 = .error cause := by
    cases outcome : (bench.opened.stepped n).step.1 with
    | error =>
      rw [outcome] at answer
      rw [← Except.error.inj answer]
    | ok =>
      rw [outcome] at answer
      cases answer
  have unbounded' : (bench.opened.stepped n).medium.room = none := by
    rw [runs.paced.medium_eq]
    exact unbounded
  rw [stepped_succ, files_of_step_error unbounded' failed]
  exact runs.paced.files_eq

/-- What the statistics of the run of a new loop tell of its end. -/
structure Finished (stats : RunStats) (last : Bench σ) : Prop where
  finished : stats.finished = true
  ticks_eq : stats.ticks = last.loop.clock.edges
  cycles_eq : stats.cycles = last.loop.clock.risingEdges
  simTime_eq : stats.simTime = last.loop.context.time

/-- A run of a new loop from time 0 that returns statistics has finished, and they tell where. -/
lemma Makes.finishes {build : Build} {context : Context} {model : σ} {host : Host} {path : String}
    {limit : Option UInt64}
    (made : Makes ((start build context model host).configured path limit) .run (.ran (.ok stats))
      last) (time : context.time = 0) : Finished stats last := by
  obtain ⟨n, runs, closes, ended, rfl⟩ := made.exists_closes rfl
  have paced := runs.paced
  generalize ((start build context model host).configured path limit).opened.stepped n = closing
    at paced closes ended
  have fresh : closing.loop.stats.finished = false := by
    rw [paced.stats_eq]
    rfl
  have unfinished := closes.unfinished_iff fresh
  obtain ⟨ticks, cycles, simTime⟩ := paced.report rfl rfl rfl rfl
  have closed : last = closing.closed := by
    rw [step_of_asked closes.1 closes.2] at ended
    exact (congrArg Prod.snd ended).symm
  obtain ⟨finished, points, covered, loop⟩ := closing.closed_loop
  rw [← closed] at loop
  constructor
  · rw [ended] at unfinished
    by_contra not
    obtain ⟨_, failed⟩ := unfinished.mp (Bool.eq_false_of_not_eq_true not)
    cases failed
  · rw [loop]
    exact ticks
  · rw [loop]
    exact cycles
  · rw [loop]
    show closing.loop.stats.simTime = closing.loop.context.time
    rw [simTime]
    split
    · rename_i none
      rw [paced.time_eq, none]
      exact (congrArg (· + UInt64.ofNat 0) time).symm
    · rfl

end Leaves

/-! ### That a run returns -/

section Returns

variable {σ : Type} [DeviceModel σ] {bench : Bench σ} {n : ℕ}

/-- A run that does not return within some steps runs on in all of them. -/
lemma runsOn_of_stepsWithin_eq_none (running : bench.stepsWithin n = none) : bench.RunsOn n := by
  induction n with
  | zero => exact bench.runsOn_zero
  | succ n ih =>
    have before : bench.RunsOn n := by
      apply ih
      by_contra returned
      obtain ⟨outcome, returned⟩ := Option.ne_none_iff_exists'.mp returned
      exact nomatch (stepsWithin_mono n.le_succ returned).symm.trans running
    intro k lt
    rcases Nat.lt_succ_iff_lt_or_eq.mp lt with lt | rfl
    · exact before k lt
    · by_contra ends
      rw [Nat.add_comm, before.returned ends] at running
      cases running

/-- A loop that runs on below a limit runs on without it. -/
lemma RunsOn.unlimited (runs : bench.RunsOn n) : (bench.limited none).RunsOn n := by
  refine (runs.limited_of_below ?_).1
  intro k lt ticks mem
  cases mem

end Returns

open EdgeTriggered in
/-- The run of a new loop over an edge-triggered model returns within two ticks for each edge that
the model needs, whatever the limit. -/
theorem Ready.exists_returned {σ : Type} [DeviceModel σ] [EdgeTriggered σ] {build : Build}
    {context : Context} {model : σ} {host : Host}
    (ready : (start build context model host).Ready) {edges bound : ℕ}
    (finishes : FinishedBy (start build context model host).loop.model edges)
    (enough : 2 * edges ≤ bound) (path : String) (limit : Option UInt64) :
    ∃ result last, ((start build context model host).configured path limit).runWithin (bound + 1) =
      some (result, last) := by
  suffices returns : ((start build context model host).configured path limit).opened.stepsWithin
      (bound + 1) ≠ none by
    obtain ⟨⟨result, last⟩, returned⟩ := Option.ne_none_iff_exists'.mp returns
    exact ⟨result, last, returned⟩
  intro none
  -- Without its limit the loop would run on past the edge that finishes the model.
  have runs := (runsOn_of_stepsWithin_eq_none none).unlimited (2 * edges - 1) (by omega)
  have stands := ((ready.stands_opened path).stepped_after ready finishes le_rfl).2
  have finished := (finishes ((2 * edges - 1 + 1) / 2)).mpr (by omega)
  rw [← stands.finished_eq, ← stands.asked_eq ready] at finished
  obtain ⟨-, -, clear, -⟩ := ticked_of_running runs
  exact nomatch clear.symm.trans finished

/-- If the run of a new loop returns, so does that of a new loop over the image of its model. -/
lemma exists_returned_mapModel {σ τ : Type} [DeviceModel σ] [DeviceModel τ] {f : σ → τ}
    (map : ModelMap f) {build : Build} {context : Context} {model : σ} {host : Host} {path : String}
    {limit : Option UInt64} {bound : ℕ}
    (returns : ∃ result last,
      ((start build context model host).configured path limit).runWithin bound =
        some (result, last)) :
    ∃ result last, ((start build context (f model) host).configured path limit).runWithin bound =
      some (result, last) := by
  obtain ⟨result, last, returned⟩ := returns
  refine ⟨result, last.mapModel f, ?_⟩
  rw [start_mapModel map]
  show (((start build context model host).configured path limit).mapModel f).runWithin bound = _
  rw [runWithin_mapModel map, returned]
  rfl

/-- The run of a new device returns within the ticks that the device is known to need. -/
theorem exists_returned_device {settings : ModelSettings} {context : Context}
    {built : Device × Context} (builds : Device.build settings context = .ok built)
    (clear : context.stopRequested = false) (build : Build) (host : Host) (path : String)
    (limit : Option UInt64) :
    ∃ result last, ((startBuilt build built host).configured path limit).runWithin
      (Device.ticksToFinish built.1 + 1) = some (result, last) := by
  obtain ⟨-, rfl⟩ | ⟨-, operands, rfl⟩ := Device.counter_or_doubler_of_build builds
  · have ready := ready_counter build clear host settings.counterWidth settings.counterCycles
    apply exists_returned_mapModel modelMap_inl
    exact ready.exists_returned (fun k => Counter.finished_iterate rfl k) le_rfl path limit
  · have ready := ready_doubler build clear host operands
    have fresh := Doubler.fresh_withOperands context operands
    have enough : 2 * doublerEdges operands.size ≤ 2 * (operands.size + 1) := by
      unfold doublerEdges
      split <;> omega
    apply exists_returned_mapModel modelMap_inr
    exact ready.exists_returned (finishedBy_doubler fresh) enough path limit

end Bench

end CycleSim
