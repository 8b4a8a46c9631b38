import CycleSim.Proofs.FileTree.Writing
import CycleSim.Proofs.Loop.Alongside
import CycleSim.Proofs.Loop.Closing

/-!
# Coupled loops

A `Coupling` relates the context and the model of one execution to those of another: all that a loop
does to a context and a model keeps it, and evaluations and finalizations answer the same under it.
Loops that begin coupled stay coupled (`Coupling.alongside`), so they run side by side, with the
same answers but for what the statistics tell of coverage.

Coverage is the one thing that the two executions may see differently.  What is told of it is the
same as far as the databases are: the files if these are equal, and the two entries of the
statistics if they have as many points, or as many points with hits (`TellsAlike`).  For the
shutdowns to end the same the coverage file is written by both or by none, or else can be opened,
and what it is written on has no bound.
-/

namespace CycleSim

/-- The statistics without the entries on coverage. -/
def RunStats.withoutCoverage (stats : RunStats) : RunStats :=
  { stats with coveragePoints := 0, coverageCovered := 0 }

/-- A tick counts the same in statistics without coverage. -/
lemma Loop.withoutCoverage_countedStats {σ : Type} (loop : Loop σ) :
    loop.countedStats.withoutCoverage = { loop.stats.withoutCoverage with
      ticks := loop.stats.ticks + 1
      cycles := loop.clock.tick.risingEdges
      simTime := loop.context.time + 1 } := rfl

/-- In a build with coverage, of two contexts one of which has coverage to write and the other has
not only one collects coverage. -/
lemma isSome_ne_of_uncovered {build : Build} {coverage coverage' : Option Coverage.Database}
    {db : Coverage.Database} (uncovered : build.coverage = false ∨ coverage = none)
    (compiled : build.coverage = true) (enabled : coverage' = some db) :
    coverage.isSome ≠ coverage'.isSome := by
  subst enabled
  rcases uncovered with without | rfl
  · exact absurd (without.symm.trans compiled) Bool.noConfusion
  · exact Bool.noConfusion

section Coupling

variable {σ τ : Type} [DeviceModel σ] [DeviceModel τ]

/-- A relation between the context and the model of one execution and those of another that all that
a loop does keeps, and under which evaluations and finalizations answer the same.  `files` are the
files at the beginning and `Usable` tells the paths to which the coverage file may be moved. -/
structure Coupling (Like : Context → σ → Context → τ → Prop) (files : FileTree)
    (Usable : String → Prop) : Prop where
  name_eq : ∀ {ctx model ctx' model'}, Like ctx model ctx' model' →
    DeviceModel.name model = DeviceModel.name model'
  finished_eq : ∀ {ctx model ctx' model'}, Like ctx model ctx' model' →
    DeviceModel.finished model = DeviceModel.finished model'
  timeUnit_eq : ∀ {ctx model ctx' model'}, Like ctx model ctx' model' →
    ctx.timeUnit = ctx'.timeUnit
  time_eq : ∀ {ctx model ctx' model'}, Like ctx model ctx' model' → ctx.time = ctx'.time
  stopRequested_eq : ∀ {ctx model ctx' model'}, Like ctx model ctx' model' →
    ctx.stopRequested = ctx'.stopRequested
  advanceTime : ∀ {ctx model ctx' model'}, Like ctx model ctx' model' →
    Like ctx.advanceTime model ctx'.advanceTime model'
  latch : ∀ {ctx model ctx' model'} finished, Like ctx model ctx' model' →
    Like (ctx.latch finished) model (ctx'.latch finished) model'
  setClock : ∀ {ctx model ctx' model'} level, Like ctx model ctx' model' →
    Like ctx (DeviceModel.setClock level model) ctx' (DeviceModel.setClock level model')
  evaluate : ∀ {ctx model ctx' model'}, Like ctx model ctx' model' →
    (DeviceModel.evaluate ctx model).result = (DeviceModel.evaluate ctx' model').result ∧
      Like (ctx.absorb (DeviceModel.evaluate ctx model)) (DeviceModel.evaluate ctx model).model
        (ctx'.absorb (DeviceModel.evaluate ctx' model')) (DeviceModel.evaluate ctx' model').model
  finalize : ∀ {ctx model ctx' model'}, Like ctx model ctx' model' →
    (DeviceModel.finalize model).1 = (DeviceModel.finalize model').1 ∧
      Like ctx (DeviceModel.finalize model).2 ctx' (DeviceModel.finalize model').2
  /-- Both executions collect coverage, or none, or the coverage file can be written. -/
  covers : ∀ {ctx model ctx' model' path}, Like ctx model ctx' model' → Usable path →
    ctx.coverage.isSome = ctx'.coverage.isSome ∨ ∃ place, files.writablePlace path = .ok place

end Coupling

namespace Bench

variable {σ τ : Type}

/-- What is told of coverage is the same as far as the databases are. -/
structure TellsAlike (one : Bench σ) (other : Bench τ) : Prop where
  files_eq : one.loop.context.coverage = other.loop.context.coverage →
    one.host.files = other.host.files
  coveragePoints_eq :
    one.loop.context.coverage.map (·.size) = other.loop.context.coverage.map (·.size) →
      one.loop.stats.coveragePoints = other.loop.stats.coveragePoints
  coverageCovered_eq :
    one.loop.context.coverage.map (·.covered) = other.loop.context.coverage.map (·.covered) →
      one.loop.stats.coverageCovered = other.loop.stats.coverageCovered

/-- Nothing has been told of coverage yet, and the files are as they were. -/
structure Untold (files : FileTree) (one : Bench σ) (other : Bench τ) : Prop where
  one_files : one.host.files = files
  other_files : other.host.files = files
  coveragePoints_eq : one.loop.stats.coveragePoints = other.loop.stats.coveragePoints
  coverageCovered_eq : one.loop.stats.coverageCovered = other.loop.stats.coverageCovered

/-- As long as nothing has been told, nothing is told differently. -/
lemma Untold.tellsAlike {files : FileTree} {one : Bench σ} {other : Bench τ}
    (untold : Untold files one other) : TellsAlike one other where
  files_eq _ := untold.one_files.trans untold.other_files.symm
  coveragePoints_eq _ := untold.coveragePoints_eq
  coverageCovered_eq _ := untold.coverageCovered_eq

/-- If one loop collects coverage and the other does not, nothing has to be told alike. -/
lemma TellsAlike.of_isSome_ne {one : Bench σ} {other : Bench τ}
    (ne : one.loop.context.coverage.isSome ≠ other.loop.context.coverage.isSome) :
    TellsAlike one other where
  files_eq same := absurd (congrArg Option.isSome same) ne
  coveragePoints_eq same := absurd (by simpa using congrArg Option.isSome same) ne
  coverageCovered_eq same := absurd (by simpa using congrArg Option.isSome same) ne

/-- Two loops with contexts and models related by `Like`, which are the same but for what they tell
of coverage. -/
structure Coupled (Like : Context → σ → Context → τ → Prop) (files : FileTree)
    (Usable : String → Prop) (one : Bench σ) (other : Bench τ) : Prop where
  like : Like one.loop.context one.loop.model other.loop.context other.loop.model
  build_eq : one.loop.build = other.loop.build
  clock_eq : one.loop.clock = other.loop.clock
  state_eq : one.loop.state = other.loop.state
  maxTicks_eq : one.loop.maxTicks = other.loop.maxTicks
  coveragePath_eq : one.loop.coveragePath = other.loop.coveragePath
  stats_eq : one.loop.stats.withoutCoverage = other.loop.stats.withoutCoverage
  usable : Usable one.loop.coveragePath
  one_unbounded : one.medium.room = none
  other_unbounded : other.medium.room = none
  untold : one.loop.state = .running → Untold files one other
  tellsAlike : TellsAlike one other

variable [DeviceModel σ] [DeviceModel τ] {Like : Context → σ → Context → τ → Prop}
  {files : FileTree} {Usable : String → Prop} {one : Bench σ} {other : Bench τ}

/-- New loops on related contexts and models are coupled. -/
lemma Coupled.start (coupling : Coupling Like files Usable) {context context' : Context}
    {model : σ} {model' : τ} (like : Like context model context' model') (build : Build)
    {host host' : Host} (files_eq : host.files = files) (files_eq' : host'.files = files)
    {path : String} (usable : Usable path) (limit : Option UInt64) :
    Coupled Like files Usable ((Bench.start build context model host).configured path limit)
      ((Bench.start build context' model' host').configured path limit) := by
  have untold : Untold files ((Bench.start build context model host).configured path limit)
      ((Bench.start build context' model' host').configured path limit) :=
    ⟨files_eq, files_eq', rfl, rfl⟩
  refine ⟨coupling.setClock _ like, rfl, rfl, rfl, rfl, rfl, ?_, usable, rfl, rfl,
    fun _ => untold, untold.tellsAlike⟩
  show RunStats.withoutCoverage { model := _, timeUnit := _ } =
    RunStats.withoutCoverage { model := _, timeUnit := _ }
  rw [coupling.name_eq like, coupling.timeUnit_eq like]

/-! ### Steps -/

/-- Both loops are asked to stop, or none. -/
lemma Coupled.asked_eq (coupling : Coupling Like files Usable)
    (coupled : Coupled Like files Usable one other) : one.asked = other.asked := by
  rw [asked, asked, coupling.stopRequested_eq coupled.like, coupling.finished_eq coupled.like]

omit [DeviceModel σ] [DeviceModel τ] in
/-- Coupled loops have counted as many ticks. -/
lemma Coupled.ticks_eq (coupled : Coupled Like files Usable one other) :
    one.loop.stats.ticks = other.loop.stats.ticks := by
  show one.loop.stats.withoutCoverage.ticks = other.loop.stats.withoutCoverage.ticks
  rw [coupled.stats_eq]

omit [DeviceModel σ] [DeviceModel τ] in
/-- Coupled loops are refused a tick for the same limit. -/
lemma Coupled.exceededLimit?_eq (coupled : Coupled Like files Usable one other) :
    one.loop.exceededLimit? = other.loop.exceededLimit? := by
  rw [Loop.exceededLimit?, Loop.exceededLimit?, coupled.maxTicks_eq, coupled.ticks_eq]

/-- Coupled loops come to the next edge of the clock alike. -/
lemma Coupled.edge (coupling : Coupling Like files Usable)
    (coupled : Coupled Like files Usable one other) :
    Like one.loop.edge.context one.loop.edge.model other.loop.edge.context
      other.loop.edge.model := by
  have clocked := coupling.setClock one.loop.clock.tick.level coupled.like
  simp only [Loop.edge, ← coupled.clock_eq]
  exact coupling.advanceTime clocked

/-- Coupled loops tick alike. -/
lemma Coupled.ticked (coupling : Coupling Like files Usable)
    (coupled : Coupled Like files Usable one other) (running : one.loop.state = .running) :
    one.loop.evaluation.result = other.loop.evaluation.result ∧
      Coupled Like files Usable one.ticked other.ticked := by
  obtain ⟨result, like⟩ := coupling.evaluate (coupled.edge coupling)
  have result : one.loop.evaluation.result = other.loop.evaluation.result := result
  have untold := coupled.untold running
  have loop : one.ticked.loop = _ := one.loop.tick_snd
  have loop' : other.ticked.loop = _ := other.loop.tick_snd
  have counted : one.loop.countedStats.withoutCoverage =
      other.loop.countedStats.withoutCoverage := by
    rw [Loop.withoutCoverage_countedStats, Loop.withoutCoverage_countedStats, coupled.stats_eq,
      coupled.ticks_eq, coupled.clock_eq, coupling.time_eq coupled.like]
  have untold' : Untold files one.ticked other.ticked := by
    refine ⟨untold.one_files, untold.other_files, ?_, ?_⟩
    · rw [loop, loop', ← result]
      dsimp only
      split <;> exact untold.coveragePoints_eq
    · rw [loop, loop', ← result]
      dsimp only
      split <;> exact untold.coverageCovered_eq
  refine ⟨result, ?_⟩
  constructor
  case like =>
    rw [loop, loop']
    exact like
  case build_eq =>
    rw [loop, loop']
    exact coupled.build_eq
  case clock_eq =>
    rw [loop, loop']
    exact congrArg ClockDriver.tick coupled.clock_eq
  case state_eq =>
    rw [loop, loop']
    exact coupled.state_eq
  case maxTicks_eq =>
    rw [loop, loop']
    exact coupled.maxTicks_eq
  case coveragePath_eq =>
    rw [loop, loop']
    exact coupled.coveragePath_eq
  case stats_eq =>
    rw [loop, loop', ← result]
    dsimp only
    split
    · exact counted
    · exact coupled.stats_eq
  case usable =>
    rw [loop]
    exact coupled.usable
  case one_unbounded => exact coupled.one_unbounded
  case other_unbounded => exact coupled.other_unbounded
  case untold => exact fun _ => untold'
  case tellsAlike => exact untold'.tellsAlike

/-- Two loops that have closed are coupled again if they tell alike of coverage. -/
lemma Coupled.stopped (coupling : Coupling Like files Usable)
    (coupled : Coupled Like files Usable one other) {after : Bench σ} {after' : Bench τ}
    {stats stats' : RunStats}
    (loop : after.loop = { one.checkFinished.2.finalized.loop with stats := stats })
    (loop' : after'.loop = { other.checkFinished.2.finalized.loop with stats := stats' })
    (medium : after.medium = one.medium) (medium' : after'.medium = other.medium)
    (stats_eq : stats.withoutCoverage = stats'.withoutCoverage)
    (tellsAlike : TellsAlike after after') : Coupled Like files Usable after after' := by
  have latched := coupling.latch (DeviceModel.finished one.loop.model) coupled.like
  have finished := coupling.finished_eq coupled.like
  constructor
  case like =>
    rw [loop, loop']
    show Like _ _ (other.loop.context.latch (DeviceModel.finished other.loop.model)) _
    rw [← finished]
    exact (coupling.finalize latched).2
  case build_eq =>
    rw [loop, loop']
    exact coupled.build_eq
  case clock_eq =>
    rw [loop, loop']
    exact coupled.clock_eq
  case state_eq =>
    rw [loop, loop']
    rfl
  case maxTicks_eq =>
    rw [loop, loop']
    exact coupled.maxTicks_eq
  case coveragePath_eq =>
    rw [loop, loop']
    exact coupled.coveragePath_eq
  case stats_eq =>
    rw [loop, loop']
    exact stats_eq
  case usable =>
    rw [loop]
    exact coupled.usable
  case one_unbounded => rw [medium, coupled.one_unbounded]
  case other_unbounded => rw [medium', coupled.other_unbounded]
  case untold =>
    rw [loop]
    exact nofun
  case tellsAlike => exact tellsAlike

omit [DeviceModel σ] [DeviceModel τ] in
/-- As long as coupled loops run, neither can open its coverage file if the other cannot. -/
lemma Coupled.writablePlace_eq (coupled : Coupled Like files Usable one other)
    (running : one.loop.state = .running) :
    one.host.files.writablePlace one.loop.coveragePath =
      other.host.files.writablePlace other.loop.coveragePath := by
  have untold := coupled.untold running
  rw [untold.one_files, untold.other_files, coupled.coveragePath_eq]

omit [DeviceModel σ] [DeviceModel τ] in
/-- As long as coupled loops run, storing comes to the same for both. -/
lemma Coupled.result_eq (coupled : Coupled Like files Usable one other)
    (running : one.loop.state = .running) {db db' : Coverage.Database}
    {result result' : Except FileError Unit} {after after' : FileTree}
    (storing : Storing one.medium one.loop.coveragePath db one.host.files result after)
    (storing' : Storing other.medium other.loop.coveragePath db' other.host.files result' after') :
    result = result' := by
  rw [storing.result_eq coupled.one_unbounded, storing'.result_eq coupled.other_unbounded,
    coupled.writablePlace_eq running]

/-- While only one of two coupled loops collects coverage, the coverage file can be opened. -/
lemma Coupled.exists_place (coupling : Coupling Like files Usable)
    (coupled : Coupled Like files Usable one other) (running : one.loop.state = .running)
    (differ : one.loop.context.coverage.isSome ≠ other.loop.context.coverage.isSome) :
    ∃ place, one.host.files.writablePlace one.loop.coveragePath = .ok place := by
  rw [(coupled.untold running).one_files]
  exact (coupling.covers coupled.like coupled.usable).resolve_left differ

/-- Two loops that have both stored their databases tell alike of coverage. -/
lemma Coupled.tellsAlike_stored (coupled : Coupled Like files Usable one other)
    (running : one.loop.state = .running) {db db' : Coverage.Database}
    {written written' : FileTree} (enabled : one.loop.context.coverage = some db)
    (enabled' : other.loop.context.coverage = some db')
    (storing : Storing one.medium one.loop.coveragePath db one.host.files (.ok ()) written)
    (storing' : Storing other.medium other.loop.coveragePath db' other.host.files (.ok ())
      written') :
    TellsAlike ((one.checkFinished.2.finalized.stored written).reported db).conclude
      ((other.checkFinished.2.finalized.stored written').reported db').conclude where
  files_eq same := by
    have untold := coupled.untold running
    have writes := storing.write_eq
    have writes' := storing'.write_eq
    obtain rfl := Option.some.inj (enabled.symm.trans (same.trans enabled'))
    rw [untold.one_files] at writes
    rw [untold.other_files, ← coupled.coveragePath_eq, writes] at writes'
    exact Except.ok.inj writes'
  coveragePoints_eq same := by
    have same : one.loop.context.coverage.map (·.size) =
      other.loop.context.coverage.map (·.size) := same
    rw [enabled, enabled'] at same
    exact Option.some.inj same
  coverageCovered_eq same := by
    have same : one.loop.context.coverage.map (·.covered) =
      other.loop.context.coverage.map (·.covered) := same
    rw [enabled, enabled'] at same
    exact Option.some.inj same

/-- Coupled loops close alike. -/
lemma Coupled.closing (coupling : Coupling Like files Usable)
    (coupled : Coupled Like files Usable one other) (closes : one.Closes) :
    one.step.1 = other.step.1 ∧ Coupled Like files Usable one.step.2 other.step.2 := by
  have running := closes.1
  have closes' : other.Closes :=
    ⟨coupled.state_eq.symm.trans running, (coupled.asked_eq coupling).symm.trans closes.2⟩
  have finalized := (coupling.finalize coupled.like).1
  have untold := coupled.untold running
  have quiet : Untold files one.checkFinished.2.finalized other.checkFinished.2.finalized :=
    ⟨one.checkFinished_files.trans untold.one_files,
      other.checkFinished_files.trans untold.other_files, untold.coveragePoints_eq,
      untold.coverageCovered_eq⟩
  have concluded : { one.loop.stats with finished := true }.withoutCoverage =
      { other.loop.stats with finished := true }.withoutCoverage :=
    congrArg (fun stats => { stats with finished := true }) coupled.stats_eq
  have step := closing_step closes
  have step' := closing_step closes'
  generalize one.step = outcome at step ⊢
  generalize other.step = outcome' at step' ⊢
  cases step with
  | refused refused =>
    cases step' with
    | refused refused' =>
      obtain rfl := Except.error.inj (refused.symm.trans (finalized.trans refused'))
      exact ⟨rfl, coupled.stopped coupling rfl rfl rfl rfl coupled.stats_eq quiet.tellsAlike⟩
    | uncovered agreed | unstored agreed | stored agreed =>
      exact absurd (refused.symm.trans (finalized.trans agreed)) nofun
  | uncovered agreed uncovered =>
    cases step' with
    | refused refused => exact absurd (agreed.symm.trans (finalized.trans refused)) nofun
    | uncovered =>
      have alike := quiet.tellsAlike
      exact ⟨rfl, coupled.stopped coupling rfl rfl rfl rfl concluded
        ⟨alike.files_eq, alike.coveragePoints_eq, alike.coverageCovered_eq⟩⟩
    | unstored _ compiled enabled failed =>
      have differ := isSome_ne_of_uncovered uncovered (coupled.build_eq ▸ compiled) enabled
      obtain ⟨place, opened⟩ := coupled.exists_place coupling running differ
      have failure := failed.result_eq coupled.other_unbounded
      rw [← coupled.writablePlace_eq running, opened] at failure
      cases failure
    | stored _ compiled enabled storing =>
      have differ := isSome_ne_of_uncovered uncovered (coupled.build_eq ▸ compiled) enabled
      exact ⟨rfl, coupled.stopped coupling rfl rfl rfl rfl concluded (.of_isSome_ne differ)⟩
  | unstored agreed compiled enabled failed =>
    cases step' with
    | refused refused => exact absurd (agreed.symm.trans (finalized.trans refused)) nofun
    | uncovered _ uncovered =>
      have differ := isSome_ne_of_uncovered uncovered (coupled.build_eq ▸ compiled) enabled
      obtain ⟨place, opened⟩ := coupled.exists_place coupling running differ.symm
      have failure := failed.result_eq coupled.one_unbounded
      rw [opened] at failure
      cases failure
    | unstored _ _ _ failed' =>
      obtain rfl := Except.error.inj (coupled.result_eq running failed failed')
      obtain rfl := failed.files_eq coupled.one_unbounded
      obtain rfl := failed'.files_eq coupled.other_unbounded
      have left : Untold files (one.checkFinished.2.finalized.stored one.host.files)
          (other.checkFinished.2.finalized.stored other.host.files) :=
        ⟨untold.one_files, untold.other_files, untold.coveragePoints_eq,
          untold.coverageCovered_eq⟩
      rw [coupled.coveragePath_eq]
      exact ⟨rfl, coupled.stopped coupling rfl rfl rfl rfl coupled.stats_eq left.tellsAlike⟩
    | stored _ _ _ storing => exact nomatch coupled.result_eq running failed storing
  | stored agreed compiled enabled storing =>
    cases step' with
    | refused refused => exact absurd (agreed.symm.trans (finalized.trans refused)) nofun
    | uncovered _ uncovered =>
      have differ := isSome_ne_of_uncovered uncovered (coupled.build_eq ▸ compiled) enabled
      exact ⟨rfl, coupled.stopped coupling rfl rfl rfl rfl concluded
        (.of_isSome_ne differ.symm)⟩
    | unstored _ _ _ failed => exact nomatch coupled.result_eq running storing failed
    | stored _ _ enabled' storing' =>
      exact ⟨rfl, coupled.stopped coupling rfl rfl rfl rfl concluded
        (coupled.tellsAlike_stored running enabled enabled' storing storing')⟩

/-- Coupled loops step alike. -/
lemma Coupled.step (coupling : Coupling Like files Usable)
    (coupled : Coupled Like files Usable one other) :
    one.step.1 = other.step.1 ∧ Coupled Like files Usable one.step.2 other.step.2 := by
  by_cases closes : one.Closes
  · exact coupled.closing coupling closes
  have turn := turn_step one
  generalize one.step = outcome at turn ⊢
  cases turn with
  | rest stopped =>
    rw [step_of_stopped (coupled.state_eq.symm.trans stopped)]
    exact ⟨rfl, coupled⟩
  | close running asked => exact absurd ⟨running, asked⟩ closes
  | refuse running clear exceeded =>
    rw [step_of_exceeded (coupled.state_eq.symm.trans running)
      ((coupled.asked_eq coupling).symm.trans clear)
      (coupled.exceededLimit?_eq.symm.trans exceeded)]
    exact ⟨rfl, coupled⟩
  | tick running clear below =>
    rw [step_of_below (coupled.state_eq.symm.trans running)
      ((coupled.asked_eq coupling).symm.trans clear)
      (coupled.exceededLimit?_eq.symm.trans below)]
    obtain ⟨result, next⟩ := coupled.ticked coupling running
    exact ⟨congrArg (Except.map fun _ => LoopState.running) result, next⟩

end Bench

/-- Coupled loops run side by side, with the same answers as far as a view of the statistics shows
that is the same for coupled loops. -/
theorem Coupling.alongside {σ τ : Type} [DeviceModel σ] [DeviceModel τ]
    {Like : Context → σ → Context → τ → Prop} {files : FileTree} {Usable : String → Prop}
    (coupling : Coupling Like files Usable) {view : RunStats → RunStats}
    (stats : ∀ {one other}, Bench.Coupled Like files Usable one other →
      view one.loop.stats = view other.loop.stats) :
    Bench.Alongside (Bench.Coupled Like files Usable) view Usable where
  step coupled := coupled.step coupling
  opened coupled := { coupled with
    untold := fun running => { coupled.untold running with }
    tellsAlike := { coupled.tellsAlike with } }
  stats := stats
  withMaxTicks _ coupled := { coupled with
    maxTicks_eq := rfl
    untold := fun running => { coupled.untold running with }
    tellsAlike := { coupled.tellsAlike with } }
  withCoveragePath usable coupled := { coupled with
    coveragePath_eq := rfl
    usable
    untold := fun running => { coupled.untold running with }
    tellsAlike := { coupled.tellsAlike with } }

end CycleSim
