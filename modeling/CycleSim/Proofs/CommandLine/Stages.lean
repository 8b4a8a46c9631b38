import CycleSim.CommandLine.Run
import CycleSim.Proofs.Context.Settled
import CycleSim.Proofs.FileTree.Directories
import CycleSim.Proofs.Model.DeviceRun

/-!
# The stages of a call

A call reads its configuration, builds the context, makes the log directory, builds the device, runs
it and stores the statistics.  `Course` lists how far a call gets before its statistics are stored,
and `course_start` says that there is no other way.  So a call that fails leaves what the stages
before the failure have left: nothing before the context stands, and at most directories before the
run has returned statistics (`execute_effects`).
-/

namespace CycleSim

/-! ### The statistics file -/

namespace RunStats

/-- The JSON document of a run that has finished. -/
def finishedText (stats : RunStats) (timing : Timing) : String :=
  "\x7b\n" ++ ",\n".intercalate
    ["  \"model\": " ++ jsonString stats.model,
     "  \"ticks\": " ++ toString stats.ticks.toNat,
     "  \"cycles\": " ++ toString stats.cycles.toNat,
     "  \"sim_time\": " ++ toString stats.simTime.toNat,
     "  \"time_unit\": " ++ jsonString stats.timeUnit.symbol,
     "  \"finished\": true",
     "  \"host_seconds\": " ++ timing.json,
     "  \"coverage_points\": " ++ toString stats.coveragePoints,
     "  \"coverage_covered\": " ++ toString stats.coverageCovered] ++ "\n\x7d"

/-- The JSON document tells of a finished run that it has finished. -/
lemma json_of_finished {stats : RunStats} (finished : stats.finished = true) (timing : Timing) :
    stats.json timing = stats.finishedText timing := by
  unfold json jsonFields
  rw [finished]
  rfl

end RunStats

/-! ### How far a call gets -/

namespace Options

variable (build : Build) (filterText : Option String) (files : FileTree) (options : Options)

/-- The call reads its configuration and builds the context. -/
structure Initializes (config : Config) (context : Context) : Prop where
  configured : options.configure files = .ok config
  built : Context.build config.general config.coverage options.forwarded = .ok context

/-- Files and log when the model is about to be built. -/
def startHost (config : Config) (context : Context) (made : FileTree) : Host where
  files := made
  log :=
    let level := config.general.startupDebugLevel options.forwarded
    let filter := (filterText.bind LogFilter.parse?).getD (LogFilter.ofDebugLevel level)
    ({ filter } : Log).reportAll (startEvents build config context)

/-- Behind that the call makes the log directory, builds the device and runs it, which returns
`result` and leads to `last`. -/
structure Runs (config : Config) (context : Context) (result : Except SimError RunStats)
    (last : Bench Device) : Prop extends Initializes files options config context where
  returns : ∃ made built,
    files.makeDirectories config.paths.logDir = (.ok (), made) ∧
      Device.build config.model context = .ok built ∧
      Bench.Session
        (Bench.startBuilt build built (options.startHost build filterText config context made))
        (Bench.runCalls config.coveragePath config.general.maxTicks result) last

/-- How far a call gets before its statistics are stored, with the files and the outcome. -/
inductive Course : Simulation → Prop where
  /-- The configuration cannot be read. -/
  | unconfigured {log : Log} {cause : ConfigError}
      (failed : options.configure files = .error cause) :
      Course { host := { files, log }, outcome := .error (.config cause) }
  /-- The context cannot be built. -/
  | uninitialized {log : Log} {config : Config} {cause : ConfigError}
      (configured : options.configure files = .ok config)
      (failed : Context.build config.general config.coverage options.forwarded = .error cause) :
      Course { host := { files, log }, outcome := .error (.config cause) }
  /-- The log directory cannot be made. -/
  | noDirectory {log : Log} {config : Config} {context : Context} {made : FileTree}
      {cause : FileError} (initializes : Initializes files options config context)
      (failed : files.makeDirectories config.paths.logDir = (.error cause, made)) :
      Course { host := { files := made, log }, outcome := .error (.io cause) }
  /-- The device cannot be built. -/
  | unbuilt {log : Log} {config : Config} {context : Context} {made : FileTree}
      {cause : ConfigError} (initializes : Initializes files options config context)
      (makes : files.makeDirectories config.paths.logDir = (.ok (), made))
      (failed : Device.build config.model context = .error cause) :
      Course { host := { files := made, log }, outcome := .error (.config cause) }
  /-- The device is run. -/
  | ran {config : Config} {context : Context} {result : Except SimError RunStats}
      {last : Bench Device}
      (runs : Runs build filterText files options config context result last) :
      Course { host := last.host
               outcome := result.map fun stats => (stats, config.paths.statsFile) }

variable {build filterText files options} {config : Config} {context : Context}

/-- The run of a device that is built returns. -/
lemma exists_returned (build : Build) (filterText : Option String)
    (initializes : Initializes files options config context) {made : FileTree}
    (makes : files.makeDirectories config.paths.logDir = (.ok (), made)) {built : Device × Context}
    (builds : Device.build config.model context = .ok built) :
    ∃ result last, Runs build filterText files options config context result last ∧
      ((Bench.startBuilt build built
        (options.startHost build filterText config context made)).configured config.coveragePath
          config.general.maxTicks).runWithin (Device.ticksToFinish built.1 + 1) =
        some (result, last) := by
  have clear : context.stopRequested = false := (Context.settled_of_build initializes.built).clear
  obtain ⟨result, last, returned⟩ := Bench.exists_returned_device builds clear build
    (options.startHost build filterText config context made) config.coveragePath
    config.general.maxTicks
  exact ⟨result, last,
    ⟨initializes, made, built, makes, builds, Bench.session_runCalls returned⟩, returned⟩

/-- The call goes on with what the run returns. -/
lemma course_runDevice (initializes : Initializes files options config context) {made : FileTree}
    (makes : files.makeDirectories config.paths.logDir = (.ok (), made)) {built : Device × Context}
    (builds : Device.build config.model context = .ok built) :
    Course build filterText files options
      (Simulation.runDevice build config built.2 built.1
        (options.startHost build filterText config context made)) := by
  obtain ⟨result, last, runs, returned⟩ := exists_returned build filterText initializes makes builds
  have outcome : Simulation.runDevice build config built.2 built.1
      (options.startHost build filterText config context made) =
        { host := last.host,
          outcome := result.map fun stats => (stats, config.paths.statsFile) } := by
    dsimp only [Simulation.runDevice]
    split <;> rename_i ran <;> cases ran.symm.trans returned
    rfl
  rw [outcome]
  exact .ran runs

/-- Every call takes one of these courses. -/
theorem course_start (build : Build) (filterText : Option String) (files : FileTree)
    (options : Options) :
    Course build filterText files options (Simulation.start build filterText files options) := by
  unfold Simulation.start
  cases configured : options.configure files with
  | error cause => exact .unconfigured configured
  | ok config =>
    dsimp only
    cases built : Context.build config.general config.coverage options.forwarded with
    | error cause => exact .uninitialized configured built
    | ok context =>
      have initializes : Initializes files options config context := ⟨configured, built⟩
      show Course _ _ _ _ (Simulation.runModel build config context
        (options.startHost build filterText config context files))
      unfold Simulation.runModel
      split <;> rename_i made makes
      · exact .noDirectory initializes makes
      · dsimp only
        cases builds : Device.build config.model context with
        | error cause => exact .unbuilt initializes makes builds
        | ok built => exact course_runDevice initializes makes builds

/-- A call reads one configuration and builds one context. -/
lemma Initializes.unique {config' : Config} {context' : Context}
    (initializes : Initializes files options config context)
    (initializes' : Initializes files options config' context') :
    config = config' ∧ context = context' := by
  obtain rfl := Except.ok.inj (initializes.configured.symm.trans initializes'.configured)
  exact ⟨rfl, Except.ok.inj (initializes.built.symm.trans initializes'.built)⟩

/-- A call makes one run with one result. -/
lemma Runs.unique {result result' : Except SimError RunStats} {last last' : Bench Device}
    (runs : Runs build filterText files options config context result last)
    (runs' : Runs build filterText files options config context result' last') :
    result = result' ∧ last = last' := by
  obtain ⟨made, built, makes, builds, session⟩ := runs.returns
  obtain ⟨made', built', makes', builds', session'⟩ := runs'.returns
  obtain rfl := (Prod.mk.inj (makes.symm.trans makes')).2
  obtain rfl := Except.ok.inj (builds.symm.trans builds')
  obtain ⟨calls, rfl⟩ := session.unique session' rfl
  cases calls
  exact ⟨rfl, rfl⟩

/-- A run that fails leaves the files as they were when it began. -/
lemma Runs.files_of_failed {cause : SimError} {last : Bench Device}
    (runs : Runs build filterText files options config context (.error cause) last) :
    last.host.files = (files.makeDirectories config.paths.logDir).2 := by
  obtain ⟨made, built, makes, -, session⟩ := runs.returns
  rw [makes]
  exact session.makes_run.files_of_failed rfl

/-- A run that returns statistics has finished, and they tell where. -/
lemma Runs.finishes {stats : RunStats} {last : Bench Device}
    (runs : Runs build filterText files options config context (.ok stats) last) :
    Bench.Finished stats last := by
  obtain ⟨made, built, -, builds, session⟩ := runs.returns
  have time : built.2.time = 0 := by
    rw [Device.time_build builds, (Context.settled_of_build runs.built).time_eq]
  exact session.makes_run.finishes time

/-- Up to its statistics the call has failed: its run has returned none, and it leaves the files as
they were, or with some of the directories of its log directory if its context stands. -/
structure Fails (build : Build) (filterText : Option String) (files : FileTree) (options : Options)
    (simulation : Simulation) : Prop where
  failure : ∃ cause, simulation.outcome = .error cause
  noStats : ∀ config context stats last,
    ¬Runs build filterText files options config context (.ok stats) last
  files_eq : (∀ config context, ¬Initializes files options config context) →
    simulation.host.files = files
  adds : ∀ config context, Initializes files options config context →
    FileTree.AddsDirectories (FileTree.directoryPaths config.paths.logDir) files
      simulation.host.files

/-- A call whose context stands and that leaves what making its log directory has left fails, if its
run does not return statistics. -/
lemma fails_of_initializes {simulation : Simulation}
    (initializes : Initializes files options config context)
    (failure : ∃ cause, simulation.outcome = .error cause)
    (noStats : ∀ stats last, ¬Runs build filterText files options config context (.ok stats) last)
    (left : simulation.host.files = (files.makeDirectories config.paths.logDir).2) :
    Fails build filterText files options simulation where
  failure := failure
  noStats config' context' stats last runs := by
    obtain ⟨rfl, rfl⟩ := initializes.unique runs.toInitializes
    exact noStats stats last runs
  files_eq none := absurd initializes (none config context)
  adds config' context' initializes' := by
    obtain ⟨rfl, rfl⟩ := initializes.unique initializes'
    rw [left]
    exact FileTree.addsDirectories_makeDirectories files config.paths.logDir

/-- A call fails or runs its device to statistics. -/
lemma Course.fails_or_runs {simulation : Simulation}
    (course : Course build filterText files options simulation) :
    Fails build filterText files options simulation ∨
      ∃ config context stats last,
        Runs build filterText files options config context (.ok stats) last ∧
          simulation = { host := last.host, outcome := .ok (stats, config.paths.statsFile) } := by
  cases course with
  | unconfigured failed =>
    left
    have none (config : Config) (context : Context) :
        ¬Initializes files options config context :=
      fun initializes => nomatch failed.symm.trans initializes.configured
    exact ⟨⟨_, rfl⟩, fun config context _ _ runs => none config context runs.toInitializes,
      fun _ => rfl, fun config context initializes => absurd initializes (none config context)⟩
  | uninitialized configured failed =>
    left
    have none (config : Config) (context : Context) :
        ¬Initializes files options config context := by
      intro initializes
      obtain rfl := Except.ok.inj (configured.symm.trans initializes.configured)
      cases failed.symm.trans initializes.built
    exact ⟨⟨_, rfl⟩, fun config context _ _ runs => none config context runs.toInitializes,
      fun _ => rfl, fun config context initializes => absurd initializes (none config context)⟩
  | noDirectory initializes failed =>
    left
    refine fails_of_initializes initializes ⟨_, rfl⟩ ?_ (by rw [failed])
    intro stats last runs
    obtain ⟨made, built, makes, -⟩ := runs.returns
    cases failed.symm.trans makes
  | unbuilt initializes makes failed =>
    left
    refine fails_of_initializes initializes ⟨_, rfl⟩ ?_ (by rw [makes])
    intro stats last runs
    obtain ⟨made, built, -, builds, -⟩ := runs.returns
    cases failed.symm.trans builds
  | @ran config context result last runs =>
    cases result with
    | error cause =>
      left
      refine fails_of_initializes runs.toInitializes ⟨cause, rfl⟩ ?_ runs.files_of_failed
      intro stats last' runs'
      cases (runs.unique runs').1
    | ok stats => exact .inr ⟨config, context, stats, last, runs, rfl⟩

end Options

/-! ### What a call leaves -/

/-- What a call leaves that has run to statistics: they are in their file, if there is one and it
can be written, and the call succeeds exactly then. -/
structure Stores (files : FileTree) (statsFile : Option String) (text : String) (report : Report) :
    Prop where
  written : ∀ path ∈ statsFile, ∀ place, files.writablePlace path = .ok place →
    files.write path text.toUTF8 = .ok report.files
  unwritten : (∀ path ∈ statsFile, ∃ cause, files.writablePlace path = .error cause) →
    report.files = files
  exitCode_iff : report.exitCode = 0 ↔
    ∀ path ∈ statsFile, ∃ place, files.writablePlace path = .ok place
  exitCode_eq : report.exitCode = 0 ∨ report.exitCode = 1

/-- The report of a call stores the statistics of its run. -/
lemma stores_report {host : Host} {stats : RunStats} {statsFile : Option String}
    (finished : stats.finished = true) (quiet : Bool) (timing : RunStats → Timing) :
    Stores host.files statsFile (stats.finishedText (timing stats))
      (Simulation.report { host, outcome := .ok (stats, statsFile) } quiet timing) := by
  cases statsFile with
  | none => exact ⟨nofun, fun _ => rfl, ⟨fun _ => nofun, fun _ => rfl⟩, .inl rfl⟩
  | some path =>
    have written : stats.writeJson (timing stats) host.files path =
        (host.files.write path (stats.finishedText (timing stats)).toUTF8).mapError .io := by
      rw [RunStats.writeJson, RunStats.json_of_finished finished]
    cases opened : host.files.writablePlace path with
    | error cause =>
      rw [FileTree.write_eq_error_iff.mpr opened] at written
      simp only [Simulation.report, written, Except.mapError]
      refine ⟨?_, fun _ => rfl, ⟨nofun, fun writable => ?_⟩, .inr rfl⟩
      · rintro _ ⟨rfl⟩ place opened'
        exact nomatch opened.symm.trans opened'
      · obtain ⟨place, opened'⟩ := writable path rfl
        exact nomatch opened.symm.trans opened'
    | ok place =>
      rw [FileTree.write_of_writablePlace opened] at written
      simp only [Simulation.report, written, Except.mapError]
      refine ⟨?_, fun unwritable => ?_, ⟨fun _ => ?_, fun _ => rfl⟩, .inl rfl⟩
      · rintro _ ⟨rfl⟩ place' -
        exact FileTree.write_of_writablePlace opened _
      · obtain ⟨cause, failed⟩ := unwritable path rfl
        exact nomatch opened.symm.trans failed
      · rintro _ ⟨rfl⟩
        exact ⟨place, opened⟩

open Options

/-- What a call leaves behind.  If its configuration cannot be read or its context cannot be built,
the files are as they were.  Behind that, the run of a device that is built returns.  Unless it
returns statistics, the call has added at most the log directory and directories above it, and every
file, the coverage file and the statistics file among them, is as it was before.  If the run returns
statistics, it has finished and they tell its ticks, its cycles and its time, and their document
goes to the statistics file, if there is one and it can be opened.  The call succeeds exactly if all
its stages do; else its exit code is 1. -/
theorem Invocation.execute_effects (build : Build) (filterText : Option String)
    (timing : RunStats → Timing) (files : FileTree) (options : Options) :
    let report := Invocation.execute build filterText timing files (.run options)
    ((∀ config context, ¬Initializes files options config context) → report.files = files) ∧
    (∀ config context, Initializes files options config context →
      (∀ made built, files.makeDirectories config.paths.logDir = (.ok (), made) →
        Device.build config.model context = .ok built →
          ∃ result last, Runs build filterText files options config context result last) ∧
      ((∀ stats last, ¬Runs build filterText files options config context (.ok stats) last) →
        FileTree.AddsDirectories (FileTree.directoryPaths config.paths.logDir) files report.files ∧
        ∀ place content, report.files.entry? place = some (.file content) ↔
          files.entry? place = some (.file content)) ∧
      ∀ stats last, Runs build filterText files options config context (.ok stats) last →
        Bench.Finished stats last ∧
        Stores last.host.files config.paths.statsFile (stats.finishedText (timing stats)) report) ∧
    (report.exitCode = 0 ↔ ∃ config context stats last,
      Runs build filterText files options config context (.ok stats) last ∧
        ∀ path ∈ config.paths.statsFile, ∃ place,
          last.host.files.writablePlace path = .ok place) ∧
    (report.exitCode = 0 ∨ report.exitCode = 1) := by
  intro report
  have course := (course_start build filterText files options).fails_or_runs
  have report_eq : report =
    (Simulation.start build filterText files options).report options.quiet timing := rfl
  generalize Simulation.start build filterText files options = simulation at course report_eq
  rcases course with fails | ⟨config, context, stats, last, runs, rfl⟩
  · obtain ⟨cause, failure⟩ := fails.failure
    obtain ⟨left, exit⟩ : report.files = simulation.host.files ∧ report.exitCode = 1 := by
      rw [report_eq, Simulation.report, failure]
      exact ⟨rfl, rfl⟩
    refine ⟨fun none => left.trans (fails.files_eq none), ?_, ?_, .inr exit⟩
    · intro config context initializes
      rw [left]
      refine ⟨?_, fun _ => ?_, ?_⟩
      · intro made built makes builds
        obtain ⟨result, last, runs, -⟩ :=
          exists_returned build filterText initializes makes builds
        exact ⟨result, last, runs⟩
      · have adds := fails.adds config context initializes
        exact ⟨adds, fun _ _ => adds.file_iff⟩
      · intro stats last runs
        exact absurd runs (fails.noStats config context stats last)
    · rw [exit]
      constructor
      · intro zero
        cases zero
      · rintro ⟨config, context, stats, last, runs, -⟩
        exact absurd runs (fails.noStats config context stats last)
  · have finished := runs.finishes
    have stores : Stores last.host.files config.paths.statsFile
        (stats.finishedText (timing stats)) report := by
      rw [report_eq]
      exact stores_report finished.finished options.quiet timing
    refine ⟨fun none => absurd runs.toInitializes (none config context), ?_, ?_, stores.exitCode_eq⟩
    · intro config' context' initializes
      obtain ⟨rfl, rfl⟩ := runs.toInitializes.unique initializes
      refine ⟨fun _ _ _ _ => ⟨_, _, runs⟩, fun noStats => absurd runs (noStats stats last), ?_⟩
      intro stats' last' runs'
      obtain ⟨same, rfl⟩ := runs.unique runs'
      obtain rfl := Except.ok.inj same
      exact ⟨finished, stores⟩
    · rw [stores.exitCode_iff]
      constructor
      · intro writable
        exact ⟨config, context, stats, last, runs, writable⟩
      · rintro ⟨config', context', stats', last', runs', writable⟩
        obtain ⟨rfl, rfl⟩ := runs.toInitializes.unique runs'.toInitializes
        obtain ⟨-, rfl⟩ := runs.unique runs'
        exact writable

/-- A tree with a configuration file that asks for a statistics file. -/
def configuredFiles : FileTree where
  entries := [(["c"], .file "[paths]\nstats_file = \"s\"\n".toUTF8)]

/-- Options for that file and a doubler without operands. -/
def configuredOptions : Options where
  config := some "c"
  model := some "doubler"
  forwarded := ["+doubler+vectors=0"]

/-- No time on the host. -/
def noTime (_ : RunStats) : Timing where
  seconds := "0.0000 s"
  frequency := "0.00 kHz"
  json := "0.0"

/-- That call succeeds, and the statistics file holds the document of a finished run.  A call for an
unknown model fails and leaves no file, but the log directory. -/
theorem Invocation.execute_effects_configured :
    (∃ stats : RunStats, stats.finished = true ∧
      (Invocation.execute {} none noTime configuredFiles (.run configuredOptions)).files.readBytes
        "s" = .ok (stats.finishedText (noTime stats)).toUTF8) ∧
    (Invocation.execute {} none noTime {} (.run { model := some "nonesuch" })).exitCode = 1 ∧
      ∀ place content,
        (Invocation.execute {} none noTime {} (.run { model := some "nonesuch" })).files.entry?
          place ≠ some (.file content) := by
  constructor
  · obtain ⟨-, effects, succeeds, -⟩ :=
      Invocation.execute_effects {} none noTime configuredFiles configuredOptions
    obtain ⟨config, context, stats, last, runs, writable⟩ := succeeds.mp (by decide +kernel)
    have read : (configuredOptions.configure configuredFiles).toOption =
        some { paths := { statsFile := some "s" }, model := { name := "doubler" } } := by
      decide +kernel
    rw [runs.configured] at read
    obtain rfl := Option.some.inj read
    obtain ⟨-, -, stored⟩ := effects _ _ runs.toInitializes
    obtain ⟨finished, stores⟩ := stored stats last runs
    obtain ⟨place, opened⟩ := writable "s" rfl
    have written := stores.written "s" rfl place opened
    exact ⟨stats, finished.finished, FileTree.readBytes_of_write written⟩
  · obtain ⟨-, effects, -, -⟩ :=
      Invocation.execute_effects {} none noTime {} { model := some "nonesuch" }
    have initializes : Initializes {} { model := some "nonesuch" }
        { model := { name := "nonesuch" } }
        { Context.plain with resetPolicy := .random, coverage := some default } := ⟨rfl, rfl⟩
    obtain ⟨-, failing, -⟩ := effects _ _ initializes
    have noStats (stats : RunStats) (last : Bench Device) :
        ¬Runs {} none {} { model := some "nonesuch" } { model := { name := "nonesuch" } }
          { Context.plain with resetPolicy := .random, coverage := some default } (.ok stats)
          last := by
      intro runs
      obtain ⟨made, built, -, builds, -⟩ := runs.returns
      have unknown : Device.build { name := "nonesuch" }
          { Context.plain with resetPolicy := .random, coverage := some default } =
        .error (.unknownModel "nonesuch" Device.names) := rfl
      exact nomatch unknown.symm.trans builds
    refine ⟨by decide +kernel, fun place content found => ?_⟩
    have stood := ((failing noStats).2 place content).mp found
    unfold FileTree.entry? at stood
    split at stood <;> cases stood

end CycleSim
