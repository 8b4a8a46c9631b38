import CycleSim.CommandLine.Options
import CycleSim.CommandLine.Usage
import CycleSim.Config.Decode
import CycleSim.Loop.Basic
import CycleSim.Model.Device
import CycleSim.Stats.Json
import CycleSim.Stats.Summary

/-!
# A call of the program

A call is split in two at the point where the host's clock is read.  `Simulation.start` loads the
configuration, builds the context and the model, and runs the model to its end; `Simulation.report`
shows and stores the statistics.  Each stage runs only if all before it succeeded, and the effects
of those that did stay.
-/

namespace CycleSim

/-- What the program writes to its output. -/
inductive Output where
  /-- A line of the log. -/
  | line (entry : LogLine)
  /-- Text as it stands. -/
  | text (content : String)
  deriving DecidableEq, Repr

/-- The text of an output item; a log line starts with its severity. -/
def Output.render : Output → String
  | .line entry => entry.severity.label ++ " " ++ entry.message ++ "\n"
  | .text content => content

/-- What a call of the program leaves behind. -/
structure Report where
  exitCode : Nat
  output : List Output := []
  errors : String := ""
  files : FileTree

/-- The configuration of a call: the file's settings, or the defaults, with the options' choices. -/
def Options.configure (options : Options) (files : FileTree) : Except ConfigError Config := do
  let config ← match options.config with
    | some path => Config.load files path
    | none => .ok {}
  .ok { config with
    model := { config.model with name := options.model.getD config.model.name }
    paths := { config.paths with logDir := options.logDir.getD config.paths.logDir } }

/-- What is reported once the context stands: missing coverage support, the context, and the
settings. -/
def startEvents (build : Build) (config : Config) (ctx : Context) : List LogEvent :=
  let unsupported := if ctx.coverage.isSome && !build.coverage then [.coverageUnsupported] else []
  let enabled := ctx.coverage.isSome && build.coverage
  let limit := match config.general.maxTicks with
    | some limit => toString limit.toNat
    | none => "unbounded"
  unsupported ++
    [.contextInitialized ctx.debugLevel ctx.resetPolicy ctx.seed ctx.coverage.isSome,
     .setting "Global Configuration",
     .setting ("  Model:          " ++ config.model.name),
     .setting ("  Debug Level:    " ++ toString ctx.debugLevel.toNat),
     .setting ("  Rand Reset:     " ++ ctx.resetPolicy.title),
     .setting ("  Seed:           " ++ toString ctx.seed.toNat),
     .setting ("  Time Unit:      " ++ ctx.timeUnit.symbol),
     .setting ("  Coverage:       " ++ (if enabled then "Enabled" else "Disabled")),
     .setting ("  Log Dir:        " ++ config.paths.logDir),
     .setting ("  Max Ticks:      " ++ limit)]

/-- A call up to the end of its run. -/
structure Simulation where
  /-- Files and log at the end of the run. -/
  host : Host
  /-- The statistics with the path of their file, or the failure. -/
  outcome : Except SimError (RunStats × Option String)

namespace Simulation

/-- Runs a device to its end.  A device finishes within its own bound on ticks. -/
def runDevice (build : Build) (config : Config) (ctx : Context) (device : Device) (host : Host) :
    Simulation :=
  let loop := ((Loop.new build ctx device).withCoveragePath config.coveragePath).withMaxTicks
    config.general.maxTicks
  let bound := Device.ticksToFinish device
  match Bench.runWithin (bound + 1) { loop, host } with
  | some (result, bench) =>
    { host := bench.host, outcome := result.map fun stats => (stats, config.paths.statsFile) }
  | none => { host, outcome := .error (.tickLimitExceeded (UInt64.ofNat bound)) }

/-- Builds the log directory and the device in a context, and runs the device. -/
def runModel (build : Build) (config : Config) (ctx : Context) (host : Host) : Simulation :=
  match host.files.makeDirectories config.paths.logDir with
  | (.error cause, files) => { host := { host with files }, outcome := .error (.io cause) }
  | (.ok (), files) =>
    let host := { host with files }
    match Device.build config.model ctx with
    | .error cause => { host, outcome := .error (.config cause) }
    | .ok (device, ctx) => runDevice build config ctx device host

/-- Makes a call up to the end of its run.  The log keeps what the filter `filterText` lets through,
or what the debug level asks for if there is no filter or a malformed one. -/
def start (build : Build) (filterText : Option String) (files : FileTree) (options : Options) :
    Simulation :=
  match options.configure files with
  | .error cause => { host := { files }, outcome := .error (.config cause) }
  | .ok config =>
    let level := config.general.startupDebugLevel options.forwarded
    let filter := (filterText.bind LogFilter.parse?).getD (LogFilter.ofDebugLevel level)
    let host : Host := { files, log := { filter } }
    match Context.build config.general config.coverage options.forwarded with
    | .error cause => { host, outcome := .error (.config cause) }
    | .ok ctx =>
      let log := host.log.reportAll (startEvents build config ctx)
      runModel build config ctx { host with log }

/-- What is left behind by a call that fails. -/
def failure (output : List Output) (files : FileTree) (cause : SimError) : Report where
  exitCode := 1
  output
  errors := "\n[!] FATAL: " ++ cause.message ++ "\n"
  files

/-- Shows the statistics, unless `quiet`, and writes their file. -/
def report (simulation : Simulation) (quiet : Bool) (timing : RunStats → Timing) : Report :=
  let lines := simulation.host.log.lines.map Output.line
  let files := simulation.host.files
  match simulation.outcome with
  | .error cause => failure lines files cause
  | .ok (stats, statsFile) =>
    let output := if quiet then lines else lines ++ [.text (stats.summary (timing stats))]
    match statsFile with
    | none => { exitCode := 0, output, files }
    | some path =>
      match stats.writeJson (timing stats) files path with
      | .error cause => failure output files cause
      | .ok files =>
        let log : Log := { filter := simulation.host.log.filter }
        let written := (log.report (.statisticsWritten path)).lines.map Output.line
        { exitCode := 0, output := output ++ written, files }

end Simulation

namespace Invocation

/-- Makes a call; host time is shown as `timing` says. -/
def execute (build : Build) (filterText : Option String) (timing : RunStats → Timing)
    (files : FileTree) : Invocation → Report
  | run options =>
    (Simulation.start build filterText files options).report options.quiet timing
  | showHelp => { exitCode := 0, output := [.text Usage.help], files }
  | showVersion => { exitCode := 0, output := [.text Usage.version], files }
  | misuse => { exitCode := 2, errors := Usage.misuse, files }

end Invocation

end CycleSim
