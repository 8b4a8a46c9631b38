import CycleSim.Error
import CycleSim.FileTree.Path
import CycleSim.ResetPolicy
import CycleSim.TimeUnit

/-!
# Configuration

The settings of a run in four sections.  Every setting has a default, so an empty document is a
complete configuration.  `Config.validate` holds the checks that look at values and not at their
types.
-/

namespace CycleSim

/-- Verbosity, reset values and the time base. -/
structure GeneralSettings where
  debugLevel : UInt32 := 0
  resetPolicy : ResetPolicy := .random
  seed : UInt64 := 0
  timeUnit : TimeUnit := .nanosecond
  /-- Bound on the ticks of a run, if any. -/
  maxTicks : Option UInt64 := none
  deriving DecidableEq, Repr, Inhabited

/-- Coverage collection. -/
structure CoverageSettings where
  enabled : Bool := true
  deriving DecidableEq, Repr, Inhabited

/-- Where a run writes its files. -/
structure PathSettings where
  logDir : String := "logs"
  statsFile : Option String := none
  deriving DecidableEq, Repr, Inhabited

/-- The device model and its parameters. -/
structure ModelSettings where
  name : String := "counter"
  counterWidth : UInt32 := 8
  counterCycles : UInt64 := 50
  deriving DecidableEq, Repr, Inhabited

/-- The settings of a run. -/
structure Config where
  general : GeneralSettings := {}
  coverage : CoverageSettings := {}
  paths : PathSettings := {}
  model : ModelSettings := {}
  deriving DecidableEq, Repr, Inhabited

/-- Name of the coverage file in the log directory. -/
def coverageFile : String := "coverage.dat"

namespace Config

/-- Checks the ranges of the settings; the counter's width is looked at first. -/
def validate (config : Config) : Except ConfigError Config :=
  if config.model.counterWidth = 0 ∨ 64 < config.model.counterWidth then
    .error (.counterWidth config.model.counterWidth)
  else if config.general.maxTicks = some 0 then .error .zeroTickLimit
  else .ok config

/-- Path of the coverage file. -/
def coveragePath (config : Config) : String :=
  Path.join config.paths.logDir coverageFile

end Config

end CycleSim
