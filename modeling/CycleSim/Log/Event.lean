import CycleSim.Clock.Level
import CycleSim.ResetPolicy
import CycleSim.TimeUnit

/-!
# Log events

What a run reports as it goes, each event with a severity, a category and a wording, and the line
that shows it.  Characters that could steer a terminal are shown escaped in a line.
-/

namespace CycleSim

/-- How much an event matters, the gravest first. -/
inductive Severity where
  | error
  | warn
  | info
  | debug
  | trace
  deriving DecidableEq, Repr

namespace Severity

/-- All severities, the gravest first. -/
def all : List Severity :=
  [error, warn, info, debug, trace]

/-- Word that stands for a severity in a log line. -/
def label : Severity → String
  | error => "ERROR"
  | warn => "WARN"
  | info => "INFO"
  | debug => "DEBUG"
  | trace => "TRACE"

/-- Position in the order of severities, counted from 1. -/
def rank : Severity → Nat
  | error => 1
  | warn => 2
  | info => 3
  | debug => 4
  | trace => 5

end Severity

/-- Something that a run reports. -/
inductive LogEvent where
  /-- Coverage was asked for in a build that cannot write it. -/
  | coverageUnsupported
  /-- The context was built. -/
  | contextInitialized (debugLevel : UInt32) (policy : ResetPolicy) (seed : UInt64)
      (coverage : Bool)
  /-- A line of the summary of settings. -/
  | setting (line : String)
  /-- A run of a model began. -/
  | runStarted (model : String)
  /-- The clock produced an edge. -/
  | ticked (time : UInt64) (level : Level)
  /-- The model reported that it finished. -/
  | finishSignalled (model time : String)
  /-- The coverage file was written. -/
  | coverageWritten (path : String) (points covered : Nat)
  /-- The model was finalized and all its results are written. -/
  | runFinished (model time : String) (ticks : UInt64)
  /-- The statistics file was written. -/
  | statisticsWritten (path : String)
  deriving DecidableEq, Repr

namespace LogEvent

/-- Severity of an event. -/
def severity : LogEvent → Severity
  | coverageUnsupported => .warn
  | contextInitialized .. => .debug
  | setting _ => .info
  | runStarted _ => .info
  | ticked .. => .trace
  | finishSignalled .. => .debug
  | coverageWritten .. => .debug
  | runFinished .. => .info
  | statisticsWritten _ => .info

/-- Name of the part of a run that reports an event; filters select events by it. -/
def category : LogEvent → String
  | coverageUnsupported => "rtl_harness::sim::context"
  | contextInitialized .. => "rtl_harness::sim::context"
  | setting _ => "rtl_harness"
  | runStarted _ => "rtl_harness::sim::harness"
  | ticked .. => "rtl_harness::sim::harness"
  | finishSignalled .. => "rtl_harness::sim::context"
  | coverageWritten .. => "rtl_harness::sim::coverage"
  | runFinished .. => "rtl_harness::sim::harness"
  | statisticsWritten _ => "rtl_harness"

/-- Wording of an event. -/
def message : LogEvent → String
  | coverageUnsupported => "coverage requested but this build has no coverage support"
  | contextInitialized debugLevel policy seed coverage =>
    "context initialized: debug_level=" ++ toString debugLevel.toNat ++ " rand_reset="
      ++ policy.title ++ " seed=" ++ toString seed.toNat ++ " coverage="
      ++ (if coverage then "true" else "false")
  | setting line => line
  | runStarted model => "simulation of " ++ model ++ " started"
  | ticked time level =>
    "t=" ++ toString time.toNat ++ " clk=" ++ String.singleton level.digit
  | finishSignalled model time => model ++ " signalled finish at " ++ time
  | coverageWritten path points covered =>
    "coverage written to " ++ path ++ " (" ++ toString points ++ " points, " ++ toString covered
      ++ " covered)"
  | runFinished model time ticks =>
    "simulation of " ++ model ++ " finished at " ++ time ++ " after " ++ toString ticks.toNat
      ++ " ticks"
  | statisticsWritten path => "statistics written to " ++ path

end LogEvent

/-- A line of the log. -/
structure LogLine where
  severity : Severity
  message : String
  deriving DecidableEq, Repr

/-- How a character is shown in a log line. -/
def LogLine.showChar (c : Char) : String :=
  match c with
  | '\x1b' => "\\x1b"
  | '\x07' => "\\x07"
  | '\x08' => "\\x08"
  | '\x0c' => "\\x0c"
  | '\x7f' => "\\x7f"
  | c =>
    if 0x80 ≤ c.val && c.val ≤ 0x9f then
      "\\u\x7b" ++ String.ofList (Nat.toDigits 16 c.toNat) ++ "\x7d"
    else String.singleton c

/-- The line of an event. -/
def LogLine.ofEvent (event : LogEvent) : LogLine where
  severity := event.severity
  message := String.join (event.message.toList.map showChar)

end CycleSim
