import CycleSim.Stats.Basic

/-!
# The summary

The statistics as a table of names and values between rules, with the coverage share below if
there are coverage points.
-/

namespace CycleSim.RunStats

/-- Double rule around the tables. -/
def doubleRule : String := "=========================================================="

/-- Single rule between the tables. -/
def singleRule : String := "----------------------------------------------------------"

/-- A line of the table: the name padded to a fixed column, then the value. -/
def entryLine (name value : String) : String :=
  name ++ "".pushn ' ' (25 - name.length) ++ value

/-- Lines of the coverage table; there are none without coverage points. -/
def coverageLines (stats : RunStats) : List String :=
  if stats.coveragePoints = 0 then []
  else
    [singleRule, "COVERAGE",
     entryLine "  points" (toString stats.coveragePoints),
     entryLine "  covered" (toString stats.coverageCovered ++ " ("
       ++ stats.coveragePercent.fixed 2 ++ "%)")]

/-- Lines of the summary, the first one empty. -/
def summaryLines (stats : RunStats) (timing : Timing) : List String :=
  ["", doubleRule, "SIMULATION STATISTICS", doubleRule,
   entryLine "model" stats.model,
   entryLine "host_seconds" timing.seconds,
   entryLine "sim_ticks" (toString stats.ticks.toNat),
   entryLine "sim_cycles" (toString stats.cycles.toNat),
   entryLine "sim_time" (stats.timeUnit.timeText stats.simTime),
   entryLine "sim_freq" timing.frequency,
   entryLine "finished" (if stats.finished then "yes" else "no")]
    ++ stats.coverageLines ++ [doubleRule]

/-- The summary. -/
def summary (stats : RunStats) (timing : Timing) : String :=
  String.join ((stats.summaryLines timing).map (· ++ "\n"))

end CycleSim.RunStats
