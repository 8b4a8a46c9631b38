import CycleSim.Binary64.Rounding
import CycleSim.Decimal.Shortest
import CycleSim.TimeUnit

/-!
# Run statistics

How far a run got and what it covered.  The time that a run takes on the host is no part of its
statistics: it is measured outside and joins them as `Timing` when they are shown.
-/

namespace CycleSim

/-- How far a run got. -/
structure RunStats where
  /-- Name of the model. -/
  model : String
  /-- Unit of `simTime`. -/
  timeUnit : TimeUnit
  /-- Successful evaluations. -/
  ticks : UInt64 := 0
  /-- Clock periods begun. -/
  cycles : UInt64 := 0
  /-- Simulated time reached. -/
  simTime : UInt64 := 0
  /-- Whether the model was finalized and all results were written. -/
  finished : Bool := false
  /-- Points in the coverage file. -/
  coveragePoints : Nat := 0
  /-- Points in the coverage file with at least one hit. -/
  coverageCovered : Nat := 0
  deriving DecidableEq, Repr, Inhabited

/-- How host time is shown. -/
structure Timing where
  /-- Seconds and their unit, in the summary. -/
  seconds : String
  /-- Simulated frequency and its unit, in the summary. -/
  frequency : String
  /-- Seconds, in the JSON document. -/
  json : String
  deriving DecidableEq, Repr

namespace RunStats

/-- Clock periods per second on the host, in thousands; 0 if no time has passed. -/
def kilohertz (stats : RunStats) (seconds : Binary64) : Binary64 :=
  if seconds.isPositive then
    ((Binary64.ofNat stats.cycles.toNat).div seconds).div (Binary64.ofNat 1000)
  else ⟨0⟩

/-- Share of covered points in percent. -/
def coveragePercent (stats : RunStats) : Binary64 :=
  ((Binary64.ofNat stats.coverageCovered).div (Binary64.ofNat stats.coveragePoints)).mul
    (Binary64.ofNat 100)

/-- A double as a JSON number: its shortest digits, positional from `10 ^ (-5)` to below
`10 ^ 16` and scientific outside.  Infinities and not-a-numbers are `null`. -/
def jsonNumber (x : Binary64) : String :=
  if x.isFinite then
    let decimal := x.shortest .toEven
    let power := decimal.leadingExponent
    (if x.isNegative then "-" else "") ++
      (if x.isZero || (-5 ≤ power && power < 16) then decimal.positional
      else decimal.scientific true)
  else "null"

/-- How a time of `seconds` is shown. -/
def timing (stats : RunStats) (seconds : Binary64) : Timing where
  seconds := seconds.fixed 4 ++ " s"
  frequency := (stats.kilohertz seconds).fixed 2 ++ " kHz"
  json := jsonNumber seconds

end RunStats

end CycleSim
