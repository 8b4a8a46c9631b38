import CycleSim.Log.Filter

/-!
# The log

A log keeps the lines of the events that its filter lets through, oldest first.
-/

namespace CycleSim

/-- The lines reported so far, newest first, and the filter they passed. -/
structure Log where
  filter : LogFilter := .off
  reversed : List LogLine := []
  deriving DecidableEq, Repr, Inhabited

namespace Log

/-- The log after an event. -/
def report (log : Log) (event : LogEvent) : Log :=
  if log.filter.allows event then
    { log with reversed := LogLine.ofEvent event :: log.reversed }
  else log

/-- The log after events in order. -/
def reportAll (log : Log) (events : List LogEvent) : Log :=
  events.foldl report log

/-- The lines, oldest first. -/
def lines (log : Log) : List LogLine :=
  log.reversed.reverse

end Log

end CycleSim
