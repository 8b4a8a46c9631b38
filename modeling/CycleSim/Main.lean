import CycleSim.CommandLine.Snapshot

/-!
# The program

Reads the host's files, clock and environment, makes the call, and writes back its effects.
-/

namespace CycleSim

/-- Nanoseconds in seconds. -/
def secondsOfNanos (nanos : Nat) : Binary64 :=
  (Binary64.ofNat nanos).div (Binary64.ofNat 1000000000)

/-- Makes a run with the given options and measures its host time. -/
def runOptions (build : Build) (options : Options) (filterText : Option String)
    (files : FileTree) : IO Report := do
  let began ← IO.monoNanosNow
  let simulation ← IO.lazyPure fun _ => Simulation.start build filterText files options
  let ended ← IO.monoNanosNow
  let seconds := secondsOfNanos (ended - began)
  return simulation.report options.quiet fun stats => stats.timing seconds

/-- Shows a report and stores its files. -/
def publish (before : FileTree) (report : Report) : IO UInt32 := do
  Snapshot.store before report.files
  let output ← IO.getStdout
  for item in report.output do
    output.putStr item.render
  output.flush
  (← IO.getStderr).putStr report.errors
  return UInt32.ofNat report.exitCode

end CycleSim

open CycleSim in
/-- Runs the program. -/
def main (args : List String) : IO UInt32 := do
  let place := (← IO.currentDir).toString
  match Invocation.read args with
  | .run options =>
    let files ← Snapshot.take place options
    let report ← runOptions {} options (← IO.getEnv "RUST_LOG") files
    publish files report
  | other =>
    let files := Snapshot.ofWorkingDirectory place
    publish files (other.execute {} none (fun stats => stats.timing ⟨0⟩) files)
