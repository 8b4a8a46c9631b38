import CycleSim.Model.Basic

/-!
# Scripted models

A model that does what a script says at each of its evaluations and writes down everything the loop
does to it.  Its indicator may rise and drop again, and any evaluation or the closing may fail, so
runs of scripted models reach every path of the loop.
-/

namespace CycleSim

/-- A failure in a script. -/
inductive ScriptedFailure where
  | assertion (message : String)
  | config (message : String)
  | io (message : String)
  deriving DecidableEq, Repr

/-- The failure, with `time` as the time of an assertion. -/
def ScriptedFailure.toError (time : UInt64) : ScriptedFailure → SimError
  | assertion message => .assertion time message
  | config message => .config (.reported message)
  | io message => .io (.reported message)

/-- What a scripted model does. -/
structure Script where
  name : String := "scripted"
  /-- The indicator is set from this many evaluations on. -/
  finishFrom : UInt64 := 0xffffffffffffffff
  /-- The indicator drops at this many evaluations. -/
  finishUntil : UInt64 := 0xffffffffffffffff
  /-- Evaluations that fail, by their number counted from 1. -/
  failures : List (UInt64 × ScriptedFailure) := []
  /-- Failure of the closing, if any. -/
  finalizeFailure : Option ScriptedFailure := none
  /-- Hits on coverage points, by the number of the evaluation; 0 stands for every one. -/
  cover : List (UInt64 × String × UInt64) := []
  /-- Width of a register value to draw at every evaluation, if any. -/
  draw : Option UInt32 := none
  deriving DecidableEq, Repr

/-- A script under way, with what has happened so far, newest first. -/
structure Scripted where
  script : Script
  clock : Level := .low
  evaluations : UInt64 := 0
  finalizeCalls : UInt64 := 0
  clockWrites : List Level := []
  evaluationClocks : List Level := []
  evaluationTimes : List UInt64 := []
  drawn : List UInt64 := []
  deriving DecidableEq, Repr

namespace Scripted

/-- One evaluation: everything seen is written down, then the script is followed. -/
def evaluate (ctx : Context) (model : Scripted) : Evaluation Scripted :=
  let number := model.evaluations + 1
  let script := model.script
  { model :=
      { model with
        evaluations := number
        evaluationClocks := model.clock :: model.evaluationClocks
        evaluationTimes := ctx.time :: model.evaluationTimes
        drawn := (script.draw.map ctx.registerBits).toList ++ model.drawn }
    events := (script.cover.filter fun entry => entry.1 = 0 ∨ entry.1 = number).map
      fun entry => .add entry.2.1 entry.2.2
    draws := if script.draw.isSome then 1 else 0
    result := match script.failures.lookup number with
      | some failure => .error (failure.toError ctx.time)
      | none => .ok () }

instance : DeviceModel Scripted where
  name model := model.script.name
  setClock level model :=
    { model with clock := level, clockWrites := level :: model.clockWrites }
  evaluate := evaluate
  finalize model :=
    (match model.script.finalizeFailure with
      | some failure => .error (failure.toError model.evaluations)
      | none => .ok (),
     { model with finalizeCalls := model.finalizeCalls + 1 })
  finished model :=
    model.script.finishFrom ≤ model.evaluations && model.evaluations < model.script.finishUntil

end Scripted

end CycleSim
