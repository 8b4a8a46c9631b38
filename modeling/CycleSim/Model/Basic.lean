import CycleSim.Clock.Level
import CycleSim.Context.Basic

/-!
# Device models

A device model is anything with a clock input that can be evaluated for one time step and says
when it has finished.  An evaluation reads the context and answers with its effects on it: coverage
events and register draws, and nothing else.  So a model cannot move time, touch the latch or turn
coverage on or off.
-/

namespace CycleSim

/-- What one evaluation of a model does. -/
structure Evaluation (σ : Type) where
  /-- The model afterwards. -/
  model : σ
  /-- Coverage events, in order. -/
  events : List Coverage.Event := []
  /-- Number of register values drawn. -/
  draws : Nat := 0
  /-- Whether the evaluation succeeded; its effects stand either way. -/
  result : Except SimError Unit := .ok ()

/-- The view that the loop has of a model with states in `σ`. -/
class DeviceModel (σ : Type) where
  /-- Name in log lines and statistics. -/
  name : σ → String
  /-- Drives the clock input; the level counts from the next evaluation on. -/
  setClock : Level → σ → σ
  /-- Propagates the inputs for one time step. -/
  evaluate : Context → σ → Evaluation σ
  /-- Closes the model's books after the run has stopped. -/
  finalize : σ → Except SimError Unit × σ
  /-- Whether the model has finished. -/
  finished : σ → Bool

/-- The context after an evaluation. -/
def Context.absorb {σ : Type} (ctx : Context) (evaluation : Evaluation σ) : Context :=
  (ctx.record evaluation.events).skipDraws evaluation.draws

/-- A level after the level `before` is a rising edge. -/
def Level.rises (before after : Level) : Bool :=
  before.isLow && after.isHigh

end CycleSim
