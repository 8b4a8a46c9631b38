import Mathlib.Data.Nat.Init
import Mathlib.Logic.Function.Iterate
import CycleSim.Model.Basic

/-!
# Edge-triggered models

A model is edge-triggered if an evaluation does its work at a rising edge of the clock input and
does nothing else but sample the clock.  `work` is the part of the model that an edge acts on, with
the clock registers set aside, and `edge` is what an edge does to it.  Under any inputs such a model
is known from its number of edges: its work is an iterate of `edge`, and the coverage it has
recorded is the `trace` of that many edges.
-/

namespace CycleSim

namespace Context

/-- A context without events stays as it is. -/
@[simp] lemma record_nil (ctx : Context) : ctx.record [] = ctx := by
  cases ctx with
  | mk _ _ _ _ coverage => cases coverage <;> rfl

/-- Events are recorded in order. -/
lemma record_append (ctx : Context) (events later : List Coverage.Event) :
    ctx.record (events ++ later) = (ctx.record events).record later := by
  cases h : ctx.coverage <;>
    simp [record, Coverage.Database.recordAll, List.foldl_append, h]

/-- A context without draws stays as it is. -/
@[simp] lemma skipDraws_zero (ctx : Context) : ctx.skipDraws 0 = ctx := by
  unfold skipDraws
  split <;> rfl

end Context

/-- A model that works at rising edges of its clock input and nowhere else. -/
class EdgeTriggered (σ : Type) [DeviceModel σ] where
  /-- The clock input. -/
  clock : σ → Level
  /-- The clock input at the evaluation before. -/
  sampled : σ → Level
  /-- The model with the registers set aside that an evaluation without an edge changes. -/
  work : σ → σ
  /-- What an edge does. -/
  edge : σ → σ
  /-- The coverage events of an edge. -/
  edgeEvents : σ → List Coverage.Event
  /-- What is true of the work of a model from its construction on. -/
  Sound : σ → Prop
  sound_edge : ∀ {model : σ}, Sound model → Sound (edge model)
  finished_edge : ∀ {model : σ}, Sound model → DeviceModel.finished model = true →
    DeviceModel.finished (edge model) = true
  finished_work : ∀ model : σ, DeviceModel.finished (work model) = DeviceModel.finished model
  clock_setClock : ∀ level (model : σ), clock (DeviceModel.setClock level model) = level
  sampled_setClock : ∀ level (model : σ),
    sampled (DeviceModel.setClock level model) = sampled model
  work_setClock : ∀ level (model : σ), work (DeviceModel.setClock level model) = work model
  clock_evaluate : ∀ ctx {model : σ}, Sound (work model) →
    clock (DeviceModel.evaluate ctx model).model = clock model
  sampled_evaluate : ∀ ctx {model : σ}, Sound (work model) →
    sampled (DeviceModel.evaluate ctx model).model = clock model
  draws_evaluate : ∀ ctx {model : σ}, Sound (work model) →
    (DeviceModel.evaluate ctx model).draws = 0
  result_evaluate : ∀ ctx {model : σ}, Sound (work model) →
    (DeviceModel.evaluate ctx model).result = .ok ()
  work_evaluate : ∀ ctx {model : σ}, Sound (work model) →
    work (DeviceModel.evaluate ctx model).model =
      if (sampled model).rises (clock model) then edge (work model) else work model
  events_evaluate : ∀ ctx {model : σ}, Sound (work model) →
    (DeviceModel.evaluate ctx model).events =
      if (sampled model).rises (clock model) then edgeEvents (work model) else []
  finalize_snd : ∀ model : σ, (DeviceModel.finalize model).2 = model
  finalize_fst : ∀ {model : σ}, DeviceModel.finished model = true →
    (DeviceModel.finalize model).1 = .ok ()

namespace EdgeTriggered

variable {σ : Type} [DeviceModel σ] [EdgeTriggered σ] {model : σ}

/-- The coverage events of the first `n` edges. -/
def trace (model : σ) (n : ℕ) : List Coverage.Event :=
  (List.range n).flatMap fun k => edgeEvents (edge^[k] model)

@[simp] lemma trace_zero (model : σ) : trace model 0 = [] := rfl

/-- One more edge adds its events to the trace. -/
lemma trace_succ (model : σ) (n : ℕ) :
    trace model (n + 1) = trace model n ++ edgeEvents (edge^[n] model) := by
  rw [trace, List.range_succ, List.flatMap_append, List.flatMap_singleton]
  rfl

/-- Soundness lasts. -/
lemma sound_iterate (sound : Sound model) (n : ℕ) : Sound (edge^[n] model) := by
  induction n with
  | zero => exact sound
  | succ n ih =>
    rw [Function.iterate_succ_apply']
    exact sound_edge ih

/-- Once finished, a model stays finished at all further edges. -/
lemma finished_iterate_of_le (sound : Sound model) {n m : ℕ} (le : n ≤ m)
    (finished : DeviceModel.finished (edge^[n] model) = true) :
    DeviceModel.finished (edge^[m] model) = true := by
  induction m, le using Nat.le_induction with
  | base => exact finished
  | succ m _ ih =>
    rw [Function.iterate_succ_apply']
    exact finished_edge (sound_iterate sound m) ih

end EdgeTriggered

end CycleSim
