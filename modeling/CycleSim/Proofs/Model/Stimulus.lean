import Mathlib.Data.List.Count
import CycleSim.Proofs.Model.EdgeTriggered

/-!
# Models driven by hand

A model need not stand in a loop.  A `Rig` holds a model with the context it works in, and a
`Stimulus` is what can be done to it: its clock input is driven to a level, or it is evaluated, in
any order and as often as one likes.  Of the levels that are driven only those count at which the
model is evaluated, and of these only the highs that come right after a low
(`Stimulus.risingEdges`).

An edge-triggered model does the work of that many edges and nothing else, and no evaluation of it
fails (`After.drive`).
-/

namespace CycleSim

/-- An input to a model that is driven by hand. -/
inductive Stimulus where
  /-- The clock input is driven to a level. -/
  | setClock (level : Level)
  /-- The model is evaluated. -/
  | evaluate
  deriving DecidableEq, Repr

namespace Stimulus

/-- The levels at which stimuli evaluate a model whose clock input stands at `level`. -/
def sampledLevels (level : Level) : List Stimulus → List Level
  | [] => []
  | setClock next :: rest => sampledLevels next rest
  | evaluate :: rest => level :: sampledLevels level rest

@[simp] lemma sampledLevels_setClock (level next : Level) (rest : List Stimulus) :
    sampledLevels level (setClock next :: rest) = sampledLevels next rest := rfl

@[simp] lemma sampledLevels_evaluate (level : Level) (rest : List Stimulus) :
    sampledLevels level (evaluate :: rest) = level :: sampledLevels level rest := rfl

/-- The highs in a sequence of levels that come right after a low, where `before` stands in front of
the sequence. -/
def rises (before : Level) (levels : List Level) : ℕ :=
  ((before :: levels).zip levels).countP fun pair => pair = (.low, .high)

/-- The rising edges at which stimuli evaluate a model, if its clock input is low at first and was
low at its last evaluation. -/
def risingEdges (stimuli : List Stimulus) : ℕ :=
  rises .low (sampledLevels .low stimuli)

/-- The first level is counted against the level in front of it. -/
lemma rises_cons (before level : Level) (levels : List Level) :
    rises before (level :: levels) =
      (before.rises level).toNat + rises level levels := by
  rw [rises, List.zip_cons_cons, List.countP_cons, Nat.add_comm]
  cases before <;> cases level <;> rfl

/-- Stimuli with three edges: evaluations are repeated at one level, and a clock that falls and
rises again between two evaluations is not seen. -/
def threeEdges : List Stimulus :=
  [evaluate, setClock .high, evaluate, evaluate, setClock .low, setClock .high, evaluate,
    setClock .low, evaluate, setClock .high, evaluate, setClock .low, evaluate,
    setClock .high, evaluate]

example : risingEdges threeEdges = 3 := by decide

end Stimulus

/-- A model by itself, with its context and the answers of its evaluations so far. -/
structure Rig (σ : Type) where
  model : σ
  context : Context
  answers : List (Except SimError Unit) := []

namespace Rig

/-- A model that was just built, with the context that its building left. -/
def mount {σ : Type} (parts : σ × Context) : Rig σ where
  model := parts.1
  context := parts.2

variable {σ : Type} [DeviceModel σ]

/-- The rig after one stimulus.  What an evaluation does to the model and to the context stands
whether it succeeds or fails. -/
def apply (rig : Rig σ) : Stimulus → Rig σ
  | .setClock level => { rig with model := DeviceModel.setClock level rig.model }
  | .evaluate =>
    let evaluation := DeviceModel.evaluate rig.context rig.model
    { model := evaluation.model
      context := rig.context.absorb evaluation
      answers := rig.answers ++ [evaluation.result] }

/-- The rig after stimuli in order. -/
def drive (rig : Rig σ) (stimuli : List Stimulus) : Rig σ :=
  stimuli.foldl apply rig

@[simp] lemma drive_cons (rig : Rig σ) (stimulus : Stimulus) (rest : List Stimulus) :
    rig.drive (stimulus :: rest) = (rig.apply stimulus).drive rest := rfl

variable [EdgeTriggered σ] {first rig : Rig σ} {edges evaluations : ℕ}

open EdgeTriggered

/-- The rig after a number of edges and of evaluations since `first`: the edges make up what the
model and the context have become, and every evaluation has succeeded. -/
structure After (first : Rig σ) (edges evaluations : ℕ) (rig : Rig σ) : Prop where
  work_eq : work rig.model = edge^[edges] (work first.model)
  context_eq : rig.context = first.context.record (trace (work first.model) edges)
  answers_eq : rig.answers = first.answers ++ List.replicate evaluations (.ok ())

/-- At the beginning there are no edges and no evaluations. -/
lemma After.refl (first : Rig σ) : After first 0 0 first where
  work_eq := rfl
  context_eq := by
    rw [trace_zero, Context.record_nil]
  answers_eq := (List.append_nil _).symm

/-- The database, if there is one, has taken the events of the edges. -/
lemma After.coverage_eq (after : After first edges evaluations rig) :
    rig.context.coverage =
      first.context.coverage.map (·.recordAll (trace (work first.model) edges)) := by
  rw [after.context_eq]
  rfl

/-- Driving the clock input is no edge. -/
lemma After.setClock (after : After first edges evaluations rig) (level : Level) :
    After first edges evaluations (rig.apply (.setClock level)) where
  work_eq := (work_setClock level rig.model).trans after.work_eq
  context_eq := after.context_eq
  answers_eq := after.answers_eq

/-- The work of a model stays sound. -/
lemma After.sound (after : After first edges evaluations rig) (sound : Sound (work first.model)) :
    Sound (work rig.model) := by
  rw [after.work_eq]
  exact sound_iterate sound edges

/-- An evaluation succeeds, and has an edge if the clock input was low at the evaluation before and
is high. -/
lemma After.evaluate (after : After first edges evaluations rig)
    (sound : Sound (work first.model)) :
    After first (edges + ((sampled rig.model).rises (clock rig.model)).toNat) (evaluations + 1)
      (rig.apply .evaluate) := by
  have here : Sound (work rig.model) := after.sound sound
  have draws := draws_evaluate rig.context here
  have result := result_evaluate rig.context here
  have worked := work_evaluate rig.context here
  have events := events_evaluate rig.context here
  constructor
  · show work (DeviceModel.evaluate rig.context rig.model).model = _
    rw [worked, after.work_eq]
    cases (sampled rig.model).rises (clock rig.model) with
    | true => exact (Function.iterate_succ_apply' _ _ _).symm
    | false => rfl
  · show (rig.context.record _).skipDraws _ = _
    rw [draws, Context.skipDraws_zero, events, after.context_eq, after.work_eq,
      ← Context.record_append]
    cases (sampled rig.model).rises (clock rig.model) with
    | true => exact congrArg _ (trace_succ _ _).symm
    | false => exact congrArg _ (List.append_nil _)
  · show rig.answers ++ [_] = _
    rw [result, after.answers_eq, List.append_assoc, ← List.replicate_succ']

/-- After any stimuli an edge-triggered model has had the rising edges among the levels at which it
was evaluated, and no evaluation has failed. -/
theorem After.drive (after : After first edges evaluations rig) (sound : Sound (work first.model))
    (stimuli : List Stimulus) :
    After first
      (edges +
        Stimulus.rises (sampled rig.model) (Stimulus.sampledLevels (clock rig.model) stimuli))
      (evaluations + stimuli.count .evaluate) (rig.drive stimuli) := by
  -- The level that an evaluation samples stands in front of the levels that are sampled later.
  induction stimuli generalizing rig edges evaluations with
  | nil => exact after
  | cons stimulus stimuli ih =>
    cases stimulus with
    | setClock level =>
      have next := ih (after.setClock level)
      have clock_eq : clock (rig.apply (.setClock level)).model = level := clock_setClock _ _
      have sampled_eq : sampled (rig.apply (.setClock level)).model = sampled rig.model :=
        sampled_setClock _ _
      rw [clock_eq, sampled_eq] at next
      simpa using next
    | evaluate =>
      have here : Sound (work rig.model) := after.sound sound
      have next := ih (after.evaluate sound)
      have clock_eq : clock (rig.apply .evaluate).model = clock rig.model :=
        clock_evaluate rig.context here
      have sampled_eq : sampled (rig.apply .evaluate).model = clock rig.model :=
        sampled_evaluate rig.context here
      rw [clock_eq, sampled_eq, Nat.add_assoc, ← Stimulus.rises_cons, Nat.add_assoc,
        Nat.add_comm 1] at next
      simpa using next

/-- From its building on, a model whose clock registers start low has had the rising edges of the
stimuli. -/
lemma after_mount (parts : σ × Context) (sound : Sound (work parts.1))
    (clock_eq : clock parts.1 = .low) (sampled_eq : sampled parts.1 = .low)
    (stimuli : List Stimulus) :
    After (mount parts) (Stimulus.risingEdges stimuli) (stimuli.count .evaluate)
      ((mount parts).drive stimuli) := by
  have after := (After.refl (mount parts)).drive sound stimuli
  change After _ (0 + Stimulus.rises (sampled parts.1) (Stimulus.sampledLevels (clock parts.1) _))
    _ _ at after
  rwa [clock_eq, sampled_eq, Nat.zero_add, Nat.zero_add] at after

/-- A model that has finished stays finished under all further stimuli. -/
theorem After.finished_drive (after : After first edges evaluations rig)
    (sound : Sound (work first.model)) (finished : DeviceModel.finished rig.model = true)
    (later : List Stimulus) : DeviceModel.finished (rig.drive later).model = true := by
  have last := after.drive sound later
  rw [← finished_work, after.work_eq] at finished
  rw [← finished_work, last.work_eq]
  exact finished_iterate_of_le sound (Nat.le_add_right _ _) finished

end Rig

end CycleSim
