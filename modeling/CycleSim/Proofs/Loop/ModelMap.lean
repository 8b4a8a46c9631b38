import CycleSim.Model.Sum
import CycleSim.Proofs.Loop.Session

/-!
# Maps between models

A map from one kind of model to another that commutes with everything the loop does to a model is
a `ModelMap`.  The loop cannot tell a model from its image: steps and runs commute with the map
(`step_mapModel`, `runWithin_mapModel`), and every session of the image comes from a session of the
original with the same calls and answers (`Session.lift`).
-/

namespace CycleSim

variable {σ τ : Type} [DeviceModel σ] [DeviceModel τ]

/-- A map between models that commutes with all that the loop does to a model. -/
structure ModelMap (f : σ → τ) : Prop where
  name : ∀ model, DeviceModel.name (f model) = DeviceModel.name model
  setClock : ∀ level model,
    DeviceModel.setClock level (f model) = f (DeviceModel.setClock level model)
  evaluate : ∀ ctx model,
    DeviceModel.evaluate ctx (f model) = (DeviceModel.evaluate ctx model).mapModel f
  finalize : ∀ model, DeviceModel.finalize (f model) = (DeviceModel.finalize model).map id f
  finished : ∀ model, DeviceModel.finished (f model) = DeviceModel.finished model

/-- The loop with its model replaced by the image. -/
def Loop.mapModel {σ τ : Type} (f : σ → τ) (loop : Loop σ) : Loop τ :=
  { loop with model := f loop.model }

namespace Bench

/-- The loop and the host with the model replaced by its image. -/
def mapModel {σ τ : Type} (f : σ → τ) (bench : Bench σ) : Bench τ where
  loop := bench.loop.mapModel f
  host := bench.host
  medium := bench.medium

variable {f : σ → τ}

/-- A new loop on the image is the image of a new loop. -/
lemma start_mapModel (map : ModelMap f) (build : Build) (context : Context) (model : σ)
    (host : Host) (medium : Medium) :
    start build context (f model) host medium =
      (start build context model host medium).mapModel f := by
  simp only [start, mapModel, Loop.mapModel, Loop.new, map.setClock, map.name]

/-- The image of an evaluation is the evaluation of the image. -/
lemma evaluation_mapModel (map : ModelMap f) (bench : Bench σ) :
    (bench.mapModel f).loop.evaluation = bench.loop.evaluation.mapModel f := by
  simp only [Loop.evaluation, Loop.edge, mapModel, Loop.mapModel, map.setClock, map.evaluate]

/-- A step finds the image asked to stop exactly when it finds the original so. -/
lemma asked_mapModel (map : ModelMap f) (bench : Bench σ) :
    (bench.mapModel f).asked = bench.asked := by
  simp only [asked, mapModel, Loop.mapModel, map.finished]

/-- The image ticks as the original does. -/
lemma ticked_mapModel (map : ModelMap f) (bench : Bench σ) :
    (bench.mapModel f).ticked = bench.ticked.mapModel f := by
  simp only [ticked, Loop.tick_snd, evaluation_mapModel map]
  simp only [mapModel, Loop.mapModel, Loop.edge, map.setClock]
  rfl

/-- A look at the image's indicator is a look at the original's. -/
lemma checkFinished_mapModel (map : ModelMap f) (bench : Bench σ) :
    (bench.mapModel f).checkFinished = bench.checkFinished.map id (mapModel f) := by
  simp only [checkFinished, mapModel, Loop.mapModel, map.finished, map.name, Prod.map, id]

omit [DeviceModel σ] [DeviceModel τ] in
/-- Writing coverage does not look at the model. -/
lemma writeCoverage_mapModel (bench : Bench σ) :
    (bench.mapModel f).writeCoverage = bench.writeCoverage.map id (mapModel f) := by
  unfold writeCoverage
  simp only [mapModel, Loop.mapModel]
  split
  · split <;> rfl
  · rfl

/-- The image shuts down as the original does. -/
lemma shutdown_mapModel (map : ModelMap f) (bench : Bench σ) :
    (bench.mapModel f).shutdown = bench.shutdown.map id (mapModel f) := by
  have closing : DeviceModel.finalize (bench.mapModel f).loop.model =
      (DeviceModel.finalize bench.loop.model).map id f := map.finalize bench.loop.model
  have image : (bench.mapModel f).finalized = bench.finalized.mapModel f := by
    simp only [finalized, closing]
    rfl
  rw [shutdown_eq, shutdown_eq, closing, image, writeCoverage_mapModel]
  rcases DeviceModel.finalize bench.loop.model with ⟨_ | _, model⟩
  · rfl
  · rcases bench.finalized.writeCoverage with ⟨_ | _, after⟩
    · rfl
    · simp only [Prod.map, id, conclude, mapModel, Loop.mapModel, map.name]

/-- The image steps as the original does. -/
theorem step_mapModel (map : ModelMap f) (bench : Bench σ) :
    (bench.mapModel f).step = bench.step.map id (mapModel f) := by
  have state : (bench.mapModel f).loop.state = bench.loop.state := rfl
  have limit : (bench.mapModel f).loop.exceededLimit? = bench.loop.exceededLimit? := rfl
  have asked' := asked_mapModel map bench
  have turn := turn_step bench
  generalize bench.step = outcome at turn ⊢
  cases turn with
  | rest stopped => exact step_of_stopped (state.trans stopped)
  | close running asked =>
    rw [step_of_asked (state.trans running) (asked'.trans asked)]
    simp only [closed, checkFinished_mapModel map, Prod.map, id, shutdown_mapModel map]
  | refuse running clear exceeded =>
    exact step_of_exceeded (state.trans running) (asked'.trans clear) (limit.trans exceeded)
  | tick running clear below =>
    rw [step_of_below (state.trans running) (asked'.trans clear) (limit.trans below),
      evaluation_mapModel map, ticked_mapModel map]
    rfl

/-- The image runs as the original does. -/
lemma stepsWithin_mapModel (map : ModelMap f) (bound : Nat) (bench : Bench σ) :
    (bench.mapModel f).stepsWithin bound =
      (bench.stepsWithin bound).map (Prod.map id (mapModel f)) := by
  induction bound generalizing bench with
  | zero => rfl
  | succ bound ih =>
    have image := step_mapModel map bench
    rcases step : bench.step with ⟨_ | (_ | _), after⟩ <;>
      simp only [step, Prod.map, id] at image
    · rw [stepsWithin_of_error step, stepsWithin_of_error image]
      rfl
    · rw [stepsWithin_of_running step, stepsWithin_of_running image, ih]
    · rw [stepsWithin_of_stopped step, stepsWithin_of_stopped image]
      rfl

/-- A whole run of the image is the image of a run. -/
lemma runWithin_mapModel (map : ModelMap f) (bound : Nat) (bench : Bench σ) :
    (bench.mapModel f).runWithin bound =
      (bench.runWithin bound).map (Prod.map id (mapModel f)) := by
  have image : (bench.mapModel f).opened = bench.opened.mapModel f := by
    simp only [opened, mapModel, Loop.mapModel, map.name]
  rw [runWithin_eq, runWithin_eq, image, stepsWithin_mapModel map]

/-- A call on the image is a call on the original. -/
lemma Makes.lift (map : ModelMap f) {bench : Bench σ} {image : Bench τ} {call : Call}
    {answer : Answer} (made : Makes (bench.mapModel f) call answer image) :
    ∃ after, Makes bench call answer after ∧ after.mapModel f = image := by
  cases made with
  | step =>
    rw [step_mapModel map]
    exact ⟨_, .step, rfl⟩
  | run returned =>
    rw [runWithin_mapModel map] at returned
    obtain ⟨⟨result, after⟩, original, same⟩ := Option.map_eq_some_iff.mp returned
    obtain ⟨rfl, rfl⟩ := Prod.mk.inj same
    exact ⟨after, .run original, rfl⟩
  | withMaxTicks limit => exact ⟨_, .withMaxTicks limit, rfl⟩
  | withCoveragePath path => exact ⟨_, .withCoveragePath path, rfl⟩

/-- Every session of the image is the image of a session. -/
theorem Session.lift (map : ModelMap f) {bench : Bench σ} {image : Bench τ}
    {calls : List (Call × Answer)} (session : Session (bench.mapModel f) calls image) :
    ∃ after, Session bench calls after ∧ after.mapModel f = image := by
  generalize origin : bench.mapModel f = first at session
  induction session generalizing bench with
  | nil => exact ⟨bench, .nil bench, origin⟩
  | cons made rest ih =>
    subst origin
    obtain ⟨next, first, rfl⟩ := made.lift map
    obtain ⟨after, others, rfl⟩ := ih rfl
    exact ⟨after, .cons first others, rfl⟩

end Bench

end CycleSim
