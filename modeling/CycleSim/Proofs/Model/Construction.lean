import CycleSim.Proofs.Context.Draws
import CycleSim.Proofs.Model.CounterRegister
import CycleSim.Proofs.Model.DeviceRun
import CycleSim.Proofs.Model.DoublerVectors

/-!
# What construction does to a context

A device is built in steps on the context of its run.  The steps of a doubler look at the arguments
first; then the points of the device are declared and its first register values drawn.
`Device.assemble` takes these steps one by one, and there a failure keeps whatever was done to the
context before it.  No step that can fail stands behind one that changes the context, so the
outcome is the one of `Device.build`, with the old context beside a failure
(`Device.outcome_assemble`).  What a success changes is counted in `Prepared`.
-/

namespace CycleSim

open Coverage

/-! ### Steps -/

/-- Steps on the context of a run.  A failure ends them, and what was done to the context before it
stays. -/
abbrev Setup := ExceptT ConfigError (StateM Context)

namespace Setup

/-- Records coverage events. -/
def record (events : List Event) : Setup Unit :=
  modify (·.record events)

/-- Draws the first value of a register of `width` bits. -/
def draw (width : UInt32) : Setup UInt64 :=
  modifyGet (·.drawRegister width)

/-- What steps give in a context and what they leave of it. -/
def outcome {α : Type} (steps : Setup α) (ctx : Context) : Except ConfigError α × Context :=
  steps.run.run ctx

/-- The steps behind a failure are not taken. -/
lemma outcome_bind {α β : Type} (steps : Setup α) (next : α → Setup β) (ctx : Context) :
    (steps >>= next).outcome ctx = match steps.outcome ctx with
      | (.ok made, after) => (next made).outcome after
      | (.error cause, after) => (.error cause, after) := by
  unfold outcome
  rw [ExceptT.run_bind, StateT.run_bind]
  generalize steps.run.run ctx = first
  obtain ⟨result, after⟩ := first
  cases result <;> rfl

/-- The outcome of steps that change nothing before they fail. -/
def allOrNothing {α : Type} (ctx : Context) :
    Except ConfigError (α × Context) → Except ConfigError α × Context
  | .ok (made, after) => (.ok made, after)
  | .error cause => (.error cause, ctx)

variable {α : Type} {ctx after : Context} {result : Except ConfigError (α × Context)}

/-- Such steps fail with the old context. -/
lemma allOrNothing_eq_error_iff {cause : ConfigError} :
    allOrNothing ctx result = (.error cause, after) ↔ result = .error cause ∧ after = ctx := by
  cases result with
  | ok made => exact ⟨nofun, fun failed => nomatch failed.1⟩
  | error cause' =>
    rw [allOrNothing, Prod.mk.injEq, Except.error.injEq, Except.error.injEq]
    exact and_congr_right fun _ => eq_comm

/-- Such steps succeed as a whole. -/
lemma allOrNothing_eq_ok_iff {made : α} :
    allOrNothing ctx result = (.ok made, after) ↔ result = .ok (made, after) := by
  cases result with
  | ok made' => rw [allOrNothing, Prod.mk.injEq, Except.ok.injEq, Except.ok.injEq, Prod.ext_iff]
  | error cause => exact ⟨nofun, nofun⟩

end Setup

/-- The steps that build a counter. -/
def Counter.assemble (width : UInt32) (finishAfter : UInt64) : Setup Counter := do
  Setup.record [.declare edgePoint, .declare wrapPoint]
  let value ← Setup.draw width
  return { mask := widthMask width, value, finishAfter }

/-- The steps that find the operands that the arguments ask for. -/
def Doubler.chooseOperands : Setup (Array Binary64) := do
  match (← get).plusArg? vectorsStart with
  | none => return builtInOperands
  | some value =>
    match Decimal.readNat UInt64.size value with
    | none => throw (.malformedVectors value)
    | some n =>
      if maxVectors < n then throw (.tooManyVectors n maxVectors) else return cycledOperands n

/-- The steps that build a doubler over given operands. -/
def Doubler.assembleWith (operands : Array Binary64) : Setup Doubler := do
  Setup.record (Binary64.Class.all.map fun c => .declare c.point)
  let outOperand ← Setup.draw 64
  let outData ← Setup.draw 64
  return { operands, outOperand := ⟨outOperand⟩, outData := ⟨outData⟩ }

/-- The steps that build a doubler. -/
def Doubler.assemble : Setup Doubler := do
  Doubler.assembleWith (← chooseOperands)

/-- The steps that build the model that the settings name. -/
def Device.assemble (settings : ModelSettings) : Setup Device := do
  if settings.name = "counter" then
    return .inl (← Counter.assemble settings.counterWidth settings.counterCycles)
  else if settings.name = "doubler" then
    return .inr (← Doubler.assemble)
  else
    throw (.unknownModel settings.name names)

/-- A search for the operands changes nothing. -/
lemma Doubler.outcome_chooseOperands (ctx : Context) :
    chooseOperands.outcome ctx = (chosenOperands ctx, ctx) := by
  rw [chooseOperands, Setup.outcome_bind, chosenOperands]
  show Setup.outcome (match ctx.plusArg? vectorsStart with | none => _ | some value => _) ctx = _
  cases ctx.plusArg? vectorsStart with
  | none => rfl
  | some value =>
    dsimp only
    cases Decimal.readNat UInt64.size value with
    | none => rfl
    | some n =>
      dsimp only
      split <;> rfl

/-- A doubler is built from its steps, all or nothing. -/
lemma Doubler.outcome_assemble (ctx : Context) :
    assemble.outcome ctx = Setup.allOrNothing ctx (build ctx) := by
  rw [assemble, Setup.outcome_bind, outcome_chooseOperands, build]
  cases chosenOperands ctx with
  | ok operands => rfl
  | error cause => rfl

/-- A device is built from its steps, all or nothing. -/
lemma Device.outcome_assemble (settings : ModelSettings) (ctx : Context) :
    (assemble settings).outcome ctx = Setup.allOrNothing ctx (build settings ctx) := by
  unfold assemble build
  split
  · rfl
  split
  · rw [Setup.outcome_bind, Doubler.outcome_assemble]
    cases Doubler.build ctx with
    | ok made => rfl
    | error cause => rfl
  · rfl

/-! ### Changes -/

/-- The second database has what the first one has and the points in addition, of which those that
the first one does not have count nothing. -/
def Declares (points : List String) (before after : Database) : Prop :=
  ∀ name, after.count? name =
    if name ∈ points then some ((before.count? name).getD 0) else before.count? name

/-- What a model changes that declares points and draws some registers: the points are added if
coverage is collected, and the stream moves on by the draws if the policy is random. -/
structure Prepared (points : List String) (draws : ℕ) (before after : Context) : Prop where
  frame : after = { before with coverage := after.coverage, stream := after.stream }
  stream_eq : after.stream =
    if before.resetPolicy = .random then before.stream.advance draws else before.stream
  coverage : Option.Rel (Declares points) before.coverage after.coverage

/-- Declarations add the points that they name. -/
lemma declares_recordAll (points : List String) (db : Database) :
    Declares points db (db.recordAll (points.map .declare)) := by
  intro name
  have none : ∀ event ∈ ([] : List Event), event.point ∈ points := nofun
  have named := exists_declared_iff none name
  rw [List.append_nil] at named
  have kept : clamped ((db.count? name).getD 0).toNat = (db.count? name).getD 0 :=
    UInt64.toNat_inj.mp (toNat_clamped_of_lt (UInt64.toNat_lt _))
  rw [Database.count?_recordAll, total_declare, Nat.add_zero, kept]
  simp only [named]

/-- Declarations and draws change nothing else. -/
lemma prepared_skipDraws (points : List String) (draws : ℕ) (ctx : Context) :
    Prepared points draws ctx ((ctx.record (points.map .declare)).skipDraws draws) := by
  have coverage : Option.Rel (Declares points) ctx.coverage
      (ctx.record (points.map .declare)).coverage := by
    unfold Context.record
    cases ctx.coverage with
    | none => exact .none
    | some db => exact .some (declares_recordAll points db)
  have policy : (ctx.record (points.map .declare)).resetPolicy = ctx.resetPolicy := rfl
  refine ⟨?_, ?_, (Context.coverage_skipDraws _ _).symm ▸ coverage⟩
  · unfold Context.skipDraws
    split <;> rfl
  · unfold Context.skipDraws
    rw [policy]
    cases ctx.resetPolicy <;> rfl

/-- A counter declares two points and draws one register, whatever its width. -/
lemma Counter.prepared_build (ctx : Context) (width : UInt32) (cycles : UInt64) :
    Prepared points 1 ctx (build ctx width cycles).2 :=
  prepared_skipDraws points 1 ctx

/-- A doubler declares six points and draws two registers, whatever its operands. -/
lemma Doubler.prepared_withOperands (ctx : Context) (operands : Array Binary64) :
    Prepared points 2 ctx (withOperands ctx operands).2 := by
  have draws : (withOperands ctx operands).2 = (ctx.record (points.map .declare)).skipDraws 2 :=
    Context.skipDraws_skipDraws (ctx.record (points.map .declare)) 1 1
  rw [draws]
  exact prepared_skipDraws points 2 ctx

namespace Device

variable {settings : ModelSettings} {before after : Context} {device : Device}

/-- How building the model that the settings name can fail. -/
inductive Unbuildable (settings : ModelSettings) (args : List String) : ConfigError → Prop where
  /-- There is no model of that name. -/
  | unknown (notCounter : settings.name ≠ "counter") (notDoubler : settings.name ≠ "doubler") :
      Unbuildable settings args (.unknownModel settings.name ["counter", "doubler"])
  /-- The arguments ask for a number of operands that is refused. -/
  | vectors (named : settings.name = "doubler") {cause : ConfigError}
      (refused : Doubler.Refused args cause) : Unbuildable settings args cause

/-- What building the model that the settings name changes. -/
inductive Changes (settings : ModelSettings) (before after : Context) : Device → Prop where
  /-- A counter adds two points and takes one draw. -/
  | counter (named : settings.name = "counter") (prepared : Prepared Counter.points 1 before after)
      (counter : Counter) : Changes settings before after (.inl counter)
  /-- A doubler adds six points and takes two draws. -/
  | doubler (named : settings.name = "doubler") (prepared : Prepared Doubler.points 2 before after)
      (doubler : Doubler) : Changes settings before after (.inr doubler)

/-- A device is not built where this is listed. -/
lemma build_eq_error_iff {cause : ConfigError} :
    build settings before = .error cause ↔ Unbuildable settings before.args cause := by
  constructor
  · intro failed
    unfold build at failed
    split at failed
    · cases failed
    rename_i notCounter
    split at failed
    · rename_i named
      cases made : Doubler.build before with
      | ok made' =>
        rw [made] at failed
        cases failed
      | error cause' =>
        rw [made] at failed
        cases failed
        exact .vectors named (Doubler.build_eq_error_iff.mp made)
    · rename_i notDoubler
      cases failed
      exact .unknown notCounter notDoubler
  · intro unbuildable
    unfold build
    cases unbuildable with
    | unknown notCounter notDoubler =>
      rw [if_neg notCounter, if_neg notDoubler]
      rfl
    | vectors named refused =>
      have notCounter : settings.name ≠ "counter" := by
        rw [named]
        decide
      rw [if_neg notCounter, if_pos named, Doubler.build_eq_error_iff.mpr refused]
      rfl

/-- A device that is built has declared its points and drawn its registers. -/
lemma changes_of_build (built : build settings before = .ok (device, after)) :
    Changes settings before after device := by
  obtain ⟨named, made⟩ | ⟨named, operands, made⟩ := counter_or_doubler_of_build built
  · cases made
    exact .counter named
      (Counter.prepared_build before settings.counterWidth settings.counterCycles) _
  · cases made
    exact .doubler named (Doubler.prepared_withOperands before operands) _

/-- The steps that build a device fail exactly for an unknown model, and for a doubler whose
arguments ask for a number of operands that is refused, and then they leave the context as it was.
Otherwise they add the points of the device to the coverage that is collected, two for a counter and
six for a doubler, and take one draw or two, whatever was there before. -/
theorem build_effects (settings : ModelSettings) (before : Context) :
    (∀ cause after, (assemble settings).outcome before = (.error cause, after) ↔
      Unbuildable settings before.args cause ∧ after = before) ∧
    (∀ cause, build settings before = .error cause ↔ Unbuildable settings before.args cause) ∧
    (∀ device after, (assemble settings).outcome before = (.ok device, after) ↔
      build settings before = .ok (device, after)) ∧
    (∀ device after, build settings before = .ok (device, after) →
      Changes settings before after device) ∧
    (Counter.points.Nodup ∧ Counter.points.length = 2) ∧
    (Doubler.points.Nodup ∧ Doubler.points.length = 6) := by
  refine ⟨fun cause after => ?_, fun cause => build_eq_error_iff, fun device after => ?_,
    fun device after => changes_of_build, by decide, by decide⟩
  · rw [outcome_assemble, Setup.allOrNothing_eq_error_iff, build_eq_error_iff]
  · rw [outcome_assemble, Setup.allOrNothing_eq_ok_iff]

/-- A context under the random policy in which a counter has wrapped three times, besides a hit of
another point. -/
def usedContext : Context :=
  { Context.ofSettings {} [] { resetPolicy := .random } with
    coverage := some ((default : Database).recordAll [.add Counter.wrapPoint 3, .hit "p"]) }

/-- In that context no model of another name is built, and the context stays.  A counter without
bits takes one word of the stream, adds its other point and keeps the two that are there. -/
theorem build_effects_used :
    (assemble { name := "Counter" }).outcome usedContext =
      (.error (.unknownModel "Counter" ["counter", "doubler"]), usedContext) ∧
    ∃ device after, build { name := "counter", counterWidth := 0 } usedContext =
        .ok (device, after) ∧ after.stream.drawn = 1 ∧ ∃ db, after.coverage = some db ∧
      db.count? Counter.edgePoint = some 0 ∧ db.count? Counter.wrapPoint = some 3 ∧
      db.count? "p" = some 1 := by
  have unknown : Unbuildable { name := "Counter" } usedContext.args
      (.unknownModel "Counter" ["counter", "doubler"]) := .unknown (by decide) (by decide)
  obtain ⟨fails, -⟩ := build_effects { name := "Counter" } usedContext
  refine ⟨(fails _ _).mpr ⟨unknown, rfl⟩, ?_⟩
  obtain ⟨-, -, -, changes, -⟩ := build_effects { name := "counter", counterWidth := 0 } usedContext
  obtain ⟨device, after, built⟩ : ∃ device after,
      build { name := "counter", counterWidth := 0 } usedContext = .ok (device, after) :=
    ⟨_, _, rfl⟩
  refine ⟨device, after, built, ?_⟩
  cases changes device after built with
  | doubler named => exact absurd named (by decide)
  | counter named prepared counter =>
    refine ⟨congrArg Stream.drawn prepared.stream_eq, ?_⟩
    have added : Option.Rel (Declares Counter.points) (some
        ((default : Database).recordAll [.add Counter.wrapPoint 3, .hit "p"])) after.coverage :=
      prepared.coverage
    cases covered : after.coverage with
    | none =>
      rw [covered] at added
      cases added
    | some db =>
      rw [covered] at added
      cases added with
      | some declares =>
        exact ⟨db, rfl, (declares _).trans (by decide), (declares _).trans (by decide),
          (declares _).trans (by decide)⟩

end Device

end CycleSim
