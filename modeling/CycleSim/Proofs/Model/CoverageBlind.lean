import CycleSim.Proofs.Loop.Coupling
import CycleSim.Proofs.Model.EdgeTriggered
import CycleSim.Model.Device

/-!
# Coverage and the rest of a run

What coverage a context collects is nothing to a model that does not look at it (`CoverageBlind`),
neither when it is built nor when it is evaluated.  So a run with coverage and the same run without
are coupled: they answer the same calls the same, but for the two entries of the statistics on
coverage, and leave the same clock, model, statistics and context, but for the database
(`Undisturbed`).  The coverage file has to be writable for that: where it is not, the shutdown with
coverage fails and the other does not.
-/

namespace CycleSim

namespace Context

/-- The context without its coverage. -/
def uncovered (ctx : Context) : Context :=
  { ctx with coverage := none }

/-- Draws do not look at coverage. -/
lemma uncovered_skipDraws (ctx : Context) (n : ℕ) :
    ctx.uncovered.skipDraws n = (ctx.skipDraws n).uncovered := by
  rcases ctx with ⟨_, policy, _, _, _, _, _, _⟩
  cases policy <;> rfl

/-- Events get lost in a context without coverage. -/
lemma uncovered_record (ctx : Context) (events : List Coverage.Event) :
    ctx.uncovered.record events = (ctx.record events).uncovered := rfl

/-- Register values do not depend on coverage. -/
lemma uncovered_drawRegister (ctx : Context) (width : UInt32) :
    ctx.uncovered.drawRegister width = (ctx.drawRegister width).map id uncovered := by
  rw [drawRegister, uncovered_skipDraws]
  rfl

/-- An evaluation leaves no more of itself in a context without coverage than its draws. -/
lemma uncovered_absorb {σ : Type} (ctx : Context) (evaluation : Evaluation σ) :
    ctx.uncovered.absorb evaluation = (ctx.absorb evaluation).uncovered := by
  rw [absorb, absorb, uncovered_record, uncovered_skipDraws]

/-- Contexts are built the same with and without coverage. -/
lemma build_uncovered (general : GeneralSettings) (args : List String) :
    build general { enabled := false } args =
      (build general { enabled := true } args).map uncovered := by
  unfold build
  cases general.overrideAll args <;> rfl

end Context

/-- Evaluations do not look at the coverage that the context collects. -/
def CoverageBlind (σ : Type) [DeviceModel σ] : Prop :=
  ∀ (ctx : Context) (model : σ),
    DeviceModel.evaluate ctx.uncovered model = DeviceModel.evaluate ctx model

namespace Counter

lemma coverageBlind : CoverageBlind Counter := fun _ _ => rfl

/-- Building a counter does not look at coverage. -/
lemma build_uncovered (ctx : Context) (width : UInt32) (cycles : UInt64) :
    build ctx.uncovered width cycles = (build ctx width cycles).map id Context.uncovered := by
  unfold build
  rw [Context.uncovered_record, Context.uncovered_drawRegister]
  rfl

end Counter

namespace Doubler

lemma coverageBlind : CoverageBlind Doubler := fun _ _ => rfl

/-- Building a doubler does not look at coverage. -/
lemma withOperands_uncovered (ctx : Context) (operands : Array Binary64) :
    withOperands ctx.uncovered operands =
      (withOperands ctx operands).map id Context.uncovered := by
  simp only [withOperands, Context.uncovered_record, Context.uncovered_drawRegister, Prod.map]
  rfl

/-- Nor does the choice of its operands. -/
lemma build_uncovered (ctx : Context) :
    build ctx.uncovered = (build ctx).map (Prod.map id Context.uncovered) := by
  have chosen : chosenOperands ctx.uncovered = chosenOperands ctx := rfl
  rw [build, build, chosen]
  cases chosenOperands ctx with
  | error cause => rfl
  | ok operands => exact congrArg Except.ok (withOperands_uncovered ctx operands)

end Doubler

namespace Bench

variable {σ : Type} [DeviceModel σ]

/-- The two loops are the same but for the coverage, which the second does not collect. -/
structure SameButCoverage (covered uncovered : Bench σ) : Prop where
  context_eq : uncovered.loop.context = covered.loop.context.uncovered
  model_eq : uncovered.loop.model = covered.loop.model
  clock_eq : uncovered.loop.clock = covered.loop.clock
  state_eq : uncovered.loop.state = covered.loop.state
  stats_eq : uncovered.loop.stats.withoutCoverage = covered.loop.stats.withoutCoverage

/-- Each of the two loops can be called as the other, as long as coverage is to go to a writable
path: the answers are the same but for the entries on coverage, and so are the loops behind them. -/
structure Undisturbed (covered uncovered : Bench σ) : Prop where
  without : ∀ {calls last}, Session covered calls last →
    (∀ path answer, (.withCoveragePath path, answer) ∈ calls →
      ∃ place, covered.host.files.writablePlace path = .ok place) →
    ∃ calls' last', Session uncovered calls' last' ∧
      SeenAlike RunStats.withoutCoverage calls calls' ∧ SameButCoverage last last'
  withCoverage : ∀ {calls' last'}, Session uncovered calls' last' →
    (∀ path answer, (.withCoveragePath path, answer) ∈ calls' →
      ∃ place, covered.host.files.writablePlace path = .ok place) →
    ∃ calls last, Session covered calls last ∧
      SeenAlike RunStats.withoutCoverage calls' calls ∧ SameButCoverage last last'

/-- The same model in a context and in the context without its coverage. -/
def WithoutCoverage (ctx : Context) (model : σ) (ctx' : Context) (model' : σ) : Prop :=
  ctx' = ctx.uncovered ∧ model' = model

/-- Models that do not look at coverage are coupled with and without it. -/
lemma coupling_coverage (blind : CoverageBlind σ) (files : FileTree) :
    Coupling (WithoutCoverage (σ := σ)) files
      (fun path => ∃ place, files.writablePlace path = .ok place) where
  name_eq := by
    rintro ctx model _ _ ⟨rfl, rfl⟩
    rfl
  finished_eq := by
    rintro ctx model _ _ ⟨rfl, rfl⟩
    rfl
  timeUnit_eq := by
    rintro ctx model _ _ ⟨rfl, rfl⟩
    rfl
  time_eq := by
    rintro ctx model _ _ ⟨rfl, rfl⟩
    rfl
  stopRequested_eq := by
    rintro ctx model _ _ ⟨rfl, rfl⟩
    rfl
  advanceTime := by
    rintro ctx model _ _ ⟨rfl, rfl⟩
    exact ⟨rfl, rfl⟩
  latch := by
    rintro ctx model _ _ finished ⟨rfl, rfl⟩
    exact ⟨rfl, rfl⟩
  setClock := by
    rintro ctx model _ _ level ⟨rfl, rfl⟩
    exact ⟨rfl, rfl⟩
  evaluate := by
    rintro ctx model _ _ ⟨rfl, rfl⟩
    rw [blind]
    exact ⟨rfl, ctx.uncovered_absorb _, rfl⟩
  finalize := by
    rintro ctx model _ _ ⟨rfl, rfl⟩
    exact ⟨rfl, rfl, rfl⟩
  covers _ usable := .inr usable

omit [DeviceModel σ] in
/-- Loops that are coupled with and without coverage are the same but for it. -/
lemma Coupled.sameButCoverage {files : FileTree} {Usable : String → Prop}
    {covered uncovered : Bench σ}
    (coupled : Coupled WithoutCoverage files Usable covered uncovered) :
    SameButCoverage covered uncovered :=
  ⟨coupled.like.1, coupled.like.2, coupled.clock_eq.symm, coupled.state_eq.symm,
    coupled.stats_eq.symm⟩

/-- A model that does not look at coverage is not disturbed by it. -/
lemma undisturbed_of_blind (blind : CoverageBlind σ) (build : Build) (context : Context)
    (model : σ) {host : Host} {path : String} {place : Location}
    (writable : host.files.writablePlace path = .ok place) (limit : Option UInt64) :
    Undisturbed ((start build context model host).configured path limit)
      ((start build context.uncovered model host).configured path limit) := by
  have coupling := coupling_coverage blind host.files
  have like : WithoutCoverage context model context.uncovered model := ⟨rfl, rfl⟩
  have files : host.files = host.files := rfl
  have coupled := Coupled.start coupling like build files files ⟨place, writable⟩ limit
  have alongside := coupling.alongside Coupled.stats_eq
  constructor
  · intro calls last session usable
    obtain ⟨calls', last', session', alike, ended⟩ := alongside.session coupled session usable
    exact ⟨calls', last', session', alike, ended.sameButCoverage⟩
  · intro calls' last' session' usable
    obtain ⟨calls, last, session, alike, ended⟩ :=
      alongside.flip.session coupled session' usable
    exact ⟨calls, last, session, alike, ended.sameButCoverage⟩

/-- Collecting coverage does not disturb a run: with and without it the context is built the same
from the settings and the arguments, and so is every counter and every doubler, and whatever calls
are made on the loop over it are answered the same and leave the same behind, but for what they
tell of coverage, while the coverage file can be written. -/
theorem undisturbed_by_coverage (build : Build) (general : GeneralSettings) (args : List String)
    {host : Host} {path : String} {place : Location}
    (writable : host.files.writablePlace path = .ok place) (limit : Option UInt64) :
    Context.build general { enabled := false } args =
        (Context.build general { enabled := true } args).map Context.uncovered ∧
      ∀ context, Context.build general { enabled := true } args = .ok context →
        (∀ width cycles, Undisturbed
          ((startBuilt build (Counter.build context width cycles) host).configured path limit)
          ((startBuilt build (Counter.build context.uncovered width cycles) host).configured path
            limit)) ∧
        (∀ operands, Undisturbed
          ((startBuilt build (Doubler.withOperands context operands) host).configured path limit)
          ((startBuilt build (Doubler.withOperands context.uncovered operands) host).configured
            path limit)) ∧
        Doubler.build context.uncovered =
          (Doubler.build context).map (Prod.map id Context.uncovered) := by
  refine ⟨Context.build_uncovered general args, fun context _ => ⟨?_, ?_, ?_⟩⟩
  · intro width cycles
    rw [Counter.build_uncovered]
    exact undisturbed_of_blind Counter.coverageBlind build _ _ writable limit
  · intro operands
    rw [Doubler.withOperands_uncovered]
    exact undisturbed_of_blind Doubler.coverageBlind build _ _ writable limit
  · exact Doubler.build_uncovered context

/-- The counter of two bits and three cycles is not disturbed, nor is a doubler of one operand. -/
theorem undisturbed_by_coverage_first :
    Undisturbed
        ((startBuilt {} (Counter.build { Context.plain with coverage := some default } 2 3)
          {}).configured "cover" none)
        ((startBuilt {} (Counter.build Context.plain 2 3) {}).configured "cover" none) ∧
      Undisturbed
        ((startBuilt {} (Doubler.withOperands { Context.plain with coverage := some default }
          #[⟨0x3ff0000000000000⟩]) {}).configured "cover" none)
        ((startBuilt {} (Doubler.withOperands Context.plain #[⟨0x3ff0000000000000⟩])
          {}).configured "cover" none) := by
  have writable : ({} : Host).files.writablePlace "cover" = .ok ["cover"] := by decide +kernel
  have built : Context.build { resetPolicy := .zeros } { enabled := true } [] =
      .ok { Context.plain with coverage := some default } := rfl
  obtain ⟨-, undisturbed⟩ :=
    undisturbed_by_coverage {} { resetPolicy := .zeros } [] writable none
  obtain ⟨counters, doublers, -⟩ := undisturbed _ built
  exact ⟨counters 2 3, doublers #[⟨0x3ff0000000000000⟩]⟩

end Bench

end CycleSim
