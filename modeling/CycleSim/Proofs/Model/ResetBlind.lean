import CycleSim.Proofs.Context.Settled
import CycleSim.Proofs.Coverage.Counts
import CycleSim.Proofs.Loop.Coupling
import CycleSim.Proofs.Model.EdgeTriggered
import CycleSim.Model.Counter
import CycleSim.Model.Doubler

/-!
# Reset values and control

Registers without a reset start with whatever the context gives them.  Two models that differ in
such registers are `ResetBlind` if every evaluation treats them alike: it succeeds on both or fails
on both in the same way, brings events that leave the same of the databases, and leaves models that
differ no more than before.  Then the loops over them are coupled.

The output registers of the doubler are looked at only while they are valid, which is after they
were loaded, so nothing depends on their reset values.  The register of the counter tells when it
wraps, and so the two counters may hit that one point at different edges, but nothing else.
-/

namespace CycleSim

/-! ### Databases that agree but for one point -/

namespace Coverage.Database

variable {one other : Database} {point : String}

/-- Two databases that both have a point and otherwise have the same points with the same
counts. -/
structure SameBut (point : String) (one other : Database) : Prop where
  one_declared : (one.count? point).isSome = true
  other_declared : (other.count? point).isSome = true
  count?_eq : ∀ name ≠ point, one.count? name = other.count? name

lemma SameBut.symm (same : SameBut point one other) : SameBut point other one :=
  ⟨same.other_declared, same.one_declared, fun name ne => (same.count?_eq name ne).symm⟩

/-- The two databases have as many points. -/
lemma SameBut.size_eq (same : SameBut point one other) : one.size = other.size := by
  refine size_eq_of_isSome fun name => ?_
  by_cases here : name = point
  · rw [here, same.one_declared, same.other_declared]
  · rw [same.count?_eq name here]

/-- An event keeps the points that are there. -/
lemma isSome_count?_record {db : Database} {name : String}
    (declared : (db.count? name).isSome = true) (event : Event) :
    ((db.record event).count? name).isSome = true := by
  rw [count?_record]
  split
  · rfl
  · exact declared

/-- The same event may happen on both sides. -/
lemma SameBut.record (same : SameBut point one other) (event : Event) :
    SameBut point (one.record event) (other.record event) where
  one_declared := isSome_count?_record same.one_declared event
  other_declared := isSome_count?_record same.other_declared event
  count?_eq name ne := by
    rw [count?_record, count?_record]
    split
    · rename_i here
      rw [same.count?_eq name ne]
    · exact same.count?_eq name ne

/-- An event on the excepted point may happen on one side alone. -/
lemma SameBut.record_left (same : SameBut point one other) {event : Event}
    (excepted : event.point = point) : SameBut point (one.record event) other where
  one_declared := isSome_count?_record same.one_declared event
  other_declared := same.other_declared
  count?_eq name ne := by
    rw [count?_record, excepted, if_neg ne]
    exact same.count?_eq name ne

end Coverage.Database

/-! ### Contexts that are alike -/

namespace Context

variable {Same Same' : Coverage.Database → Coverage.Database → Prop} {one other : Context}

/-- Two contexts that agree on all that a loop reads, where the databases need only be `Same`.
They may differ in the reset policy and the stream. -/
structure Alike (Same : Coverage.Database → Coverage.Database → Prop) (one other : Context) :
    Prop where
  timeUnit_eq : one.timeUnit = other.timeUnit
  time_eq : one.time = other.time
  stopRequested_eq : one.stopRequested = other.stopRequested
  coverage : Option.Rel Same one.coverage other.coverage

/-- Two contexts that differ at most in the reset policy and the stream, and in what no run reads:
the debug level and the arguments. -/
structure SameButReset (one other : Context) : Prop where
  timeUnit_eq : one.timeUnit = other.timeUnit
  coverage_eq : one.coverage = other.coverage
  time_eq : one.time = other.time
  stopRequested_eq : one.stopRequested = other.stopRequested

/-- Such contexts are alike, with the same databases. -/
lemma SameButReset.alike (same : SameButReset one other) : Alike Eq one other where
  timeUnit_eq := same.timeUnit_eq
  time_eq := same.time_eq
  stopRequested_eq := same.stopRequested_eq
  coverage := by
    rw [same.coverage_eq]
    cases other.coverage with
    | some db => exact .some rfl
    | none => exact .none

/-- Two new contexts with the same time base, which both collect coverage or do not, are the same
but for the reset policy and the stream. -/
lemma sameButReset_of_build {general general' : GeneralSettings} {coverage : CoverageSettings}
    {args args' : List String} (built : build general coverage args = .ok one)
    (built' : build general' coverage args' = .ok other)
    (timeUnit : general.timeUnit = general'.timeUnit) : SameButReset one other := by
  have settled := settled_of_build built
  have settled' := settled_of_build built'
  exact
    { timeUnit_eq := by rw [settled.timeUnit_eq, settled'.timeUnit_eq, timeUnit]
      coverage_eq := settled.coverage_eq.trans settled'.coverage_eq.symm
      time_eq := settled.time_eq.trans settled'.time_eq.symm
      stopRequested_eq := settled.clear.trans settled'.clear.symm }

/-- Draws do not change the unit of time. -/
lemma timeUnit_skipDraws (ctx : Context) (n : ℕ) : (ctx.skipDraws n).timeUnit = ctx.timeUnit := by
  unfold Context.skipDraws
  split <;> rfl

/-- Contexts stay alike under draws. -/
lemma Alike.skipDraws (alike : Alike Same one other) (n m : ℕ) :
    Alike Same (one.skipDraws n) (other.skipDraws m) where
  timeUnit_eq := by
    rw [timeUnit_skipDraws, timeUnit_skipDraws, alike.timeUnit_eq]
  time_eq := by
    rw [time_skipDraws, time_skipDraws, alike.time_eq]
  stopRequested_eq := by
    rw [stopRequested_skipDraws, stopRequested_skipDraws, alike.stopRequested_eq]
  coverage := by
    rw [coverage_skipDraws, coverage_skipDraws]
    exact alike.coverage

/-- Contexts are as much alike after events as these leave of the databases. -/
lemma Alike.record (alike : Alike Same one other) {events events' : List Coverage.Event}
    (keeps : ∀ {db db'}, Same db db' → Same' (db.recordAll events) (db'.recordAll events')) :
    Alike Same' (one.record events) (other.record events') where
  timeUnit_eq := alike.timeUnit_eq
  time_eq := alike.time_eq
  stopRequested_eq := alike.stopRequested_eq
  coverage := by
    have coverage := alike.coverage
    unfold Context.record
    generalize one.coverage = first at coverage ⊢
    generalize other.coverage = second at coverage ⊢
    cases coverage with
    | some same => exact .some (keeps same)
    | none => exact .none

/-- What is the same of the databases is the same of the coverage that the contexts collect. -/
lemma Alike.map_coverage_eq (alike : Alike Same one other) {β : Type} {f : Coverage.Database → β}
    (same : ∀ {db db'}, Same db db' → f db = f db') :
    one.coverage.map f = other.coverage.map f := by
  have coverage := alike.coverage
  generalize one.coverage = first at coverage ⊢
  generalize other.coverage = second at coverage ⊢
  cases coverage with
  | some related => exact congrArg some (same related)
  | none => rfl

/-- Contexts that are alike both collect coverage, or none. -/
lemma Alike.isSome_eq (alike : Alike Same one other) :
    one.coverage.isSome = other.coverage.isSome := by
  have coverage := alike.coverage
  generalize one.coverage = first at coverage ⊢
  generalize other.coverage = second at coverage ⊢
  cases coverage <;> rfl

end Context

/-! ### Models that are alike -/

/-- Models related by `Twin` are the same to a loop, as far as `Same` shows of the databases: every
evaluation has the same result on both and keeps the relation. -/
structure ResetBlind {σ : Type} [DeviceModel σ]
    (Same : Coverage.Database → Coverage.Database → Prop) (Twin : σ → σ → Prop) : Prop where
  name_eq : ∀ {one other}, Twin one other → DeviceModel.name one = DeviceModel.name other
  finished_eq : ∀ {one other}, Twin one other →
    DeviceModel.finished one = DeviceModel.finished other
  setClock : ∀ {one other} level, Twin one other →
    Twin (DeviceModel.setClock level one) (DeviceModel.setClock level other)
  finalize : ∀ {one other}, Twin one other →
    (DeviceModel.finalize one).1 = (DeviceModel.finalize other).1 ∧
      Twin (DeviceModel.finalize one).2 (DeviceModel.finalize other).2
  evaluate : ∀ {ctx ctx' one other}, ctx.time = ctx'.time → Twin one other →
    (DeviceModel.evaluate ctx one).result = (DeviceModel.evaluate ctx' other).result ∧
      Twin (DeviceModel.evaluate ctx one).model (DeviceModel.evaluate ctx' other).model ∧
      ∀ {db db'}, Same db db' → Same (db.recordAll (DeviceModel.evaluate ctx one).events)
        (db'.recordAll (DeviceModel.evaluate ctx' other).events)

/-- Contexts that are alike with models related by `Twin`. -/
def Paired {σ : Type} (Same : Coverage.Database → Coverage.Database → Prop) (Twin : σ → σ → Prop)
    (ctx : Context) (one : σ) (ctx' : Context) (other : σ) : Prop :=
  ctx.Alike Same ctx' ∧ Twin one other

/-- Such models are coupled in contexts that are alike. -/
lemma ResetBlind.coupling {σ : Type} [DeviceModel σ]
    {Same : Coverage.Database → Coverage.Database → Prop} {Twin : σ → σ → Prop}
    (blind : ResetBlind Same Twin) (files : FileTree) :
    Coupling (Paired Same Twin) files (fun _ => True) where
  name_eq like := blind.name_eq like.2
  finished_eq like := blind.finished_eq like.2
  timeUnit_eq like := like.1.timeUnit_eq
  time_eq like := like.1.time_eq
  stopRequested_eq like := like.1.stopRequested_eq
  advanceTime like := ⟨{ like.1 with time_eq := congrArg (· + 1) like.1.time_eq }, like.2⟩
  latch finished like :=
    ⟨{ like.1 with stopRequested_eq := congrArg (· || finished) like.1.stopRequested_eq }, like.2⟩
  setClock level like := ⟨like.1, blind.setClock level like.2⟩
  evaluate like := by
    obtain ⟨alike, twin⟩ := like
    obtain ⟨result, twin, keeps⟩ := blind.evaluate alike.time_eq twin
    exact ⟨result, (alike.record keeps).skipDraws _ _, twin⟩
  finalize like := by
    obtain ⟨result, twin⟩ := blind.finalize like.2
    exact ⟨result, like.1, twin⟩
  covers like _ := .inl like.1.isSome_eq

/-! ### The doubler -/

namespace Doubler

/-- Two doublers that differ at most in output registers that are not valid. -/
inductive Twin (one : Doubler) : Doubler → Prop where
  | same : Twin one one
  | invalid (invalid : one.outValid = false) (operand data : Binary64) :
      Twin one { one with outOperand := operand, outData := data }

variable {one other : Doubler}

/-- Loading the next operand overwrites the registers, or leaves them invalid. -/
lemma Twin.load (twin : Twin one other) : Twin one.load other.load := by
  cases twin with
  | same => exact .same
  | invalid _ operand data =>
    unfold Doubler.load
    dsimp only
    cases one.operands[one.next]? with
    | some operand => exact .same
    | none => exact .invalid rfl operand data

/-- Without an edge an evaluation only notes the clock and the time. -/
lemma evaluate_of_level {doubler : Doubler}
    (level : doubler.previousClock.rises doubler.clock = false) (time : UInt64) :
    doubler.evaluate time =
      { model := { doubler with previousClock := doubler.clock, lastTime := time } } := by
  simp [Doubler.evaluate, level]

/-- At an edge with invalid output registers an evaluation loads and does not check. -/
lemma evaluate_of_invalid {doubler : Doubler}
    (rises : doubler.previousClock.rises doubler.clock = true)
    (invalid : doubler.outValid = false) (time : UInt64) :
    doubler.evaluate time =
      { model := { doubler with previousClock := doubler.clock, lastTime := time }.load } := by
  simp [Doubler.evaluate, rises, invalid]

/-- Evaluations do not look at output registers that are not valid. -/
lemma Twin.evaluate (twin : Twin one other) (time : UInt64) :
    (one.evaluate time).result = (other.evaluate time).result ∧
      Twin (one.evaluate time).model (other.evaluate time).model ∧
      (one.evaluate time).events = (other.evaluate time).events := by
  cases twin with
  | same => exact ⟨rfl, .same, rfl⟩
  | invalid invalid operand data =>
    let other : Doubler := { one with outOperand := operand, outData := data }
    have sampled : Twin { one with previousClock := one.clock, lastTime := time }
        { other with previousClock := one.clock, lastTime := time } := by
      apply Twin.invalid
      exact invalid
    cases rises : one.previousClock.rises one.clock with
    | false =>
      have rises' : other.previousClock.rises other.clock = false := rises
      rw [evaluate_of_level rises, evaluate_of_level rises']
      exact ⟨rfl, sampled, rfl⟩
    | true =>
      have rises' : other.previousClock.rises other.clock = true := rises
      have invalid' : other.outValid = false := invalid
      rw [evaluate_of_invalid rises invalid, evaluate_of_invalid rises' invalid']
      exact ⟨rfl, sampled.load, rfl⟩

/-- Nothing that a loop sees of a doubler depends on output registers that are not valid. -/
lemma resetBlind : ResetBlind Eq Twin where
  name_eq _ := rfl
  finished_eq twin := by cases twin <;> rfl
  setClock level twin := by
    cases twin with
    | same => exact .same
    | invalid invalid operand data =>
      apply Twin.invalid
      exact invalid
  finalize twin := ⟨by cases twin <;> rfl, twin⟩
  evaluate := by
    intro ctx ctx' one other time twin
    obtain ⟨result, model, events⟩ := twin.evaluate ctx.time
    show _ = (other.evaluate ctx'.time).result ∧ Twin _ (other.evaluate ctx'.time).model ∧
      ∀ {db db'}, _ → _ = Coverage.Database.recordAll db' (other.evaluate ctx'.time).events
    rw [← time]
    refine ⟨result, model, ?_⟩
    rintro db _ rfl
    exact congrArg db.recordAll events

/-- Doublers that are built over the same operands differ only in output registers that are not
valid. -/
lemma twin_withOperands (ctx ctx' : Context) (operands : Array Binary64) :
    Twin (withOperands ctx operands).1 (withOperands ctx' operands).1 := by
  apply Twin.invalid
  rfl

end Doubler

/-! ### The counter -/

namespace Counter

open Coverage.Database

/-- Two counters that differ at most in their registers. -/
inductive Twin (one : Counter) : Counter → Prop where
  | mk (value : UInt64) : Twin one { one with value }

/-- An edge may wrap one register and not the other. -/
lemma sameBut_recordAll {one other : Coverage.Database} (same : SameBut wrapPoint one other)
    (value value' : UInt64) :
    SameBut wrapPoint
      (one.recordAll (.hit edgePoint :: if value = 0 then [.hit wrapPoint] else []))
      (other.recordAll (.hit edgePoint :: if value' = 0 then [.hit wrapPoint] else [])) := by
  have counted := same.record (.hit edgePoint)
  rw [recordAll_cons, recordAll_cons]
  split <;> split
  · exact counted.record _
  · exact counted.record_left rfl
  · exact (counted.symm.record_left rfl).symm
  · exact counted

/-- Of the register of a counter a loop sees only when it wraps. -/
lemma resetBlind : ResetBlind (SameBut wrapPoint) Twin where
  name_eq _ := rfl
  finished_eq twin := by
    cases twin
    rfl
  setClock level twin := by
    cases twin
    apply Twin.mk
  finalize twin := ⟨rfl, twin⟩
  evaluate := by
    rintro ctx ctx' one _ - ⟨value⟩
    let other : Counter := { one with value }
    show one.evaluate.result = other.evaluate.result ∧
      Twin one.evaluate.model other.evaluate.model ∧ ∀ {db db'}, _ →
        SameBut wrapPoint (recordAll db one.evaluate.events)
          (recordAll db' other.evaluate.events)
    have finished : other.finished = one.finished := rfl
    unfold Counter.evaluate
    rw [finished]
    cases counts : one.previousClock.rises one.clock && !one.finished with
    | false => exact ⟨rfl, .mk value, id⟩
    | true => exact ⟨rfl, .mk _, fun same => sameBut_recordAll same _ _⟩

/-- Counters of the same width and as many cycles differ only in their registers. -/
lemma twin_build (ctx ctx' : Context) (width : UInt32) (cycles : UInt64) :
    Twin (build ctx width cycles).1 (build ctx' width cycles).1 := by
  apply Twin.mk

/-- They leave databases that agree but for the wraps. -/
lemma alike_build {ctx ctx' : Context} (same : ctx.SameButReset ctx') (width : UInt32)
    (cycles : UInt64) :
    (build ctx width cycles).2.Alike (SameBut wrapPoint) (build ctx' width cycles).2 := by
  refine (same.alike.record ?_).skipDraws 1 1
  rintro db _ rfl
  have declared :
      ((db.recordAll [.declare edgePoint, .declare wrapPoint]).count? wrapPoint).isSome = true := by
    rw [recordAll_cons, recordAll_cons, recordAll_nil, count?_record]
    exact congrArg Option.isSome (if_pos rfl)
  exact ⟨declared, declared, fun _ _ => rfl⟩

end Counter

/-! ### Runs -/

/-- The statistics without the entry on covered points. -/
def RunStats.withoutCovered (stats : RunStats) : RunStats :=
  { stats with coverageCovered := 0 }

namespace Bench

/-- Loops over models that are alike run side by side from their start. -/
lemma session_of_resetBlind {σ : Type} [DeviceModel σ]
    {Same : Coverage.Database → Coverage.Database → Prop} {Twin : σ → σ → Prop}
    (blind : ResetBlind Same Twin) (build : Build) (host : Host) {built built' : σ × Context}
    (alike : built.2.Alike Same built'.2) (twin : Twin built.1 built'.1)
    (view : RunStats → RunStats)
    (stats : ∀ {one other}, Coupled (Paired Same Twin) host.files (fun _ => True) one other →
      view one.loop.stats = view other.loop.stats)
    {calls : List (Call × Answer)} {last : Bench σ}
    (session : Session (startBuilt build built host) calls last) :
    ∃ calls' last', Session (startBuilt build built' host) calls' last' ∧
      SeenAlike view calls calls' ∧
      Coupled (Paired Same Twin) host.files (fun _ => True) last last' := by
  have coupling := blind.coupling host.files
  have files : host.files = host.files := rfl
  have coupled : Coupled (Paired Same Twin) host.files (fun _ => True)
      (startBuilt build built host) (startBuilt build built' host) :=
    Coupled.start coupling ⟨alike, twin⟩ build files files trivial none
  exact (coupling.alongside stats).session coupled session fun _ _ _ => trivial

/-- Two loops over doublers agree on what a run shows: the time, the statistics, the checked
results, the finished indicator, the database and the files. -/
structure DoublersAgree (one other : Bench Doubler) : Prop where
  time_eq : one.loop.context.time = other.loop.context.time
  stats_eq : one.loop.stats = other.loop.stats
  checked_eq : one.loop.model.checked = other.loop.model.checked
  finished_eq : one.loop.model.finished = other.loop.model.finished
  coverage_eq : one.loop.context.coverage = other.loop.context.coverage
  files_eq : one.host.files = other.host.files

/-- Two loops over counters agree on what a run shows but for the wraps: the time, the statistics
without the number of covered points, the counted cycles, the finished indicator and the edges in
the database. -/
structure CountersAgree (one other : Bench Counter) : Prop where
  time_eq : one.loop.context.time = other.loop.context.time
  stats_eq : one.loop.stats.withoutCovered = other.loop.stats.withoutCovered
  cycles_eq : one.loop.model.cycles = other.loop.model.cycles
  finished_eq : one.loop.model.finished = other.loop.model.finished
  edges_eq : one.loop.context.coverage.map (·.count? Counter.edgePoint) =
    other.loop.context.coverage.map (·.count? Counter.edgePoint)

/-- The statistics of loops over models that are alike, as far as the databases are the same. -/
lemma Coupled.withoutCovered_eq {σ τ : Type} {Like : Context → σ → Context → τ → Prop}
    {files : FileTree} {Usable : String → Prop} {one : Bench σ} {other : Bench τ}
    (coupled : Coupled Like files Usable one other)
    (sizes : one.loop.context.coverage.map (·.size) = other.loop.context.coverage.map (·.size)) :
    one.loop.stats.withoutCovered = other.loop.stats.withoutCovered := by
  show { one.loop.stats.withoutCoverage with coveragePoints := one.loop.stats.coveragePoints } =
    { other.loop.stats.withoutCoverage with coveragePoints := other.loop.stats.coveragePoints }
  rw [coupled.stats_eq, coupled.tellsAlike.coveragePoints_eq sizes]

/-- Coupled doublers agree. -/
lemma Coupled.doublersAgree {files : FileTree} {Usable : String → Prop} {one other : Bench Doubler}
    (coupled : Coupled (Paired Eq Doubler.Twin) files Usable one other) :
    DoublersAgree one other := by
  obtain ⟨alike, twin⟩ := coupled.like
  have databases : one.loop.context.coverage = other.loop.context.coverage := by
    have same := alike.map_coverage_eq (f := id) id
    rwa [Option.map_id_apply, Option.map_id_apply] at same
  have sizes := congrArg (Option.map Coverage.Database.size) databases
  have covered := congrArg (Option.map Coverage.Database.covered) databases
  refine ⟨alike.time_eq, ?_, ?_, Doubler.resetBlind.finished_eq twin, databases,
    coupled.tellsAlike.files_eq databases⟩
  · show { one.loop.stats.withoutCovered with
        coverageCovered := one.loop.stats.coverageCovered } =
      { other.loop.stats.withoutCovered with
        coverageCovered := other.loop.stats.coverageCovered }
    rw [coupled.withoutCovered_eq sizes, coupled.tellsAlike.coverageCovered_eq covered]
  · generalize one.loop.model = first at twin ⊢
    generalize other.loop.model = second at twin ⊢
    cases twin <;> rfl

/-- Coupled counters agree. -/
lemma Coupled.countersAgree {files : FileTree} {Usable : String → Prop} {one other : Bench Counter}
    (coupled : Coupled (Paired (Coverage.Database.SameBut Counter.wrapPoint) Counter.Twin) files
      Usable one other) : CountersAgree one other := by
  obtain ⟨alike, twin⟩ := coupled.like
  have edges : Counter.edgePoint ≠ Counter.wrapPoint := by decide
  refine ⟨alike.time_eq, coupled.withoutCovered_eq (alike.map_coverage_eq fun same => same.size_eq),
    ?_, Counter.resetBlind.finished_eq twin,
    alike.map_coverage_eq fun same => same.count?_eq _ edges⟩
  generalize one.loop.model = first at twin ⊢
  generalize other.loop.model = second at twin ⊢
  cases twin
  rfl

/-- A new context that draws the first values of registers. -/
def drawing : Context :=
  { Context.plain with resetPolicy := .random, stream := { seed := 7 }, coverage := some default }

end Bench

end CycleSim
