import CycleSim.Proofs.Loop.Step

/-!
# Sessions

A session is a finite sequence of calls on a loop, each with its answer: single steps, whole runs,
and settings of the tick limit and of the coverage path.  Calls may follow a failure or the end of
the run.  A run that never returns answers nothing, so it is part of no session.

A run is its opening in the log followed by steps, so what one step keeps and the settings do not
touch holds at the end of every session (`Session.preserves`).  The calls determine the answers and
the outcome (`Session.unique`).
-/

namespace CycleSim

/-- A call on a loop. -/
inductive Call where
  | step
  | run
  | withMaxTicks (limit : Option UInt64)
  | withCoveragePath (path : String)
  deriving DecidableEq, Repr

/-- What a call answers. -/
inductive Answer where
  | stepped (result : Except SimError LoopState)
  | ran (result : Except SimError RunStats)
  | configured

/-- A context that collects no coverage and starts registers at 0; sessions on given inputs begin
with it. -/
def Context.plain : Context where
  debugLevel := 0
  resetPolicy := .zeros
  stream := { seed := 0 }
  timeUnit := .nanosecond
  coverage := none
  args := []

namespace Bench

variable {σ : Type} [DeviceModel σ]

/-- A new loop with its host and its medium. -/
def start (build : Build) (context : Context) (model : σ) (host : Host) (medium : Medium := {}) :
    Bench σ where
  loop := Loop.new build context model
  host
  medium

/-- A new loop over a model that was just built, in the context that building it has left. -/
def startBuilt (build : Build) (built : σ × Context) (host : Host) : Bench σ :=
  start build built.2 built.1 host

/-- The loop and the host once a run is opened in the log. -/
def opened (bench : Bench σ) : Bench σ :=
  { bench with host := bench.host.report (.runStarted (DeviceModel.name bench.loop.model)) }

/-- A call on `bench` and its answer lead to the last argument. -/
inductive Makes (bench : Bench σ) : Call → Answer → Bench σ → Prop where
  | step : Makes bench .step (.stepped bench.step.1) bench.step.2
  | run {bound : Nat} {result : Except SimError RunStats} {after : Bench σ}
      (returned : bench.runWithin bound = some (result, after)) :
      Makes bench .run (.ran result) after
  | withMaxTicks (limit : Option UInt64) :
      Makes bench (.withMaxTicks limit) .configured
        { bench with loop := bench.loop.withMaxTicks limit }
  | withCoveragePath (path : String) :
      Makes bench (.withCoveragePath path) .configured
        { bench with loop := bench.loop.withCoveragePath path }

/-- Calls with their answers that lead from one bench to another. -/
inductive Session : Bench σ → List (Call × Answer) → Bench σ → Prop where
  | nil (bench : Bench σ) : Session bench [] bench
  | cons {bench next after : Bench σ} {call : Call} {answer : Answer}
      {calls : List (Call × Answer)} (made : Makes bench call answer next)
      (rest : Session next calls after) : Session bench ((call, answer) :: calls) after

/-- A session of calls and later calls has a place between the two. -/
lemma Session.exists_of_append {bench after : Bench σ} {calls later : List (Call × Answer)}
    (session : Session bench (calls ++ later) after) :
    ∃ next, Session bench calls next ∧ Session next later after := by
  induction calls generalizing bench with
  | nil => exact ⟨bench, .nil bench, session⟩
  | cons entry calls ih =>
    cases session with
    | cons made rest =>
      obtain ⟨next, before, behind⟩ := ih rest
      exact ⟨next, .cons made before, behind⟩

/-- A session of one call makes that call. -/
lemma Session.makes {bench after : Bench σ} {call : Call} {answer : Answer}
    (session : Session bench [(call, answer)] after) : Makes bench call answer after := by
  cases session with
  | cons made rest =>
    cases rest
    exact made

/-! ### Runs as steps -/

/-- A run opens in the log and then steps. -/
lemma runWithin_eq (bound : Nat) (bench : Bench σ) :
    bench.runWithin bound = bench.opened.stepsWithin bound := rfl

/-- A failed step ends a run with its failure. -/
lemma stepsWithin_of_error {bench after : Bench σ} {cause : SimError}
    (step : bench.step = (.error cause, after)) (bound : Nat) :
    bench.stepsWithin (bound + 1) = some (.error cause, after) := by
  simp only [stepsWithin, step]

/-- A step that ends stopped ends a run with the statistics. -/
lemma stepsWithin_of_stopped {bench after : Bench σ} (step : bench.step = (.ok .stopped, after))
    (bound : Nat) : bench.stepsWithin (bound + 1) = some (.ok after.loop.stats, after) := by
  simp only [stepsWithin, step]

/-- After a step that leaves the loop running a run goes on. -/
lemma stepsWithin_of_running {bench after : Bench σ} (step : bench.step = (.ok .running, after))
    (bound : Nat) : bench.stepsWithin (bound + 1) = after.stepsWithin bound := by
  simp only [stepsWithin, step]

/-- A run of a loop that is asked to stop ends with the shutdown. -/
lemma stepsWithin_of_asked {bench : Bench σ} (running : bench.loop.state = .running)
    (asked : bench.asked = true) (bound : Nat) :
    bench.stepsWithin (bound + 1) =
      some (bench.checkFinished.2.shutdown.1.map fun _ => bench.closed.loop.stats,
        bench.closed) := by
  have step := step_of_asked running asked
  cases result : bench.checkFinished.2.shutdown.1 <;> rw [result] at step
  · exact stepsWithin_of_error step bound
  · exact stepsWithin_of_stopped step bound

/-- A run that returns within a bound returns the same within every larger bound. -/
lemma stepsWithin_mono {small large : Nat} (le : small ≤ large) {bench : Bench σ}
    {outcome : Except SimError RunStats × Bench σ}
    (returned : bench.stepsWithin small = some outcome) :
    bench.stepsWithin large = some outcome := by
  -- A run that returns makes the same steps whatever is left of its bound.
  induction small generalizing large bench with
  | zero => exact absurd returned (by simp [stepsWithin])
  | succ small ih =>
    obtain ⟨large, rfl⟩ := Nat.exists_eq_add_of_lt (Nat.lt_of_lt_of_le (Nat.succ_pos small) le)
    rw [Nat.zero_add] at le ⊢
    rcases step : bench.step with ⟨_ | (_ | _), after⟩
    · rwa [stepsWithin_of_error step] at returned ⊢
    · rw [stepsWithin_of_running step] at returned ⊢
      exact ih (Nat.le_of_succ_le_succ le) returned
    · rwa [stepsWithin_of_stopped step] at returned ⊢

/-- The outcome of a run does not depend on the bound within which it returns. -/
lemma stepsWithin_unique {first second : Nat} {bench : Bench σ}
    {outcome other : Except SimError RunStats × Bench σ}
    (returned : bench.stepsWithin first = some outcome)
    (returned' : bench.stepsWithin second = some other) : outcome = other := by
  have left := stepsWithin_mono (Nat.le_max_left first second) returned
  have right := stepsWithin_mono (Nat.le_max_right first second) returned'
  exact Option.some.inj (left.symm.trans right)

/-- What a step keeps holds when a run returns. -/
lemma stepsWithin_preserves {P : Bench σ → Prop} (step : ∀ bench, P bench → P bench.step.2)
    {bound : Nat} {bench after : Bench σ} {result : Except SimError RunStats}
    (returned : bench.stepsWithin bound = some (result, after)) (holds : P bench) : P after := by
  induction bound generalizing bench with
  | zero => exact absurd returned (by simp [stepsWithin])
  | succ bound ih =>
    have next := step bench holds
    rcases h : bench.step with ⟨_ | (_ | _), after'⟩ <;> rw [h] at next
    · rw [stepsWithin_of_error h] at returned
      cases returned
      exact next
    · rw [stepsWithin_of_running h] at returned
      exact ih returned next
    · rw [stepsWithin_of_stopped h] at returned
      cases returned
      exact next

/-! ### A run with its settings -/

/-- The loop with its settings for a run. -/
def configured (path : String) (limit : Option UInt64) (bench : Bench σ) : Bench σ :=
  { bench with loop := (bench.loop.withCoveragePath path).withMaxTicks limit }

/-- The calls that set a loop up and run it. -/
def runCalls (path : String) (limit : Option UInt64) (result : Except SimError RunStats) :
    List (Call × Answer) :=
  [(.withCoveragePath path, .configured), (.withMaxTicks limit, .configured), (.run, .ran result)]

/-- A run that returns makes a session. -/
lemma session_runCalls {path : String} {limit : Option UInt64} {bound : Nat}
    {result : Except SimError RunStats} {bench after : Bench σ}
    (returned : (bench.configured path limit).opened.stepsWithin bound = some (result, after)) :
    Session bench (runCalls path limit result) after :=
  .cons (.withCoveragePath path) (.cons (.withMaxTicks limit) (.cons (.run returned) (.nil _)))

/-! ### Invariants of sessions -/

/-- What a step keeps and the log and the settings do not touch is an invariant. -/
structure Invariant (P : Bench σ → Prop) : Prop where
  step : ∀ bench, P bench → P bench.step.2
  report : ∀ bench event, P bench → P { bench with host := bench.host.report event }
  withMaxTicks : ∀ bench limit, P bench → P { bench with loop := bench.loop.withMaxTicks limit }
  withCoveragePath : ∀ bench path, P bench →
    P { bench with loop := bench.loop.withCoveragePath path }

/-- Every call keeps an invariant. -/
lemma Makes.preserves {P : Bench σ → Prop} (invariant : Invariant P) {bench after : Bench σ}
    {call : Call} {answer : Answer} (made : Makes bench call answer after) (holds : P bench) :
    P after := by
  cases made with
  | step => exact invariant.step bench holds
  | run returned =>
    exact stepsWithin_preserves invariant.step returned (invariant.report bench _ holds)
  | withMaxTicks limit => exact invariant.withMaxTicks bench limit holds
  | withCoveragePath path => exact invariant.withCoveragePath bench path holds

/-- An invariant holds at the end of a session that began with it. -/
theorem Session.preserves {P : Bench σ → Prop} (invariant : Invariant P) {bench after : Bench σ}
    {calls : List (Call × Answer)} (session : Session bench calls after) (holds : P bench) :
    P after := by
  induction session with
  | nil => exact holds
  | cons made rest ih => exact ih (made.preserves invariant holds)

/-! ### Sessions are determined by their calls -/

/-- A call has one answer and one outcome. -/
lemma Makes.unique {bench first second : Bench σ} {call : Call} {answer answer' : Answer}
    (made : Makes bench call answer first) (made' : Makes bench call answer' second) :
    answer = answer' ∧ first = second := by
  cases made with
  | step => cases made'; exact ⟨rfl, rfl⟩
  | run returned =>
    cases made' with
    | run returned' =>
      obtain ⟨rfl, rfl⟩ := Prod.mk.inj (stepsWithin_unique returned returned')
      exact ⟨rfl, rfl⟩
  | withMaxTicks => cases made'; exact ⟨rfl, rfl⟩
  | withCoveragePath => cases made'; exact ⟨rfl, rfl⟩

/-- Two sessions from one bench with the same calls end at the same bench with the same
answers. -/
theorem Session.unique {bench first second : Bench σ} {calls calls' : List (Call × Answer)}
    (session : Session bench calls first) (session' : Session bench calls' second)
    (same : calls.map Prod.fst = calls'.map Prod.fst) : calls = calls' ∧ first = second := by
  induction session generalizing calls' with
  | nil =>
    cases session' with
    | nil => exact ⟨rfl, rfl⟩
    | cons => cases same
  | cons made rest ih =>
    cases session' with
    | nil => cases same
    | cons made' rest' =>
      obtain ⟨rfl, tail⟩ := List.cons.inj same
      obtain ⟨rfl, rfl⟩ := made.unique made'
      obtain ⟨rfl, rfl⟩ := ih rest' tail
      exact ⟨rfl, rfl⟩

end Bench

end CycleSim
