import Mathlib.Logic.Function.Iterate
import CycleSim.Proofs.Loop.Session

/-!
# The steps of a session

A session shows its calls and their answers, and a run hides the steps that it makes.  The `Trail`
of a session lists the places at which its steps are made, those of single steps and of runs alike,
so that what is true of every step of a session can be said.  A run steps as long as its steps leave
the loop running, and answers as its last step does.  Every session has a trail
(`Session.exists_trail`), and what one step keeps, with the steps before it at hand, holds at the
end of every trail (`Trail.preserves`).
-/

namespace CycleSim.Bench

variable {σ : Type} [DeviceModel σ]

/-- The loop and the host after `n` steps. -/
def stepped (n : ℕ) (bench : Bench σ) : Bench σ :=
  (fun bench => bench.step.2)^[n] bench

@[simp] lemma stepped_zero (bench : Bench σ) : bench.stepped 0 = bench := rfl

/-- The last of the steps comes after the others. -/
lemma stepped_succ (bench : Bench σ) (n : ℕ) :
    bench.stepped (n + 1) = (bench.stepped n).step.2 :=
  Function.iterate_succ_apply' _ n bench

/-- The first `n` steps leave the loop running. -/
def RunsOn (bench : Bench σ) (n : ℕ) : Prop :=
  ∀ k < n, (bench.stepped k).step.1 = .ok .running

/-- Where no steps are made, none ends a run. -/
lemma runsOn_zero (bench : Bench σ) : bench.RunsOn 0 :=
  fun k lt => absurd lt (Nat.not_lt_zero k)

/-- A run goes on behind steps that leave the loop running. -/
lemma RunsOn.stepsWithin {bench : Bench σ} {n : ℕ} (runs : bench.RunsOn n) (bound : ℕ) :
    bench.stepsWithin (bound + n) = (bench.stepped n).stepsWithin bound := by
  induction n generalizing bound with
  | zero => rfl
  | succ n ih =>
    have last : (bench.stepped n).step = (.ok .running, bench.stepped (n + 1)) :=
      Prod.ext (runs n n.lt_succ_self) (bench.stepped_succ n).symm
    rw [← Nat.add_assoc, Nat.add_right_comm, ih fun k lt => runs k (Nat.lt_succ_of_lt lt),
      stepsWithin_of_running last]

/-- A run that returns steps until a step does not leave the loop running, and answers as that step
does. -/
lemma exists_runsOn {bound : ℕ} {bench after : Bench σ} {result : Except SimError RunStats}
    (returned : bench.stepsWithin bound = some (result, after)) :
    ∃ n, bench.RunsOn n ∧ (bench.stepped n).step.1 ≠ .ok .running ∧
      result = (bench.stepped n).step.1.map (fun _ => (bench.stepped (n + 1)).loop.stats) ∧
      after = bench.stepped (n + 1) := by
  induction bound generalizing bench with
  | zero => exact absurd returned (by simp [stepsWithin])
  | succ bound ih =>
    rcases step : bench.step with ⟨_ | (_ | _), next⟩
    · rw [stepsWithin_of_error step] at returned
      cases returned
      exact ⟨0, bench.runsOn_zero, by simp [step], by simp [step, Except.map],
        by simp [stepped_succ, step]⟩
    · rw [stepsWithin_of_running step] at returned
      obtain ⟨n, runs, ends, rfl, rfl⟩ := ih returned
      have later : ∀ k, bench.stepped (k + 1) = next.stepped k :=
        fun k => congrArg (Bench.stepped k) (congrArg Prod.snd step)
      refine ⟨n + 1, ?_, ?_, ?_, ?_⟩
      · intro k lt
        cases k with
        | zero => rw [stepped_zero, step]
        | succ k =>
          rw [later]
          exact runs k (Nat.lt_of_succ_lt_succ lt)
      · rw [later]
        exact ends
      · rw [later, later]
      · rw [later]
    · rw [stepsWithin_of_stopped step] at returned
      cases returned
      exact ⟨0, bench.runsOn_zero, by simp [step], by simp [stepped_succ, step, Except.map],
        by simp [stepped_succ, step]⟩

/-! ### Trails -/

/-- A call on `bench`, its answer, the places at which it makes its steps, and where it leads. -/
inductive Performs (bench : Bench σ) : Call → Answer → List (Bench σ) → Bench σ → Prop where
  | step : Performs bench .step (.stepped bench.step.1) [bench] bench.step.2
  /-- A run steps until a step does not leave the loop running, and answers as that step does. -/
  | run {n : ℕ} (runs : bench.opened.RunsOn n)
      (ends : (bench.opened.stepped n).step.1 ≠ .ok .running) :
      Performs bench .run
        (.ran ((bench.opened.stepped n).step.1.map
          fun _ => (bench.opened.stepped (n + 1)).loop.stats))
        ((List.range (n + 1)).map fun k => bench.opened.stepped k) (bench.opened.stepped (n + 1))
  | withMaxTicks (limit : Option UInt64) :
      Performs bench (.withMaxTicks limit) .configured []
        { bench with loop := bench.loop.withMaxTicks limit }
  | withCoveragePath (path : String) :
      Performs bench (.withCoveragePath path) .configured []
        { bench with loop := bench.loop.withCoveragePath path }

/-- Calls with their answers that lead from one bench to another, and the places at which they make
their steps. -/
inductive Trail : Bench σ → List (Call × Answer) → List (Bench σ) → Bench σ → Prop where
  | nil (bench : Bench σ) : Trail bench [] [] bench
  | cons {bench next after : Bench σ} {call : Call} {answer : Answer}
      {calls : List (Call × Answer)} {steps later : List (Bench σ)}
      (made : Performs bench call answer steps next) (rest : Trail next calls later after) :
      Trail bench ((call, answer) :: calls) (steps ++ later) after

/-- A run makes its steps one behind the other, up to the one whose outcome it answers. -/
lemma Performs.exists_of_run {bench after : Bench σ} {result : Except SimError RunStats}
    {steps : List (Bench σ)} (made : Performs bench .run (.ran result) steps after) :
    ∃ n, bench.opened.RunsOn n ∧ (bench.opened.stepped n).step.1 ≠ .ok .running ∧
      result = (bench.opened.stepped n).step.1.map
        (fun _ => (bench.opened.stepped (n + 1)).loop.stats) ∧
      steps = (List.range (n + 1)).map (fun k => bench.opened.stepped k) ∧
      after = bench.opened.stepped (n + 1) := by
  cases made with
  | run runs ends => exact ⟨_, runs, ends, rfl, rfl, rfl⟩

/-- Every call makes its steps at some places. -/
lemma Makes.exists_performs {bench after : Bench σ} {call : Call} {answer : Answer}
    (made : Makes bench call answer after) : ∃ steps, Performs bench call answer steps after := by
  cases made with
  | step => exact ⟨_, .step⟩
  | run returned =>
    obtain ⟨n, runs, ends, rfl, rfl⟩ := exists_runsOn returned
    exact ⟨_, .run runs ends⟩
  | withMaxTicks limit => exact ⟨_, .withMaxTicks limit⟩
  | withCoveragePath path => exact ⟨_, .withCoveragePath path⟩

/-- Every session has a trail. -/
theorem Session.exists_trail {bench after : Bench σ} {calls : List (Call × Answer)}
    (session : Session bench calls after) : ∃ steps, Trail bench calls steps after := by
  induction session with
  | nil bench => exact ⟨[], .nil bench⟩
  | cons made rest ih =>
    obtain ⟨steps, performs⟩ := made.exists_performs
    obtain ⟨later, trail⟩ := ih
    exact ⟨steps ++ later, .cons performs trail⟩

/-- A run that steps up to a place where it ends returns what the step there gives. -/
lemma RunsOn.returned {bench : Bench σ} {n : ℕ} (runs : bench.RunsOn n)
    (ends : (bench.stepped n).step.1 ≠ .ok .running) :
    bench.stepsWithin (1 + n) =
      some ((bench.stepped n).step.1.map (fun _ => (bench.stepped (n + 1)).loop.stats),
        bench.stepped (n + 1)) := by
  rw [runs.stepsWithin, stepped_succ]
  rcases step : (bench.stepped n).step with ⟨_ | (_ | _), after⟩
  · exact stepsWithin_of_error step 0
  · rw [step] at ends
    exact absurd rfl ends
  · exact stepsWithin_of_stopped step 0

/-- A trail is that of a session. -/
theorem Trail.session {bench after : Bench σ} {calls : List (Call × Answer)}
    {steps : List (Bench σ)} (trail : Trail bench calls steps after) :
    Session bench calls after := by
  induction trail with
  | nil bench => exact .nil bench
  | cons made _ ih =>
    refine .cons ?_ ih
    cases made with
    | step => exact .step
    | run runs ends => exact .run (runs.returned ends)
    | withMaxTicks limit => exact .withMaxTicks limit
    | withCoveragePath path => exact .withCoveragePath path

/-- A run with its settings makes its steps where it finds the loop set up and opened. -/
lemma trail_runCalls {path : String} {limit : Option UInt64} {bench : Bench σ} {n : ℕ}
    (runs : (bench.configured path limit).opened.RunsOn n) {result : Except SimError LoopState}
    (ends : ((bench.configured path limit).opened.stepped n).step.1 = result)
    (last : result ≠ .ok .running) :
    Trail bench
      (runCalls path limit (result.map fun _ =>
        ((bench.configured path limit).opened.stepped (n + 1)).loop.stats))
      ((List.range (n + 1)).map fun k => (bench.configured path limit).opened.stepped k)
      ((bench.configured path limit).opened.stepped (n + 1)) := by
  subst ends
  have run := Trail.cons (Performs.run runs last) (Trail.nil _)
  rw [List.append_nil] at run
  have calls : Trail bench _ ([] ++ ([] ++ _)) _ :=
    .cons (.withCoveragePath path) (.cons (.withMaxTicks limit) run)
  exact calls

/-! ### Invariants of trails -/

/-- What a step keeps, with the places of the steps so far at hand, and what the log and the
settings do not touch, is an invariant of trails. -/
structure TrailInvariant (P : List (Bench σ) → Bench σ → Prop) : Prop where
  step : ∀ steps bench, P steps bench → P (steps ++ [bench]) bench.step.2
  report : ∀ steps bench event, P steps bench →
    P steps { bench with host := bench.host.report event }
  withMaxTicks : ∀ steps bench limit, P steps bench →
    P steps { bench with loop := bench.loop.withMaxTicks limit }
  withCoveragePath : ∀ steps bench path, P steps bench →
    P steps { bench with loop := bench.loop.withCoveragePath path }

/-- Any number of steps keeps an invariant. -/
lemma TrailInvariant.stepped {P : List (Bench σ) → Bench σ → Prop} (invariant : TrailInvariant P)
    {before : List (Bench σ)} {bench : Bench σ} (holds : P before bench) (n : ℕ) :
    P (before ++ (List.range n).map fun k => bench.stepped k) (bench.stepped n) := by
  induction n with
  | zero =>
    rw [List.range_zero, List.map_nil, List.append_nil]
    exact holds
  | succ n ih =>
    rw [List.range_succ, List.map_append, List.map_singleton, ← List.append_assoc, stepped_succ]
    exact invariant.step _ _ ih

/-- Every call keeps an invariant. -/
lemma Performs.preserves {P : List (Bench σ) → Bench σ → Prop} (invariant : TrailInvariant P)
    {before steps : List (Bench σ)} {bench after : Bench σ} {call : Call} {answer : Answer}
    (made : Performs bench call answer steps after) (holds : P before bench) :
    P (before ++ steps) after := by
  cases made with
  | step => exact invariant.step before bench holds
  | run =>
    have opened : P before bench.opened := invariant.report _ _ _ holds
    exact invariant.stepped opened _
  | withMaxTicks limit =>
    rw [List.append_nil]
    exact invariant.withMaxTicks before bench limit holds
  | withCoveragePath path =>
    rw [List.append_nil]
    exact invariant.withCoveragePath before bench path holds

/-- An invariant holds at the end of a trail that began with it. -/
theorem Trail.preserves {P : List (Bench σ) → Bench σ → Prop} (invariant : TrailInvariant P)
    {before steps : List (Bench σ)} {bench after : Bench σ} {calls : List (Call × Answer)}
    (trail : Trail bench calls steps after) (holds : P before bench) :
    P (before ++ steps) after := by
  induction trail generalizing before with
  | nil =>
    rw [List.append_nil]
    exact holds
  | cons made rest ih =>
    rw [← List.append_assoc]
    exact ih (made.preserves invariant holds)

end CycleSim.Bench
