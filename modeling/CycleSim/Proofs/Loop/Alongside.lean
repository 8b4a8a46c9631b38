import CycleSim.Proofs.Loop.Session

/-!
# Two executions side by side

Two loops that are driven by the same calls run side by side if a relation between them is kept by
every step and by the settings, and if steps of related loops answer the same (`Alongside`).  Their
runs then end at the same step, so to every session of the one there is a session of the other with
the same calls, whose answers are the same as far as a `view` of the statistics shows
(`Alongside.session`).  The relation is symmetric in this, so neither loop returns from a call from
which the other does not (`Alongside.flip`).
-/

namespace CycleSim

/-- The answer with its statistics seen through `view`. -/
def Answer.mapStats (view : RunStats → RunStats) : Answer → Answer
  | .stepped result => .stepped result
  | .ran result => .ran (result.map view)
  | .configured => .configured

/-- Answers whose statistics are seen as they are. -/
@[simp] lemma Answer.mapStats_id (answer : Answer) : answer.mapStats id = answer := by
  cases answer with
  | ran result => cases result <;> rfl
  | stepped | configured => rfl

/-- Two lists of calls with their answers are the same, as far as `view` shows of the statistics
answered. -/
def SeenAlike (view : RunStats → RunStats) (calls calls' : List (Call × Answer)) : Prop :=
  calls.map (fun entry => (entry.1, entry.2.mapStats view)) =
    calls'.map (fun entry => (entry.1, entry.2.mapStats view))

/-- Calls whose answers are seen as they are are the same. -/
lemma SeenAlike.eq {calls calls' : List (Call × Answer)} (alike : SeenAlike id calls calls') :
    calls = calls' := by
  simpa [SeenAlike] using alike

namespace Bench

variable {σ τ : Type} [DeviceModel σ] [DeviceModel τ] {R : Bench σ → Bench τ → Prop}
  {view : RunStats → RunStats} {Usable : String → Prop} {one : Bench σ} {other : Bench τ}

/-- Loops related by `R` step alike and show the same statistics through `view`, and `R` is kept by
steps and settings, where the coverage file is only moved to paths that are `Usable`. -/
structure Alongside (R : Bench σ → Bench τ → Prop) (view : RunStats → RunStats)
    (Usable : String → Prop) : Prop where
  step : ∀ {one other}, R one other → one.step.1 = other.step.1 ∧ R one.step.2 other.step.2
  opened : ∀ {one other}, R one other → R one.opened other.opened
  stats : ∀ {one other}, R one other → view one.loop.stats = view other.loop.stats
  withMaxTicks : ∀ {one other} limit, R one other →
    R { one with loop := one.loop.withMaxTicks limit }
      { other with loop := other.loop.withMaxTicks limit }
  withCoveragePath : ∀ {one other} {path}, Usable path → R one other →
    R { one with loop := one.loop.withCoveragePath path }
      { other with loop := other.loop.withCoveragePath path }

/-- Side by side is the same seen from the other side. -/
lemma Alongside.flip (alongside : Alongside R view Usable) :
    Alongside (fun other one => R one other) view Usable where
  step related := ⟨(alongside.step related).1.symm, (alongside.step related).2⟩
  opened := alongside.opened
  stats related := (alongside.stats related).symm
  withMaxTicks := alongside.withMaxTicks
  withCoveragePath := alongside.withCoveragePath

/-- Where the run of one loop returns, so does that of the other. -/
lemma Alongside.stepsWithin (alongside : Alongside R view Usable) (related : R one other)
    {bound : ℕ} {result : Except SimError RunStats} {after : Bench σ}
    (returned : one.stepsWithin bound = some (result, after)) :
    ∃ result' after', other.stepsWithin bound = some (result', after') ∧
      result.map view = result'.map view ∧ R after after' := by
  induction bound generalizing one other with
  | zero => exact absurd returned (by simp [Bench.stepsWithin])
  | succ bound ih =>
    obtain ⟨answer, next⟩ := alongside.step related
    rcases here : one.step with ⟨_ | (_ | _), after₁⟩ <;>
      rcases there : other.step with ⟨answer₂, after₂⟩ <;>
      rw [here, there] at answer next <;> subst answer
    · rw [stepsWithin_of_error here] at returned
      cases returned
      exact ⟨_, after₂, stepsWithin_of_error there bound, rfl, next⟩
    · rw [stepsWithin_of_running here] at returned
      rw [stepsWithin_of_running there]
      exact ih next returned
    · rw [stepsWithin_of_stopped here] at returned
      cases returned
      refine ⟨_, after₂, stepsWithin_of_stopped there bound, ?_, next⟩
      exact congrArg Except.ok (alongside.stats next)

/-- A call on one loop can be made on the other, with the same answer as far as `view` shows. -/
lemma Alongside.makes (alongside : Alongside R view Usable) (related : R one other) {call : Call}
    {answer : Answer} {after : Bench σ} (made : Makes one call answer after)
    (usable : ∀ path, call = .withCoveragePath path → Usable path) :
    ∃ answer' after', Makes other call answer' after' ∧
      answer.mapStats view = answer'.mapStats view ∧ R after after' := by
  cases made with
  | step =>
    obtain ⟨same, next⟩ := alongside.step related
    exact ⟨_, _, .step, congrArg Answer.stepped same, next⟩
  | run returned =>
    obtain ⟨_, _, returned', same, next⟩ :=
      alongside.stepsWithin (alongside.opened related) returned
    exact ⟨_, _, .run returned', congrArg Answer.ran same, next⟩
  | withMaxTicks limit =>
    exact ⟨_, _, .withMaxTicks limit, rfl, alongside.withMaxTicks limit related⟩
  | withCoveragePath path =>
    exact ⟨_, _, .withCoveragePath path, rfl, alongside.withCoveragePath (usable path rfl) related⟩

/-- To every session of one loop there is a session of the other with the same calls, with the same
answers as far as `view` shows, which ends related. -/
theorem Alongside.session (alongside : Alongside R view Usable) (related : R one other)
    {calls : List (Call × Answer)} {last : Bench σ} (session : Session one calls last)
    (usable : ∀ path answer, (.withCoveragePath path, answer) ∈ calls → Usable path) :
    ∃ calls' last', Session other calls' last' ∧ SeenAlike view calls calls' ∧ R last last' := by
  induction session generalizing other with
  | nil => exact ⟨[], other, .nil other, rfl, related⟩
  | cons made rest ih =>
    obtain ⟨answer, next, made', same, related⟩ := alongside.makes related made <| by
      rintro path rfl
      exact usable path _ List.mem_cons_self
    obtain ⟨calls', last', rest', alike, ended⟩ := ih related
      fun path answer mem => usable path answer (List.mem_cons_of_mem _ mem)
    refine ⟨_, last', .cons made' rest', ?_, ended⟩
    rw [SeenAlike, List.map_cons, List.map_cons, same, alike]

end Bench

end CycleSim
