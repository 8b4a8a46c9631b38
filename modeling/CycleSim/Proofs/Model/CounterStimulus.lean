import CycleSim.Proofs.Model.CounterRegister
import CycleSim.Proofs.Model.Stimulus

/-!
# The counter under any stimuli

However a new counter is driven and evaluated, it is known from the number of rising edges among the
levels that its evaluations have seen (`Rig.counter_drive`): it has counted them up to its number of
cycles, its register has gone up by as many modulo its range, and its coverage tells of the counted
edges and of the wraps.
-/

namespace CycleSim.Rig

open Coverage EdgeTriggered

/-- A database that was empty before a counter was built has its two points and the events of its
edges. -/
lemma After.counter_coverage {context : Context} {width : UInt32} {finishAfter : UInt64}
    {edges evaluations : ℕ} {rig : Rig Counter}
    (after : After (mount (Counter.build context width finishAfter)) edges evaluations rig)
    (empty : context.coverage = some default) :
    rig.context.coverage =
      some (Counter.database (work (Counter.build context width finishAfter).1) edges) := by
  have declared : (mount (Counter.build context width finishAfter)).context.coverage = _ :=
    Counter.coverage_build empty width finishAfter
  rw [after.coverage_eq, declared, Option.map_some, ← Database.recordAll_append]
  rfl

/-- A counter of any width and number of cycles, built in any context and then driven and evaluated
in any order.  The first value of its register is the one that the policy of the context gives, and
the edges are the evaluations at a high level that follow one at a low level.  Of the edges it
counts as many as it has cycles; its register is the sum modulo its range; it has finished exactly
when all its cycles are counted, and then for good; no evaluation fails.  If coverage starts with
this counter, the first point counts the counted edges and the second how often the sum divides by
the range. -/
theorem counter_drive (context : Context) (width : UInt32) (finishAfter : UInt64)
    (stimuli : List Stimulus) :
    let rig := (mount (Counter.build context width finishAfter)).drive stimuli
    let range := 2 ^ min width.toNat 64
    let start := (context.registerBits width).toNat
    let counted := min finishAfter.toNat (Stimulus.risingEdges stimuli)
    rig.model.cycles.toNat = counted ∧
      rig.model.value.toNat = (start + counted) % range ∧
      (DeviceModel.finished rig.model = true ↔ counted = finishAfter.toNat) ∧
      (DeviceModel.finished rig.model = true →
        ∀ later, DeviceModel.finished (rig.drive later).model = true) ∧
      rig.answers = List.replicate (stimuli.count .evaluate) (.ok ()) ∧
      (context.coverage = some default → ∃ database, rig.context.coverage = some database ∧
        database.size = 2 ∧
        (database.count? "counter.rising_edge").map UInt64.toNat = some counted ∧
        (database.count? "counter.wrap").map UInt64.toNat = some ((start + counted) / range)) := by
  intro rig range start counted
  have fresh := Counter.fresh_build context width finishAfter
  have after : After _ (Stimulus.risingEdges stimuli) (stimuli.count .evaluate) rig :=
    after_mount (Counter.build context width finishAfter) trivial rfl rfl stimuli
  refine ⟨?_, ?_, ?_, ?_, ?_, ?_⟩
  · exact (congrArg (·.cycles.toNat) after.work_eq).trans (Counter.cycles_iterate rfl _)
  · exact (congrArg (·.value.toNat) after.work_eq).trans (fresh.value_iterate _)
  · rw [← finished_work, after.work_eq]
    refine (Counter.finished_iterate rfl _).trans ?_
    show finishAfter.toNat ≤ _ ↔ _
    omega
  · intro finished later
    exact after.finished_drive trivial finished later
  · exact after.answers_eq
  · intro empty
    have first : Counter.edgePoint ∈ Counter.points := List.mem_cons_self
    have second : Counter.wrapPoint ∈ Counter.points := List.mem_cons_of_mem _ List.mem_cons_self
    have edges := fresh.count?_database (Stimulus.risingEdges stimuli) first
    have wraps := fresh.count?_database (Stimulus.risingEdges stimuli) second
    rw [fresh.total_edgePoint] at edges
    rw [fresh.total_wrapPoint] at wraps
    exact ⟨_, after.counter_coverage empty, Counter.size_database _ _, edges, wraps⟩

/-- A counter of one bit and two cycles that starts at 1 counts the first two of three edges, wraps
once and stays finished under the same stimuli again. -/
theorem counter_drive_wrapping :
    let context : Context := { (default : Context) with
      resetPolicy := .ones
      coverage := some default }
    let rig := (mount (Counter.build context 1 2)).drive Stimulus.threeEdges
    rig.model.cycles.toNat = 2 ∧ rig.model.value.toNat = 1 ∧
      DeviceModel.finished (rig.drive Stimulus.threeEdges).model = true ∧
      ∃ database, rig.context.coverage = some database ∧
        (database.count? "counter.rising_edge").map UInt64.toNat = some 2 ∧
        (database.count? "counter.wrap").map UInt64.toNat = some 1 := by
  intro context rig
  have start : (context.registerBits 1).toNat = 1 := by decide
  have counted : min (2 : UInt64).toNat (Stimulus.risingEdges Stimulus.threeEdges) = 2 := by decide
  obtain ⟨cycles, value, finished, stays, -, covered⟩ :=
    counter_drive context 1 2 Stimulus.threeEdges
  obtain ⟨database, recorded, -, edges, wraps⟩ := covered rfl
  rw [counted] at cycles value finished edges wraps
  rw [start] at value wraps
  exact ⟨cycles, value, stays (finished.mpr rfl) Stimulus.threeEdges, database, recorded, edges,
    wraps⟩

end CycleSim.Rig
