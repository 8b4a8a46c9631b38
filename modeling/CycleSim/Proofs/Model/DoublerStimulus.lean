import CycleSim.Proofs.Model.DoublerCoverage
import CycleSim.Proofs.Model.Stimulus

/-!
# The doubler under any stimuli

However a new doubler is driven and evaluated, it is known from the number of rising edges among the
levels that its evaluations have seen (`Rig.doubler_drive`).  The first edge loads an operand, and
every further one checks the result that the edge before has left and loads the next operand, so the
operands are checked in their order, each once, one edge after they were loaded.
-/

namespace CycleSim

namespace Doubler

variable {doubler : Doubler}

/-- The first edge checks nothing, and every further one an operand while there are any. -/
lemma Fresh.checked_iterate_eq (fresh : doubler.Fresh) (n : ℕ) :
    (edge^[n] doubler).checked = min doubler.operands.size (n - 1) := by
  cases n with
  | zero =>
    rw [Nat.zero_sub, Nat.min_zero]
    exact fresh.checked_eq
  | succ n => exact fresh.checked_iterate n

/-- The result in the output registers is that of the first operand not checked. -/
lemma Fresh.operands_checked (fresh : doubler.Fresh) (n : ℕ)
    (valid : (edge^[n] doubler).outValid = true) :
    doubler.operands[(edge^[n] doubler).checked]? = some (edge^[n] doubler).outOperand := by
  cases n with
  | zero => exact absurd (fresh.outValid_eq.symm.trans valid) Bool.false_ne_true
  | succ n =>
    rw [fresh.outValid_iterate] at valid
    have lt : n < doubler.operands.size := of_decide_eq_true valid
    rw [fresh.checked_iterate, Nat.min_eq_right (Nat.le_of_lt lt), fresh.outOperand_iterate lt,
      Array.getElem?_eq_getElem lt]

end Doubler

namespace Rig

open Coverage EdgeTriggered

/-- A database that was empty before a doubler was built has the points of all classes and the
classes of the operands that edges have checked. -/
lemma After.doubler_coverage {context : Context} {operands : Array Binary64} {edges evaluations : ℕ}
    {rig : Rig Doubler}
    (after : After (mount (Doubler.withOperands context operands)) edges evaluations rig)
    (empty : context.coverage = some default) :
    rig.context.coverage =
      some (Doubler.database (operands.toList.take rig.model.checked)) := by
  have fresh : (work (Doubler.withOperands context operands).1).Fresh :=
    Doubler.fresh_withOperands context operands
  have checked := congrArg Doubler.checked after.work_eq
  change rig.model.checked = _ at checked
  have declared : (mount (Doubler.withOperands context operands)).context.coverage = _ :=
    Doubler.coverage_withOperands empty operands
  have hits : trace (work (mount (Doubler.withOperands context operands)).model) edges =
      Doubler.classHits (operands.toList.take rig.model.checked) := by
    rw [checked]
    exact fresh.trace_eq edges
  rw [after.coverage_eq, declared, hits, Option.map_some, ← Database.recordAll_append,
    Doubler.database]

/-- A doubler of fewer than `2 ^ 63` operands, built in any context and then driven and evaluated in
any order; the edges are the evaluations at a high level that follow one at a low level.  No
evaluation fails.  One operand is checked at every edge but the first, until there are no more; what
waits in the output registers is the result of the first operand not checked.  If coverage starts
with this doubler, it counts of each class the checked operands that are in it, and has no other
points.  The doubler has finished exactly when all operands are checked, and then for good, and
exactly then its finalization succeeds. -/
theorem doubler_drive (context : Context) {operands : Array Binary64}
    (few : operands.size < 2 ^ 63) (stimuli : List Stimulus) :
    let rig := (mount (Doubler.withOperands context operands)).drive stimuli
    rig.answers = List.replicate (stimuli.count .evaluate) (.ok ()) ∧
      rig.model.checked = min operands.size (Stimulus.risingEdges stimuli - 1) ∧
      (rig.model.outValid = true → operands[rig.model.checked]? = some rig.model.outOperand) ∧
      (context.coverage = some default → ∃ database, rig.context.coverage = some database ∧
        (∀ c : Binary64.Class, (database.count? c.point).map UInt64.toNat =
          some ((operands.toList.take rig.model.checked).countP (·.classify = c))) ∧
        ∀ name, (∀ c : Binary64.Class, c.point ≠ name) → database.count? name = none) ∧
      (DeviceModel.finished rig.model = true ↔ rig.model.checked = operands.size) ∧
      (DeviceModel.finished rig.model = true →
        ∀ later, DeviceModel.finished (rig.drive later).model = true) ∧
      ((DeviceModel.finalize rig.model).1 = .ok () ↔ rig.model.checked = operands.size) := by
  intro rig
  let built : Doubler := work (Doubler.withOperands context operands).1
  have fresh : built.Fresh := Doubler.fresh_withOperands context operands
  have after : After _ (Stimulus.risingEdges stimuli) (stimuli.count .evaluate) rig :=
    after_mount (Doubler.withOperands context operands) fresh.pipelined rfl rfl stimuli
  generalize Stimulus.risingEdges stimuli = edges at after ⊢
  have worked : work rig.model = Doubler.edge^[edges] built := after.work_eq
  have checked := congrArg Doubler.checked worked
  have outValid := congrArg Doubler.outValid worked
  have outOperand := congrArg Doubler.outOperand worked
  change rig.model.checked = _ at checked
  change rig.model.outValid = _ at outValid
  change rig.model.outOperand = _ at outOperand
  have kept : rig.model.operands = operands :=
    (congrArg Doubler.operands worked).trans (Doubler.operands_iterate built edges)
  have finished_iff : DeviceModel.finished rig.model = true ↔
      rig.model.checked = operands.size := by
    show (rig.model.checked == rig.model.operands.size) = true ↔ _
    rw [beq_iff_eq, kept]
  refine ⟨after.answers_eq, ?_, ?_, ?_, finished_iff, ?_, ?_⟩
  · exact checked.trans (fresh.checked_iterate_eq edges)
  · intro valid
    rw [outValid] at valid
    rw [checked, outOperand]
    exact fresh.operands_checked edges valid
  · intro empty
    have short : (operands.toList.take rig.model.checked).length < 2 ^ 64 := by
      rw [List.length_take, Array.length_toList]
      omega
    exact ⟨_, after.doubler_coverage empty, Doubler.count?_database short,
      fun _ => Doubler.count?_database_of_ne _⟩
  · intro finished later
    exact after.finished_drive fresh.pipelined finished later
  · rw [← finished_iff]
    show rig.model.finalize = .ok () ↔ rig.model.finished = true
    cases done : rig.model.finished <;> simp [Doubler.finalize, done]

/-- A doubler of an ordinary number and a zero checks both in three edges, and stays finished under
the same stimuli again. -/
theorem doubler_drive_two :
    let context : Context := { (default : Context) with coverage := some default }
    let rig := (mount (Doubler.withOperands context #[⟨0x3ff0000000000000⟩, ⟨0⟩])).drive
      Stimulus.threeEdges
    rig.model.checked = 2 ∧ (DeviceModel.finalize rig.model).1 = .ok () ∧
      DeviceModel.finished (rig.drive Stimulus.threeEdges).model = true ∧
      ∃ database, rig.context.coverage = some database ∧
        (database.count? "doubler.zero").map UInt64.toNat = some 1 ∧
        (database.count? "doubler.nan").map UInt64.toNat = some 0 ∧
        database.count? "counter.wrap" = none := by
  intro context rig
  have few : (#[⟨0x3ff0000000000000⟩, ⟨0⟩] : Array Binary64).size < 2 ^ 63 := by decide
  have edges : Stimulus.risingEdges Stimulus.threeEdges = 3 := by decide
  obtain ⟨-, checked, -, covered, finished, stays, closes⟩ :=
    doubler_drive context few Stimulus.threeEdges
  obtain ⟨database, recorded, counts, others⟩ := covered rfl
  rw [edges] at checked
  have all : rig.model.checked = 2 := checked
  have zeros := counts .zero
  have nans := counts .nan
  rw [checked] at zeros nans
  have other : ∀ c : Binary64.Class, c.point ≠ "counter.wrap" := by
    intro c
    cases c <;> decide
  exact ⟨all, closes.mpr all, stays (finished.mpr all) _, database, recorded, zeros, nans,
    others _ other⟩

end Rig

end CycleSim
