import CycleSim.Proofs.Loop.EdgeRun
import CycleSim.Proofs.Loop.Resume
import CycleSim.Proofs.Model.DoublerCoverage

/-!
# Runs of the doubler

The run of a new doubler takes one edge more than it has operands, because the last result is
checked one edge after its operand was loaded; without operands it takes none.  With a limit that
allows them it checks every operand, and the coverage file tells how many operands are in each
class; with a lower limit the run is refused behind it and no step opens a file (`doubler_run`).
No evaluation and no finalization fails.
-/

namespace CycleSim.Bench

open EdgeTriggered

/-- The edges that a doubler of `n` operands takes. -/
def doublerEdges (n : ℕ) : ℕ :=
  if n = 0 then 0 else n + 1

/-- The ticks that a doubler of `n` operands takes. -/
def doublerTicks (n : ℕ) : ℕ :=
  if n = 0 then 0 else 2 * n + 1

/-- An edge takes two ticks, and the last edge one. -/
lemma doublerTicks_eq (n : ℕ) : doublerTicks n = 2 * doublerEdges n - 1 := by
  unfold doublerTicks doublerEdges
  split <;> omega

/-- The model has not failed at the step: an evaluation made there succeeds, and if the step closes
the loop, so does the finalization. -/
structure Unfailing (bench : Bench Doubler) : Prop where
  evaluation : bench.loop.evaluation.result = .ok ()
  finalize : bench.Closes → (DeviceModel.finalize bench.loop.model).1 = .ok ()

variable {build : Build} {context : Context} {host : Host} {path : String}

/-- A new doubler has finished with the edge behind the one that loads its last operand. -/
lemma finishedBy_doubler {doubler : Doubler} (fresh : (work doubler).Fresh) :
    FinishedBy doubler (doublerEdges doubler.operands.size) := by
  intro k
  unfold doublerEdges
  cases k with
  | zero =>
    have finished : DeviceModel.finished (work doubler) = (0 == doubler.operands.size) :=
      congrArg (· == doubler.operands.size) fresh.checked_eq
    show DeviceModel.finished (work doubler) = true ↔ _
    rw [finished, beq_iff_eq]
    split <;> omega
  | succ k =>
    refine (fresh.finished_iterate k).trans ?_
    show doubler.operands.size ≤ k ↔ _
    split <;> omega

/-- All operands are checked with that edge. -/
lemma checked_doubler {doubler : Doubler} (fresh : doubler.Fresh) :
    (Doubler.edge^[doublerEdges doubler.operands.size] doubler).checked =
      doubler.operands.size := by
  unfold doublerEdges
  split
  · rename_i none
    rw [none]
    exact fresh.checked_eq
  · rw [fresh.checked_iterate, Nat.min_self]

/-- The coverage that is recorded up to that edge is that of all operands. -/
lemma trace_doubler {doubler : Doubler} (fresh : doubler.Fresh) :
    trace doubler (doublerEdges doubler.operands.size) =
      Doubler.classHits doubler.operands.toList := by
  unfold doublerEdges
  split
  · rename_i none
    have empty : doubler.operands.toList = [] := List.eq_nil_of_length_eq_zero none
    rw [empty]
    rfl
  · rw [fresh.trace_succ_eq, ← Array.length_toList, List.take_length]

/-- The run of a new doubler with coverage, over any operands of which there are fewer than
`2 ^ 63 - 1`: within its limit it checks all of them in two ticks for each and one more and ends
well, and the file holds the six points of the classes with the number of operands in each.  A lower
limit ends it with the failure of that limit at that time, and no step touches a file.  The model
fails in neither run. -/
theorem doubler_run {general : GeneralSettings} {coverage : CoverageSettings} {args : List String}
    (built : Context.build general coverage args = .ok context)
    (enabled : coverage.enabled = true) (compiled : build.coverage = true) {place : Location}
    (writable : host.files.writablePlace path = .ok place) {operands : Array Binary64}
    (few : operands.size < 2 ^ 63 - 1) (limit : Option UInt64) :
    let first := start build (Doubler.withOperands context operands).2
      (Doubler.withOperands context operands).1 host
    ((∀ ticks ∈ limit, doublerTicks operands.size ≤ ticks.toNat) →
      ∃ steps last, Trail first (runCalls path limit (.ok last.loop.stats)) steps last ∧
        last.loop.stats.ticks.toNat = doublerTicks operands.size ∧
        last.loop.stats.simTime.toNat = doublerTicks operands.size ∧
        last.loop.stats.cycles.toNat = doublerEdges operands.size ∧
        last.loop.model.checked = operands.size ∧ last.loop.stats.finished = true ∧
        last.loop.stats.coveragePoints = 6 ∧
        last.host.files.readBytes path = .ok (Doubler.coverageText operands.toList).toUTF8 ∧
        (Binary64.Class.byName.map fun c =>
          operands.toList.countP (·.classify = c)).sum = operands.size ∧
        ∀ step ∈ steps, step.Unfailing) ∧
    (∀ ticks ∈ limit, ticks.toNat < doublerTicks operands.size →
      ∃ steps last,
        Trail first (runCalls path limit (.error (.tickLimitExceeded ticks))) steps last ∧
        last.loop.context.time = ticks ∧ last.host.files = host.files ∧
        ∀ step ∈ steps, step.LeavesFiles ∧ step.Unfailing) := by
  intro first
  have initial := Context.initial_of_build built enabled
  have recorded := Doubler.coverage_withOperands initial.coverage_eq operands
  have ready := ready_doubler build initial.clear host operands
  have time : (Doubler.withOperands context operands).2.time = 0 :=
    ((Context.time_skipDraws _ _).trans (Context.time_skipDraws _ _)).trans initial.time_eq
  have fresh := Doubler.fresh_withOperands context operands
  have finishes : FinishedBy first.loop.model (doublerEdges operands.size) :=
    finishedBy_doubler fresh
  have unfailing {n : ℕ} {step : Bench Doubler} (reached : Reached first path n step) :
      step.Unfailing :=
    ⟨reached.evaluation ready, reached.finalize ready⟩
  have length := doublerTicks_eq operands.size
  have fits : 2 * doublerEdges operands.size - 1 ≤ 2 ^ 64 - 2 := by
    rw [← length, doublerTicks]
    split <;> omega
  constructor
  · intro within
    rw [length] at within ⊢
    obtain ⟨steps, last, trail, reached, ended⟩ :=
      ready.exists_finishing_run time finishes fits compiled recorded writable within
    have points := ended.points
    have holds := ended.holds
    have events : trace (work first.loop.model) (doublerEdges operands.size) =
        Doubler.classHits operands.toList := trace_doubler fresh
    have checked : last.loop.model.checked = operands.size :=
      (congrArg Doubler.checked ended.work_eq).trans (checked_doubler fresh)
    have short : operands.toList.length < 2 ^ 64 := by
      rw [Array.length_toList]
      omega
    rw [← Coverage.Database.recordAll_append, events] at points holds
    have text : (Doubler.database operands.toList).text = _ := Doubler.text_database short
    rw [← Doubler.database, text] at holds
    refine ⟨steps, last, trail, ended.ticks, ended.simTime, ended.cycles, checked, ended.finished,
      points.trans (Doubler.size_database _), holds, ?_, fun step mem => ?_⟩
    · rw [Doubler.sum_countP_classify, Array.length_toList]
    · obtain ⟨n, -, reached⟩ := reached step mem
      exact unfailing reached
  · rintro ticks ⟨rfl⟩ lt
    rw [length] at lt
    obtain ⟨steps, last, trail, leaves, reached⟩ :=
      ready.exists_refused_run path time finishes lt (by omega)
    refine ⟨steps, last, trail, UInt64.toNat_inj.mp reached.counts.time, reached.stands.files_eq,
      fun step mem => ?_⟩
    obtain ⟨alone, n, -, reached⟩ := leaves step mem
    exact ⟨alone, unfailing reached⟩

/-- The loop over a doubler of an ordinary number and a zero. -/
def firstDoubling : Bench Doubler :=
  start {} (Doubler.withOperands { Context.plain with coverage := some default }
      #[⟨0x3ff0000000000000⟩, ⟨0⟩]).2
    (Doubler.withOperands { Context.plain with coverage := some default }
      #[⟨0x3ff0000000000000⟩, ⟨0⟩]).1 {}

/-- That doubler checks both in five ticks; limited to four ticks it is refused the fifth. -/
theorem doubler_run_two :
    (∃ steps last, Trail firstDoubling (runCalls "cover" none (.ok last.loop.stats)) steps last ∧
      last.loop.stats.ticks.toNat = 5 ∧ last.loop.model.checked = 2 ∧
      last.host.files.readBytes "cover" =
        .ok (Doubler.coverageText [⟨0x3ff0000000000000⟩, ⟨0⟩]).toUTF8) ∧
    ∃ steps last,
      Trail firstDoubling (runCalls "cover" (some 4) (.error (.tickLimitExceeded 4))) steps last ∧
      last.loop.context.time = 4 := by
  have built : Context.build { resetPolicy := .zeros } {} [] =
      .ok { Context.plain with coverage := some default } := rfl
  have writable : ({} : Host).files.writablePlace "cover" = .ok ["cover"] := by decide +kernel
  have few : (#[⟨0x3ff0000000000000⟩, ⟨0⟩] : Array Binary64).size < 2 ^ 63 - 1 := by decide
  have compiled : ({} : Build).coverage = true := rfl
  constructor
  · obtain ⟨finishes, -⟩ := doubler_run built rfl compiled writable few none
    obtain ⟨steps, last, trail, ticks, -, -, checked, -, -, holds, -⟩ := finishes nofun
    exact ⟨steps, last, trail, ticks, checked, holds⟩
  · obtain ⟨-, refused⟩ := doubler_run built rfl compiled writable few (some 4)
    obtain ⟨steps, last, trail, time, -⟩ := refused 4 rfl (by decide)
    exact ⟨steps, last, trail, time⟩

end CycleSim.Bench
