import CycleSim.Model.Doubler
import CycleSim.Proofs.Binary64.Doubling
import CycleSim.Proofs.Model.EdgeTriggered

/-!
# The edges of the doubler

The doubler is edge-triggered.  A doubler that was built and driven in any way is `Pipelined`: the
results it has checked and the one in its output registers are those of the operands it has
loaded, and that result is the double of its operand.  So its check never fails, and after `n`
edges it has loaded `n` operands and checked all of them but the last, as far as there are that
many.
-/

namespace CycleSim.Doubler

/-- The double of an operand passes the check. -/
lemma matchesProduct_double (operand : Binary64) :
    matchesProduct operand operand.double = true := by
  unfold matchesProduct
  rw [Binary64.double_eq_timesTwo]
  cases h : operand.timesTwo.isNaN <;> simp [h]

/-- What a rising edge does: the result is counted as checked and the next operand loaded. -/
def edge (doubler : Doubler) : Doubler :=
  { doubler with checked := doubler.checked + doubler.outValid.toNat }.load

/-- The coverage events of a rising edge. -/
def edgeEvents (doubler : Doubler) : List Coverage.Event :=
  if doubler.outValid then [.hit doubler.outOperand.classify.point] else []

/-- An edge fills the output registers while there are operands. -/
lemma edge_of_lt {doubler : Doubler} (lt : doubler.next < doubler.operands.size) :
    doubler.edge = { doubler with
      checked := doubler.checked + doubler.outValid.toNat
      outOperand := doubler.operands[doubler.next]
      outData := doubler.operands[doubler.next].double
      outValid := true
      next := doubler.next + 1 } := by
  simp [edge, load, lt]

/-- An edge without an operand leaves the output registers invalid. -/
lemma edge_of_le {doubler : Doubler} (le : doubler.operands.size ≤ doubler.next) :
    doubler.edge = { doubler with
      checked := doubler.checked + doubler.outValid.toNat
      outValid := false } := by
  simp [edge, load, le]

/-- An edge leaves the operands as they are. -/
@[simp] lemma operands_edge (doubler : Doubler) : doubler.edge.operands = doubler.operands := by
  rcases Nat.lt_or_ge doubler.next doubler.operands.size with lt | le
  · rw [edge_of_lt lt]
  · rw [edge_of_le le]

/-! ### The pipeline -/

/-- The operands loaded so far are the checked ones and the one in the output registers, which
hold its double. -/
structure Pipelined (doubler : Doubler) : Prop where
  next_eq : doubler.next = doubler.checked + doubler.outValid.toNat
  next_le : doubler.next ≤ doubler.operands.size
  outData_eq : doubler.outValid = true → doubler.outData = doubler.outOperand.double

/-- An edge keeps the pipeline in order. -/
lemma Pipelined.edge {doubler : Doubler} (pipelined : doubler.Pipelined) :
    doubler.edge.Pipelined := by
  obtain ⟨next_eq, next_le, -⟩ := pipelined
  rcases Nat.lt_or_ge doubler.next doubler.operands.size with lt | le
  · rw [edge_of_lt lt]
    exact ⟨congrArg (· + 1) next_eq, lt, fun _ => rfl⟩
  · rw [edge_of_le le]
    exact ⟨next_eq, next_le, nofun⟩

/-- A pipeline with all operands checked holds no result. -/
lemma Pipelined.outValid_eq {doubler : Doubler} (pipelined : doubler.Pipelined)
    (finished : doubler.finished = true) : doubler.outValid = false := by
  have all : doubler.checked = doubler.operands.size := beq_iff_eq.mp finished
  have next_eq := pipelined.next_eq
  have next_le := pipelined.next_le
  cases valid : doubler.outValid with
  | false => rfl
  | true =>
    rw [valid, Bool.toNat_true] at next_eq
    omega

/-- A doubler that has finished stays finished. -/
lemma Pipelined.finished_edge {doubler : Doubler} (pipelined : doubler.Pipelined)
    (finished : doubler.finished = true) : doubler.edge.finished = true := by
  have all : doubler.checked = doubler.operands.size := beq_iff_eq.mp finished
  have empty := pipelined.outValid_eq finished
  have last : doubler.operands.size ≤ doubler.next := by
    have next_eq := pipelined.next_eq
    omega
  rw [edge_of_le last, empty]
  exact finished

/-- The doubler with the registers set aside that an evaluation without an edge changes. -/
def work (doubler : Doubler) : Doubler :=
  { doubler with clock := .low, previousClock := .low, lastTime := 0 }

/-- What an evaluation does with a pipeline in order: its work at an edge, and nothing else but
to note the clock and the time. -/
lemma evaluate_eq (time : UInt64) {doubler : Doubler} (pipelined : doubler.work.Pipelined) :
    doubler.evaluate time =
      let rises := doubler.previousClock.rises doubler.clock
      { model := { (if rises then doubler.edge else doubler) with
          clock := doubler.clock, previousClock := doubler.clock, lastTime := time }
        events := if rises then doubler.edgeEvents else [] } := by
  have outData_eq := pipelined.outData_eq
  simp only [work] at outData_eq
  unfold evaluate edgeEvents edge load
  cases rises : doubler.previousClock.rises doubler.clock with
  | false => simp
  | true =>
    cases valid : doubler.outValid with
    | false => cases h : doubler.operands[doubler.next]? <;> simp [h]
    | true =>
      rw [outData_eq valid, matchesProduct_double]
      cases h : doubler.operands[doubler.next]? <;> simp [h]

/-- An edge works on the part of the doubler that is not set aside. -/
lemma work_edge (doubler : Doubler) : doubler.edge.work = doubler.work.edge := by
  unfold edge load
  cases h : doubler.operands[doubler.next]? <;> simp [work, h]

instance : EdgeTriggered Doubler where
  clock := clock
  sampled := previousClock
  work := work
  edge := edge
  edgeEvents := edgeEvents
  Sound := Pipelined
  sound_edge := Pipelined.edge
  finished_edge := Pipelined.finished_edge
  finished_work _ := rfl
  clock_setClock _ _ := rfl
  sampled_setClock _ _ := rfl
  work_setClock _ _ := rfl
  clock_evaluate := by
    intro ctx doubler pipelined
    exact congrArg (clock ∘ Evaluation.model) (evaluate_eq ctx.time pipelined)
  sampled_evaluate := by
    intro ctx doubler pipelined
    exact congrArg (previousClock ∘ Evaluation.model) (evaluate_eq ctx.time pipelined)
  draws_evaluate := by
    intro ctx doubler pipelined
    exact congrArg Evaluation.draws (evaluate_eq ctx.time pipelined)
  result_evaluate := by
    intro ctx doubler pipelined
    exact congrArg Evaluation.result (evaluate_eq ctx.time pipelined)
  work_evaluate := by
    intro ctx doubler pipelined
    have evaluation := congrArg Evaluation.model (evaluate_eq ctx.time pipelined)
    refine (congrArg work evaluation).trans ?_
    cases h : doubler.previousClock.rises doubler.clock with
    | false => rfl
    | true => exact doubler.work_edge
  events_evaluate := by
    intro ctx doubler pipelined
    exact congrArg Evaluation.events (evaluate_eq ctx.time pipelined)
  finalize_snd _ := rfl
  finalize_fst := by
    intro doubler finished
    exact if_pos finished

/-! ### After any number of edges -/

/-- A doubler that has loaded and checked nothing. -/
structure Fresh (doubler : Doubler) : Prop where
  next_eq : doubler.next = 0
  checked_eq : doubler.checked = 0
  outValid_eq : doubler.outValid = false

variable {doubler : Doubler}

/-- A doubler that was just built has loaded and checked nothing. -/
lemma fresh_withOperands (context : Context) (operands : Array Binary64) :
    (work (withOperands context operands).1).Fresh :=
  ⟨rfl, rfl, rfl⟩

/-- A pipeline without operands in it is in order. -/
lemma Fresh.pipelined (fresh : doubler.Fresh) : doubler.Pipelined where
  next_eq := by rw [fresh.next_eq, fresh.checked_eq, fresh.outValid_eq]; rfl
  next_le := by rw [fresh.next_eq]; exact Nat.zero_le _
  outData_eq := by rw [fresh.outValid_eq]; nofun

/-- Edges leave the operands as they are. -/
@[simp] lemma operands_iterate (doubler : Doubler) (n : ℕ) :
    (edge^[n] doubler).operands = doubler.operands := by
  induction n with
  | zero => rfl
  | succ n ih => rw [Function.iterate_succ_apply', operands_edge, ih]

/-- Every edge loads an operand while there are any. -/
lemma Fresh.next_iterate (fresh : doubler.Fresh) (n : ℕ) :
    (edge^[n] doubler).next = min doubler.operands.size n := by
  induction n with
  | zero => rw [Nat.min_zero]; exact fresh.next_eq
  | succ n ih =>
    rw [Function.iterate_succ_apply']
    rcases Nat.lt_or_ge (edge^[n] doubler).next (edge^[n] doubler).operands.size with lt | le
    · rw [edge_of_lt lt]
      rw [ih, operands_iterate] at lt
      show (edge^[n] doubler).next + 1 = _
      omega
    · rw [edge_of_le le]
      rw [ih, operands_iterate] at le
      show (edge^[n] doubler).next = _
      omega

/-- The output registers hold a result as long as an operand was loaded at the edge before. -/
lemma Fresh.outValid_iterate (fresh : doubler.Fresh) (n : ℕ) :
    (edge^[n + 1] doubler).outValid = decide (n < doubler.operands.size) := by
  have next := fresh.next_iterate n
  rw [Function.iterate_succ_apply']
  rcases Nat.lt_or_ge (edge^[n] doubler).next (edge^[n] doubler).operands.size with lt | le
  · rw [edge_of_lt lt]
    rw [next, operands_iterate] at lt
    exact (decide_eq_true (by omega)).symm
  · rw [edge_of_le le]
    rw [next, operands_iterate] at le
    exact (decide_eq_false (by omega)).symm

/-- One edge after it was loaded, every operand is checked. -/
lemma Fresh.checked_iterate (fresh : doubler.Fresh) (n : ℕ) :
    (edge^[n + 1] doubler).checked = min doubler.operands.size n := by
  have next := fresh.next_iterate (n + 1)
  have valid := fresh.outValid_iterate n
  have pipelined : Pipelined (edge^[n + 1] doubler) :=
    EdgeTriggered.sound_iterate (σ := Doubler) fresh.pipelined (n + 1)
  have next_eq := pipelined.next_eq
  rw [next, valid] at next_eq
  by_cases lt : n < doubler.operands.size
  · rw [decide_eq_true lt, Bool.toNat_true] at next_eq
    omega
  · rw [decide_eq_false lt, Bool.toNat_false] at next_eq
    omega

/-- A doubler has finished after one edge more than it has operands. -/
lemma Fresh.finished_iterate (fresh : doubler.Fresh) (n : ℕ) :
    (edge^[n + 1] doubler).finished = true ↔ doubler.operands.size ≤ n := by
  rw [finished, beq_iff_eq, fresh.checked_iterate, operands_iterate]
  omega

end CycleSim.Doubler
