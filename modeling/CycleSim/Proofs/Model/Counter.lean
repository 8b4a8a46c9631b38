import CycleSim.Model.Counter
import CycleSim.Proofs.Model.EdgeTriggered

/-!
# The edges of the counter

The counter is edge-triggered, and after `n` edges it has counted `n` cycles, or all of its cycles
if these are fewer.
-/

namespace CycleSim.Counter

/-- What a rising edge does: a counter that has not finished counts it. -/
def edge (counter : Counter) : Counter :=
  if counter.finished then counter
  else { counter with
    value := (counter.value + 1) &&& counter.mask
    cycles := counter.cycles + 1 }

/-- The coverage events of a rising edge. -/
def edgeEvents (counter : Counter) : List Coverage.Event :=
  if counter.finished then []
  else .hit edgePoint :: if (counter.value + 1) &&& counter.mask = 0 then [.hit wrapPoint] else []

instance : EdgeTriggered Counter where
  clock := clock
  sampled := previousClock
  work counter := { counter with clock := .low, previousClock := .low }
  edge := edge
  edgeEvents := edgeEvents
  Sound _ := True
  sound_edge _ := trivial
  finished_edge := by
    intro counter _ finished
    have done : counter.finished = true := finished
    show counter.edge.finished = true
    rw [edge, if_pos done]
    exact done
  finished_work _ := rfl
  clock_setClock _ _ := rfl
  sampled_setClock _ _ := rfl
  work_setClock _ _ := rfl
  clock_evaluate := by
    intro _ counter _
    show counter.evaluate.model.clock = _
    unfold evaluate
    split <;> rfl
  sampled_evaluate := by
    intro _ counter _
    show counter.evaluate.model.previousClock = _
    unfold evaluate
    split <;> rfl
  draws_evaluate := by
    intro _ counter _
    show counter.evaluate.draws = 0
    unfold evaluate
    split <;> rfl
  result_evaluate := by
    intro _ counter _
    show counter.evaluate.result = .ok ()
    unfold evaluate
    split <;> rfl
  work_evaluate := by
    intro _ counter _
    simp only [DeviceModel.evaluate, evaluate, edge]
    cases counter.previousClock.rises counter.clock <;> cases h : counter.finished <;>
      simp_all [finished]
  events_evaluate := by
    intro _ counter _
    simp only [DeviceModel.evaluate, evaluate, edgeEvents]
    cases counter.previousClock.rises counter.clock <;> cases h : counter.finished <;>
      simp_all [finished]
  finalize_snd _ := rfl
  finalize_fst _ := rfl

/-- An edge leaves the number of cycles to count as it is. -/
@[simp] lemma finishAfter_edge (counter : Counter) :
    counter.edge.finishAfter = counter.finishAfter := by
  unfold edge
  split <;> rfl

/-- Edges leave the number of cycles to count as it is. -/
@[simp] lemma finishAfter_iterate (counter : Counter) (n : ℕ) :
    (edge^[n] counter).finishAfter = counter.finishAfter := by
  induction n with
  | zero => rfl
  | succ n ih => rw [Function.iterate_succ_apply', finishAfter_edge, ih]

/-- A counter that starts at no cycles has counted its edges, up to the number it is to count. -/
lemma cycles_iterate {counter : Counter} (fresh : counter.cycles = 0) (n : ℕ) :
    (edge^[n] counter).cycles.toNat = min counter.finishAfter.toNat n := by
  induction n with
  | zero => simp [fresh]
  | succ n ih =>
    have limit := counter.finishAfter.toNat_lt
    rw [Function.iterate_succ_apply', edge]
    by_cases done : (edge^[n] counter).finished = true
    · have reached : counter.finishAfter.toNat ≤ min counter.finishAfter.toNat n := by
        rw [← ih, ← UInt64.le_iff_toNat_le, ← finishAfter_iterate counter n]
        exact of_decide_eq_true done
      rw [if_pos done, ih]
      omega
    · have below : min counter.finishAfter.toNat n < counter.finishAfter.toNat := by
        rw [← ih, ← UInt64.lt_iff_toNat_lt, ← finishAfter_iterate counter n]
        exact UInt64.not_le.mp fun le => done (decide_eq_true le)
      rw [if_neg done, UInt64.toNat_add, ih]
      show (min counter.finishAfter.toNat n + 1) % 2 ^ 64 = _
      omega

/-- A counter has finished as soon as it has had as many edges as it is to count. -/
lemma finished_iterate {counter : Counter} (fresh : counter.cycles = 0) (n : ℕ) :
    (edge^[n] counter).finished = true ↔ counter.finishAfter.toNat ≤ n := by
  rw [finished, decide_eq_true_iff, UInt64.le_iff_toNat_le, cycles_iterate fresh,
    finishAfter_iterate]
  omega

end CycleSim.Counter
