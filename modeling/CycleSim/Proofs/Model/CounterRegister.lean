import Mathlib.Algebra.Ring.Nat
import Mathlib.Data.Nat.ModEq
import Mathlib.Tactic.Linarith
import CycleSim.Proofs.Context.Initial
import CycleSim.Proofs.Coverage.Counts
import CycleSim.Proofs.Model.Counter

/-!
# The register and the points of the counter

After `n` edges a new counter of `width` bits has counted the lesser of `n` and the number of its
cycles, its register has gone up by as many from its first value, modulo `2 ^ width`, and it has
passed from its greatest value to 0 as often as that sum divides by `2 ^ width`.
-/

namespace CycleSim.Counter

open Coverage EdgeTriggered

/-- A counter of `width` bits that has counted nothing. -/
structure Fresh (width : UInt32) (counter : Counter) : Prop where
  mask_eq : counter.mask = widthMask width
  cycles_eq : counter.cycles = 0
  value_lt : counter.value.toNat < 2 ^ registerWidth width

/-- A counter that was just built has counted nothing. -/
lemma fresh_build (context : Context) (width : UInt32) (cycles : UInt64) :
    Fresh width (work (build context width cycles).1) :=
  ⟨rfl, rfl, Context.toNat_registerBits_lt _ width⟩

variable {width : UInt32} {counter : Counter} {n : ℕ}

/-- The cycles that a counter has counted after `n` edges. -/
def counted (counter : Counter) (n : ℕ) : ℕ :=
  min counter.finishAfter.toNat n

/-- An edge leaves the bits of the register as they are. -/
lemma mask_edge (counter : Counter) : counter.edge.mask = counter.mask := by
  unfold edge
  split <;> rfl

/-- Edges leave the bits of the register as they are. -/
lemma mask_iterate (counter : Counter) (n : ℕ) : (edge^[n] counter).mask = counter.mask := by
  induction n with
  | zero => rfl
  | succ n ih => rw [Function.iterate_succ_apply', mask_edge, ih]

/-- The value that the register of an unfinished counter takes at an edge. -/
lemma Fresh.toNat_next (fresh : Fresh width counter) (n : ℕ) :
    (((edge^[n] counter).value + 1) &&& (edge^[n] counter).mask).toNat =
      ((edge^[n] counter).value.toNat + 1) % 2 ^ registerWidth width := by
  rw [mask_iterate, fresh.mask_eq, toNat_and_widthMask, UInt64.toNat_add]
  exact Nat.mod_mod_of_dvd _ (Nat.pow_dvd_pow 2 (registerWidth_le width))

/-- The edges of a counter that has not finished are counted. -/
lemma Fresh.edge_of_lt (fresh : Fresh width counter) (lt : n < counter.finishAfter.toNat) :
    (edge^[n] counter).finished = false ∧ counter.counted n = n ∧
      counter.counted (n + 1) = n + 1 := by
  refine ⟨?_, Nat.min_eq_right (Nat.le_of_lt lt), Nat.min_eq_right lt⟩
  rw [Bool.eq_false_iff, Ne, finished_iterate fresh.cycles_eq]
  omega

/-- The edges of a counter that has finished are not counted. -/
lemma Fresh.edge_of_le (fresh : Fresh width counter) (le : counter.finishAfter.toNat ≤ n) :
    (edge^[n] counter).finished = true ∧ counter.counted (n + 1) = counter.counted n := by
  refine ⟨(finished_iterate fresh.cycles_eq n).mpr le, ?_⟩
  rw [counted, counted, Nat.min_eq_left le, Nat.min_eq_left (Nat.le_succ_of_le le)]

/-- The register goes up by one with every counted edge and wraps at its width. -/
theorem Fresh.value_iterate (fresh : Fresh width counter) (n : ℕ) :
    (edge^[n] counter).value.toNat =
      (counter.value.toNat + counter.counted n) % 2 ^ registerWidth width := by
  induction n with
  | zero =>
    rw [counted, Nat.min_zero]
    exact (Nat.mod_eq_of_lt fresh.value_lt).symm
  | succ n ih =>
    rw [Function.iterate_succ_apply']
    rcases Nat.lt_or_ge n counter.finishAfter.toNat with lt | le
    · obtain ⟨unfinished, now, next⟩ := fresh.edge_of_lt lt
      rw [edge, unfinished, next]
      show (((edge^[n] counter).value + 1) &&& (edge^[n] counter).mask).toNat = _
      rw [fresh.toNat_next, ih, now, Nat.mod_add_mod, Nat.add_assoc]
    · obtain ⟨finished, same⟩ := fresh.edge_of_le le
      rw [edge, if_pos finished, ih, same]

/-! ### Coverage -/

/-- The points of a counter, which are declared when it is built. -/
def points : List String :=
  [edgePoint, wrapPoint]

/-- A counter that is built where no coverage was recorded leaves its two points in the database. -/
lemma coverage_build {context : Context} (empty : context.coverage = some default) (width : UInt32)
    (cycles : UInt64) :
    (build context width cycles).2.coverage =
      some ((default : Database).recordAll (points.map .declare)) :=
  (Context.coverage_skipDraws _ _).trans (Context.coverage_record empty _)

/-- A counter records hits on its two points only. -/
lemma point_of_mem_trace {event : Event} (mem : event ∈ trace counter n) :
    event.point ∈ points := by
  obtain ⟨k, -, mem⟩ := List.mem_flatMap.mp mem
  have mem : event ∈ edgeEvents (EdgeTriggered.edge^[k] counter) := mem
  unfold edgeEvents at mem
  split at mem
  · exact absurd mem List.not_mem_nil
  · rcases List.mem_cons.mp mem with rfl | mem
    · exact List.mem_cons_self
    · split at mem
      · rw [List.mem_singleton.mp mem]
        exact List.mem_cons_of_mem _ List.mem_cons_self
      · exact absurd mem List.not_mem_nil

/-- Every counted edge hits the first point. -/
theorem Fresh.total_edgePoint (fresh : Fresh width counter) (n : ℕ) :
    total (trace counter n) edgePoint = counter.counted n := by
  induction n with
  | zero => rw [counted, Nat.min_zero]; rfl
  | succ n ih =>
    rw [trace_succ, total_append, ih]
    show _ + total (edgeEvents (edge^[n] counter)) edgePoint = _
    rcases Nat.lt_or_ge n counter.finishAfter.toNat with lt | le
    · obtain ⟨unfinished, now, next⟩ := fresh.edge_of_lt lt
      rw [edgeEvents, unfinished, now, next]
      have other : wrapPoint ≠ edgePoint := by decide
      split
      · contradiction
      · split <;> simp [Event.hit, Event.point, Event.amount, other]
    · obtain ⟨finished, same⟩ := fresh.edge_of_le le
      rw [edgeEvents, if_pos finished, same, total_nil, Nat.add_zero]

/-- The second point is hit as often as the register has wrapped. -/
theorem Fresh.total_wrapPoint (fresh : Fresh width counter) (n : ℕ) :
    total (trace counter n) wrapPoint =
      (counter.value.toNat + counter.counted n) / 2 ^ registerWidth width := by
  induction n with
  | zero =>
    rw [counted, Nat.min_zero, Nat.add_zero, Nat.div_eq_of_lt fresh.value_lt]
    rfl
  | succ n ih =>
    rw [trace_succ, total_append, ih]
    show _ + total (edgeEvents (edge^[n] counter)) wrapPoint = _
    rcases Nat.lt_or_ge n counter.finishAfter.toNat with lt | le
    · obtain ⟨unfinished, now, next⟩ := fresh.edge_of_lt lt
      have other : edgePoint ≠ wrapPoint := by decide
      -- The register wraps where the sum comes to a multiple of its range.
      have wraps : ((edge^[n] counter).value + 1) &&& (edge^[n] counter).mask = 0 ↔
          2 ^ registerWidth width ∣ counter.value.toNat + n + 1 := by
        rw [← UInt64.toNat_inj, fresh.toNat_next, fresh.value_iterate, now, Nat.mod_add_mod,
          Nat.dvd_iff_mod_eq_zero]
        rfl
      rw [edgeEvents, unfinished, now, next, ← Nat.add_assoc, Nat.succ_div]
      by_cases wrap : 2 ^ registerWidth width ∣ counter.value.toNat + n + 1
      · simp [wraps.mpr wrap, wrap, Event.hit, Event.point, Event.amount, other]
      · simp [mt wraps.mp wrap, wrap, Event.hit, Event.point, other]
    · obtain ⟨finished, same⟩ := fresh.edge_of_le le
      rw [edgeEvents, if_pos finished, same, total_nil, Nat.add_zero]

/-- The register wraps less often than a word can count. -/
lemma Fresh.wraps_lt (fresh : Fresh width counter) (n : ℕ) :
    (counter.value.toNat + counter.counted n) / 2 ^ registerWidth width < 2 ^ 64 := by
  have value := fresh.value_lt
  have counted : counter.counted n < 2 ^ 64 :=
    Nat.lt_of_le_of_lt (Nat.min_le_left _ _) counter.finishAfter.toNat_lt
  have pos := Nat.two_pow_pos (registerWidth width)
  rw [Nat.div_lt_iff_lt_mul pos]
  generalize 2 ^ registerWidth width = range at *
  nlinarith

/-- Neither point is hit more often than a word can count. -/
lemma Fresh.total_lt (fresh : Fresh width counter) (n : ℕ) {name : String}
    (known : name ∈ points) : total (trace counter n) name < 2 ^ 64 := by
  rcases List.mem_cons.mp known with rfl | known
  · rw [fresh.total_edgePoint]
    exact Nat.lt_of_le_of_lt (Nat.min_le_left _ _) counter.finishAfter.toNat_lt
  · rw [List.mem_singleton.mp known, fresh.total_wrapPoint]
    exact fresh.wraps_lt n

/-- The database after `n` edges of a new counter, filled from nothing. -/
def database (counter : Counter) (n : ℕ) : Database :=
  (default : Database).recordAll (points.map .declare ++ trace counter n)

/-- The coverage text of a counter. -/
def coverageText (edges wraps : ℕ) : String :=
  String.join ["# rtl-harness coverage v1\n",
    "C 'counter.rising_edge' " ++ toString edges ++ "\n",
    "C 'counter.wrap' " ++ toString wraps ++ "\n"]

/-- The coverage of a counter has two points. -/
lemma size_database (counter : Counter) (n : ℕ) : (database counter n).size = 2 := by
  rw [Database.size, database,
    Database.points_declared (.refl _) (by decide) fun _ => point_of_mem_trace]
  rfl

/-- The counts of the two points are the exact numbers of their hits. -/
theorem Fresh.count?_database (fresh : Fresh width counter) (n : ℕ) {name : String}
    (known : name ∈ points) :
    ((database counter n).count? name).map UInt64.toNat = some (total (trace counter n) name) := by
  rw [database, Database.count?_declared fun _ => point_of_mem_trace, if_pos known,
    Option.map_some, toNat_clamped_of_lt (fresh.total_lt n known)]

/-- The coverage text of a counter tells its counted edges and its wraps. -/
theorem Fresh.text_database (fresh : Fresh width counter) (n : ℕ) :
    (database counter n).text = coverageText (counter.counted n)
      ((counter.value.toNat + counter.counted n) / 2 ^ registerWidth width) := by
  have edges := fresh.total_edgePoint n
  have wraps := fresh.total_wrapPoint n
  have first : "C '" ++ edgePoint ++ "' " = "C 'counter.rising_edge' " := by decide
  have second : "C '" ++ wrapPoint ++ "' " = "C 'counter.wrap' " := by decide
  rw [database, Database.text_declared (.refl _) (by decide) (by decide)
    (fun _ => point_of_mem_trace) fun _ => fresh.total_lt n, points, List.map_cons,
    List.map_singleton, edges, wraps, first, second, coverageText]

end CycleSim.Counter
