import Mathlib.Algebra.BigOperators.Group.List.Basic
import Mathlib.Algebra.Ring.Nat
import CycleSim.Proofs.Context.Initial
import CycleSim.Proofs.Coverage.Counts
import CycleSim.Proofs.Model.Doubler

/-!
# The points of the doubler

One edge after it was loaded an operand is checked and hits the point of its class, so after
`n + 1` edges a new doubler has hit the points of its first `n` operands (`Fresh.trace_succ_eq`).
Its coverage text tells of each class how many operands are in it, and every operand is in one
class.
-/

namespace CycleSim

namespace Binary64.Class

/-- All classes, in the order of the names of their points. -/
def byName : List Class :=
  [.denormal, .infinity, .nan, .normal, .overflow, .zero]

/-- Every class is among them. -/
lemma mem_byName (c : Class) : c ∈ byName := by
  cases c <;> decide

/-- Classes have different points. -/
lemma point_inj {c d : Class} : c.point = d.point ↔ c = d := by
  constructor
  · cases c <;> cases d <;> decide
  · exact congrArg point

end Binary64.Class

namespace Doubler

open Coverage EdgeTriggered

variable {doubler : Doubler}

/-- An edge loads the next operand. -/
lemma outOperand_edge {operand : Binary64}
    (found : doubler.operands[doubler.next]? = some operand) :
    doubler.edge.outOperand = operand := by
  rw [edge, load]
  simp only [found]

/-- The output registers hold the operand that was loaded at the edge before. -/
lemma Fresh.outOperand_iterate (fresh : doubler.Fresh) {n : ℕ}
    (lt : n < doubler.operands.size) : (edge^[n + 1] doubler).outOperand = doubler.operands[n] := by
  have next := fresh.next_iterate n
  rw [Nat.min_eq_right (Nat.le_of_lt lt)] at next
  rw [Function.iterate_succ_apply']
  apply outOperand_edge
  rw [operands_iterate, next, Array.getElem?_eq_getElem lt]

/-- The first edge finds nothing to check. -/
lemma Fresh.edgeEvents_zero (fresh : doubler.Fresh) : doubler.edgeEvents = [] := by
  rw [edgeEvents, fresh.outValid_eq]
  rfl

/-- Every further edge checks the operand that the edge before has loaded. -/
lemma Fresh.edgeEvents_succ (fresh : doubler.Fresh) (n : ℕ) :
    (edge^[n + 1] doubler).edgeEvents =
      (doubler.operands[n]?.map fun operand => Event.hit operand.classify.point).toList := by
  rw [edgeEvents, fresh.outValid_iterate]
  by_cases lt : n < doubler.operands.size
  · rw [Array.getElem?_eq_getElem lt, decide_eq_true lt, fresh.outOperand_iterate lt]
    rfl
  · rw [Array.getElem?_eq_none (Nat.not_lt.mp lt), decide_eq_false lt]
    rfl

/-- The hits on the classes of operands. -/
def classHits (operands : List Binary64) : List Event :=
  operands.map fun operand => .hit operand.classify.point

/-- The operands checked in `n + 1` edges are the first `n`. -/
theorem Fresh.trace_succ_eq (fresh : doubler.Fresh) (n : ℕ) :
    trace doubler (n + 1) = classHits (doubler.operands.toList.take n) := by
  induction n with
  | zero => exact (List.append_nil _).trans fresh.edgeEvents_zero
  | succ n ih =>
    have events : EdgeTriggered.edgeEvents (EdgeTriggered.edge^[n + 1] doubler) = _ :=
      fresh.edgeEvents_succ n
    rw [trace_succ, ih, events, List.take_add_one, classHits, classHits, List.map_append,
      Array.getElem?_toList]
    cases doubler.operands[n]? <;> rfl

/-- The results checked after any number of edges are those of the first operands. -/
theorem Fresh.trace_eq (fresh : doubler.Fresh) (n : ℕ) :
    trace doubler n = classHits (doubler.operands.toList.take (edge^[n] doubler).checked) := by
  cases n with
  | zero =>
    have none : (edge^[0] doubler).checked = 0 := fresh.checked_eq
    rw [none]
    rfl
  | succ n =>
    rw [fresh.trace_succ_eq, fresh.checked_iterate, ← Array.length_toList, Nat.min_comm,
      ← List.take_eq_take_min]

/-- Each class is hit as often as it occurs. -/
lemma total_classHits (operands : List Binary64) (c : Binary64.Class) :
    total (classHits operands) c.point = operands.countP (·.classify = c) := by
  induction operands with
  | nil => rfl
  | cons operand operands ih =>
    have events : classHits (operand :: operands) =
        .hit operand.classify.point :: classHits operands := rfl
    rw [events, total_cons, ih, List.countP_cons, Nat.add_comm]
    have same : (Event.hit operand.classify.point).point = c.point ↔ operand.classify = c :=
      Binary64.Class.point_inj
    by_cases here : operand.classify = c
    · rw [if_pos (same.mpr here), if_pos (decide_eq_true here)]
      rfl
    · rw [if_neg (mt same.mp here), if_neg (by simpa using here)]

/-- Every operand is in one class. -/
theorem sum_countP_classify (operands : List Binary64) :
    (Binary64.Class.byName.map fun c => operands.countP (·.classify = c)).sum =
      operands.length := by
  induction operands with
  | nil => rfl
  | cons operand operands ih =>
    have split (c : Binary64.Class) : (operand :: operands).countP (·.classify = c) =
        operands.countP (·.classify = c) + if operand.classify = c then 1 else 0 := by
      rw [List.countP_cons]
      simp
    have one :
        (Binary64.Class.byName.map fun c => if operand.classify = c then 1 else 0).sum = 1 := by
      generalize operand.classify = c
      cases c <;> rfl
    simp only [split, List.sum_map_add, ih, one, List.length_cons]

/-! ### Coverage text -/

/-- The points of a doubler in the order in which they are declared when it is built. -/
def points : List String :=
  Binary64.Class.all.map (·.point)

/-- The database of a doubler that has checked these operands, filled from nothing. -/
def database (operands : List Binary64) : Database :=
  (default : Database).recordAll (points.map .declare ++ classHits operands)

/-- The coverage text of a doubler that has checked these operands. -/
def coverageText (operands : List Binary64) : String :=
  String.join ("# rtl-harness coverage v1\n" :: Binary64.Class.byName.map fun c =>
    "C '" ++ c.point ++ "' " ++ toString (operands.countP (·.classify = c)) ++ "\n")

/-- A doubler that is built where no coverage was recorded leaves its six points in the database. -/
lemma coverage_withOperands {context : Context} (empty : context.coverage = some default)
    (operands : Array Binary64) :
    (withOperands context operands).2.coverage =
      some ((default : Database).recordAll (points.map .declare)) := by
  refine (Context.coverage_skipDraws _ _).trans ((Context.coverage_skipDraws _ _).trans ?_)
  exact Context.coverage_record empty _

/-- The points of the classes in the order of their names are those that are declared. -/
lemma points_perm : points.Perm (Binary64.Class.byName.map (·.point)) := by
  decide

/-- Operands hit the points of the classes only. -/
lemma point_of_mem_classHits {operands : List Binary64} {event : Event}
    (mem : event ∈ classHits operands) : event.point ∈ Binary64.Class.byName.map (·.point) := by
  obtain ⟨operand, -, rfl⟩ := List.mem_map.mp mem
  exact List.mem_map_of_mem (Binary64.Class.mem_byName operand.classify)

/-- These points are declared when the doubler is built. -/
lemma declared_of_mem_classHits {operands : List Binary64} {event : Event}
    (mem : event ∈ classHits operands) : event.point ∈ points :=
  points_perm.mem_iff.mpr (point_of_mem_classHits mem)

/-- The coverage of a doubler has six points. -/
lemma size_database (operands : List Binary64) : (database operands).size = 6 := by
  rw [Database.size, database,
    Database.points_declared points_perm (by decide) fun _ => point_of_mem_classHits]
  rfl

/-- Fewer operands than a word can count hit no class more often than that. -/
lemma total_classHits_lt {operands : List Binary64} (few : operands.length < 2 ^ 64)
    (c : Binary64.Class) : total (classHits operands) c.point < 2 ^ 64 := by
  rw [total_classHits]
  exact Nat.lt_of_le_of_lt List.countP_le_length few

/-- The coverage of a doubler counts of each class how many operands are in it. -/
theorem count?_database {operands : List Binary64} (few : operands.length < 2 ^ 64)
    (c : Binary64.Class) :
    ((database operands).count? c.point).map UInt64.toNat =
      some (operands.countP (·.classify = c)) := by
  have declared : c.point ∈ points :=
    points_perm.mem_iff.mpr (List.mem_map_of_mem (Binary64.Class.mem_byName c))
  rw [database, Database.count?_declared fun _ => declared_of_mem_classHits, if_pos declared,
    Option.map_some, toNat_clamped_of_lt (total_classHits_lt few c), total_classHits]

/-- The coverage of a doubler has no points but those of the classes. -/
lemma count?_database_of_ne (operands : List Binary64) {name : String}
    (other : ∀ c : Binary64.Class, c.point ≠ name) : (database operands).count? name = none := by
  have undeclared : name ∉ points := by
    intro mem
    obtain ⟨c, -, same⟩ := List.mem_map.mp mem
    exact other c same
  rw [database, Database.count?_declared fun _ => declared_of_mem_classHits, if_neg undeclared]

/-- The coverage text of a doubler tells of each class how many operands are in it. -/
theorem text_database {operands : List Binary64} (few : operands.length < 2 ^ 64) :
    (database operands).text = coverageText operands := by
  have few' : ∀ name ∈ Binary64.Class.byName.map (·.point),
      total (classHits operands) name < 2 ^ 64 := by
    intro name mem
    obtain ⟨c, -, rfl⟩ := List.mem_map.mp mem
    exact total_classHits_lt few c
  rw [database, Database.text_declared points_perm (by decide) (by decide)
    (fun _ => point_of_mem_classHits) few', coverageText, List.map_map]
  congr 2
  refine List.map_congr_left fun c _ => ?_
  rw [Function.comp_apply, total_classHits]

end Doubler

end CycleSim
