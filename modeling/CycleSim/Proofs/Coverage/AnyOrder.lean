import Mathlib.Data.Finset.Card
import CycleSim.Proofs.Coverage.Counts

/-!
# Events in any order

A database that was filled from nothing has one point for each name that the events use, and its
count is the exact sum of the hits brought to the name, up to the greatest 64-bit number.  None of
this depends on the order of the events: the clamped sums are those of a multiset, and the points
stand in the order of their names whatever came first.  So events in another order leave the same
database and the same text (`recorded_in_any_order`).
-/

namespace CycleSim.Coverage

variable {events events' : List Event} {name : String}

/-- The names that events use. -/
def usedNames (events : List Event) : Finset String :=
  (events.map (·.point)).toFinset

lemma mem_usedNames : name ∈ usedNames events ↔ ∃ event ∈ events, event.point = name := by
  rw [usedNames, List.mem_toFinset, List.mem_map]

/-- Only where there are no events, no names are used. -/
lemma usedNames_eq_empty_iff : usedNames events = ∅ ↔ events = [] := by
  rw [usedNames, List.toFinset_eq_empty_iff, List.map_eq_nil_iff]

/-- Sums do not depend on the order of the events. -/
lemma total_perm (perm : events.Perm events') (name : String) :
    total events name = total events' name :=
  ((perm.filter _).map _).sum_nat

/-- A clamped number is positive exactly if the number is. -/
lemma clamped_pos_iff {n : ℕ} : 0 < clamped n ↔ 0 < n := by
  rw [UInt64.lt_iff_toNat_lt, toNat_clamped, UInt64.toNat_zero]
  omega

namespace Database

/-- As many points of a database meet a condition as there are names whose counts meet it. -/
lemma countP_eq_card (db : Database) (p : UInt64 → Bool) {names : Finset String}
    (counted : ∀ name, name ∈ names ↔ ∃ count, db.count? name = some count ∧ p count = true) :
    db.points.countP (p ·.2) = names.card := by
  have nodup : ((db.points.filter (p ·.2)).map Prod.fst).Nodup :=
    db.nodup_names.sublist (List.filter_sublist.map _)
  have same : ((db.points.filter (p ·.2)).map Prod.fst).toFinset = names := by
    ext name
    rw [counted, List.mem_toFinset, List.mem_map]
    constructor
    · rintro ⟨⟨_, count⟩, mem, rfl⟩
      obtain ⟨there, meets⟩ := List.mem_filter.mp mem
      exact ⟨count, (mem_iff_lookup db.sorted).mp there, meets⟩
    · rintro ⟨count, found, meets⟩
      exact ⟨(name, count), List.mem_filter.mpr ⟨(mem_iff_lookup db.sorted).mpr found, meets⟩, rfl⟩
  rw [← same, List.toFinset_card_of_nodup nodup, List.length_map, List.countP_eq_length_filter]

/-- Events fill an empty database with the clamped sums of their hits. -/
lemma count?_filled (events : List Event) (name : String) :
    ((default : Database).recordAll events).count? name =
      if name ∈ usedNames events then some (clamped (total events name)) else none := by
  have empty : (default : Database).count? name = none := rfl
  rw [count?_recordAll, empty]
  simp only [mem_usedNames, Option.getD_none, UInt64.toNat_zero, Nat.zero_add]

/-- The names that events use are the ones that are counted. -/
lemma mem_usedNames_iff_count? : name ∈ usedNames events ↔
    ∃ count, ((default : Database).recordAll events).count? name = some count := by
  rw [count?_filled]
  split <;> simp_all

/-- Each used name has one point. -/
theorem size_filled (events : List Event) :
    ((default : Database).recordAll events).size = (usedNames events).card := by
  rw [size, ← List.countP_true, ← countP_eq_card _ fun _ => true]
  intro name
  simp only [mem_usedNames_iff_count?, and_true]

/-- The points with hits are those whose sums are positive. -/
theorem covered_filled (events : List Event) :
    ((default : Database).recordAll events).covered =
      ((usedNames events).filter fun name => 0 < total events name).card := by
  refine countP_eq_card _ (fun count => 0 < count) fun name => ?_
  rw [Finset.mem_filter, count?_filled]
  by_cases used : name ∈ usedNames events
  · simp [used, clamped_pos_iff]
  · simp [used]

/-- A database is empty exactly if nothing was recorded. -/
theorem isEmpty_filled_iff (events : List Event) :
    ((default : Database).recordAll events).isEmpty = true ↔ events = [] := by
  have none : ((default : Database).recordAll events).isEmpty = true ↔
      ((default : Database).recordAll events).size = 0 := by
    rw [isEmpty, size, List.isEmpty_iff, List.length_eq_zero_iff]
  rw [none, size_filled, Finset.card_eq_zero, usedNames_eq_empty_iff]

/-- Events in another order leave the same database, whatever it was filled with before. -/
theorem recordAll_perm (db : Database) (perm : events.Perm events') :
    db.recordAll events = db.recordAll events' := by
  refine ext_count? fun name => ?_
  rw [count?_recordAll, count?_recordAll, total_perm perm]
  simp only [perm.mem_iff]

/-- A database that was filled from nothing counts a name if some event used it, by the exact sum of
its hits up to the greatest 64-bit number.  It has as many points as names were used, as many of
them covered as have a positive sum, and none only if nothing was recorded.  Events in another order
leave the same database and the same bytes of its text. -/
theorem recorded_in_any_order (events : List Event) :
    let db := (default : Database).recordAll events
    (∀ name, db.count? name = none ↔ ∀ event ∈ events, event.point ≠ name) ∧
    (∀ event ∈ events, (db.count? event.point).map UInt64.toNat =
      some (min (2 ^ 64 - 1) (total events event.point))) ∧
    db.size = (usedNames events).card ∧
    db.covered = ((usedNames events).filter fun name => 0 < total events name).card ∧
    (db.isEmpty = true ↔ events = []) ∧
    ∀ events', events.Perm events' →
      (default : Database).recordAll events' = db ∧
        ((default : Database).recordAll events').text.toUTF8 = db.text.toUTF8 := by
  intro db
  refine ⟨fun name => ?_, fun event mem => ?_, size_filled events, covered_filled events,
    isEmpty_filled_iff events, fun events' perm => ?_⟩
  · rw [count?_filled, ite_eq_right_iff]
    simp only [mem_usedNames, reduceCtorEq, imp_false, not_exists, not_and]
  · have used : event.point ∈ usedNames events := mem_usedNames.mpr ⟨event, mem, rfl⟩
    rw [count?_filled, if_pos used, Option.map_some, toNat_clamped, Nat.min_comm]
  · have same : (default : Database).recordAll events' = db := (recordAll_perm _ perm).symm
    exact ⟨same, by rw [same]⟩

/-- Hits beyond the greatest count, with a point that is declared behind its hit. -/
def saturating : List Event :=
  [.hit "a", .add "b" 0xffffffffffffffff, .hit "b", .declare "a", .declare "c"]

/-- In the reverse order these events leave the same counts, of which one is the greatest, and two
of their three points are covered. -/
theorem recorded_in_any_order_saturating :
    (default : Database).recordAll saturating.reverse = (default : Database).recordAll saturating ∧
    (((default : Database).recordAll saturating).count? "b").map UInt64.toNat =
      some (min (2 ^ 64 - 1) (2 ^ 64)) ∧
    ((default : Database).recordAll saturating).count? "d" = none ∧
    ((default : Database).recordAll saturating).covered = 2 := by
  obtain ⟨uncounted, counted, -, covered, -, ordered⟩ := recorded_in_any_order saturating
  refine ⟨(ordered _ saturating.reverse_perm.symm).1, ?_, (uncounted "d").mpr (by decide), ?_⟩
  · exact counted (.hit "b") (by decide)
  · rw [covered]
    decide

end Database

end CycleSim.Coverage
