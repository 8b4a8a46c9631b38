/-!
# The coverage database

Device models record hits on named coverage points.  A database is a list of points and counts in
strictly increasing order of names, so two databases with the same counts are equal.  `record`
takes one event: declaring a point makes it appear with the count it has, and hits are added up to
the greatest 64-bit count and no further.  `count?_record` says what an event does to each count.
-/

namespace CycleSim.Coverage

/-- What a device model tells the database. -/
inductive Event where
  /-- The point exists, whether it is ever hit or not. -/
  | declare (point : String)
  /-- The point was hit `count` times. -/
  | add (point : String) (count : UInt64)
  deriving DecidableEq, Repr

namespace Event

/-- One hit on a point. -/
def hit (point : String) : Event :=
  .add point 1

/-- The point an event is about. -/
def point : Event → String
  | declare point => point
  | add point _ => point

/-- The hits an event brings. -/
def amount : Event → UInt64
  | declare _ => 0
  | add _ count => count

end Event

/-- Sum of two counts, at most the greatest 64-bit number. -/
def saturatingAdd (a b : UInt64) : UInt64 :=
  if a + b < a then 0xffffffffffffffff else a + b

@[simp] theorem zero_saturatingAdd (count : UInt64) : saturatingAdd 0 count = count := by
  simp [saturatingAdd]

theorem toNat_saturatingAdd (a b : UInt64) :
    (saturatingAdd a b).toNat = min (a.toNat + b.toNat) 0xffffffffffffffff := by
  have ha := a.toNat_lt
  have hb := b.toNat_lt
  unfold saturatingAdd
  split <;> rename_i h <;> rw [UInt64.lt_iff_toNat_lt, UInt64.toNat_add] at h
  · simp; omega
  · rw [UInt64.toNat_add]; omega

/-- A point's name and its count. -/
abbrev Point := String × UInt64

/-- Adds `amount` to the count of a name in a sorted list of points, where a missing name counts
as 0. -/
def addTo (name : String) (amount : UInt64) : List Point → List Point
  | [] => [(name, amount)]
  | (other, count) :: rest =>
    if name < other then (name, amount) :: (other, count) :: rest
    else if name = other then (other, saturatingAdd count amount) :: rest
    else (other, count) :: addTo name amount rest

theorem mem_addTo {name : String} {amount : UInt64} {points : List Point} {p : Point}
    (h : p ∈ addTo name amount points) : p.1 = name ∨ ∃ q ∈ points, q.1 = p.1 := by
  induction points with
  | nil => simp_all [addTo]
  | cons head rest ih =>
    obtain ⟨other, count⟩ := head
    rw [addTo] at h
    split at h
    · grind
    · split at h
      · grind
      · rcases List.mem_cons.mp h with rfl | h
        · exact .inr ⟨_, List.mem_cons_self, rfl⟩
        · rcases ih h with h | ⟨q, hq, hp⟩
          · exact .inl h
          · exact .inr ⟨q, List.mem_cons_of_mem _ hq, hp⟩

theorem sorted_addTo (name : String) (amount : UInt64) {points : List Point}
    (h : points.Pairwise (·.1 < ·.1)) : (addTo name amount points).Pairwise (·.1 < ·.1) := by
  induction points with
  | nil => simp [addTo]
  | cons head rest ih =>
    obtain ⟨other, count⟩ := head
    obtain ⟨first, tail⟩ := List.pairwise_cons.mp h
    rw [addTo]
    split
    · rename_i less
      refine List.pairwise_cons.mpr ⟨fun p hp => ?_, h⟩
      rcases List.mem_cons.mp hp with rfl | hp
      · exact less
      · exact String.lt_trans less (first p hp)
    · split
      · exact List.pairwise_cons.mpr ⟨first, tail⟩
      · rename_i notLess notEqual
        have greater : other < name := by
          apply String.not_le.mp
          intro le
          exact notEqual (String.le_antisymm le (String.not_lt.mp notLess))
        refine List.pairwise_cons.mpr ⟨fun p hp => ?_, ih tail⟩
        rcases mem_addTo hp with eq | ⟨q, hq, eq⟩
        · exact eq ▸ greater
        · exact eq ▸ first q hq

theorem lookup_cons_eq (name other : String) (count : UInt64) (rest : List Point) :
    ((other, count) :: rest).lookup name =
      if name = other then some count else rest.lookup name := by
  rw [List.lookup_cons]
  by_cases h : name = other <;> simp [h, beq_eq_false_iff_ne.mpr]

theorem lookup_eq_none_of_forall_lt {name : String} {points : List Point}
    (h : ∀ p ∈ points, name < p.1) : points.lookup name = none := by
  refine List.lookup_eq_none_iff.mpr fun p hp => ?_
  rw [bne_iff_ne]
  rintro rfl
  exact String.lt_irrefl _ (h p hp)

theorem lookup_addTo (name other : String) (amount : UInt64) {points : List Point}
    (h : points.Pairwise (·.1 < ·.1)) :
    (addTo name amount points).lookup other =
      if other = name then some (saturatingAdd ((points.lookup name).getD 0) amount)
      else points.lookup other := by
  induction points with
  | nil => simp [addTo, lookup_cons_eq]
  | cons head rest ih =>
    obtain ⟨first, count⟩ := head
    obtain ⟨least, tail⟩ := List.pairwise_cons.mp h
    rw [addTo]
    split
    · rename_i less
      have absent : ((first, count) :: rest).lookup name = none :=
        lookup_eq_none_of_forall_lt fun p hp => by
          rcases List.mem_cons.mp hp with rfl | hp
          · exact less
          · exact String.lt_trans less (least p hp)
      rw [lookup_cons_eq, absent]
      simp
    · split
      · rename_i same
        simp only [lookup_cons_eq, same]
        split <;> simp
      · rename_i different
        simp only [lookup_cons_eq, ih tail, different, if_false]
        split <;> split <;> simp_all

/-- Hit counts by point name. -/
structure Database where
  points : List Point := []
  sorted : points.Pairwise (·.1 < ·.1) := by exact List.Pairwise.nil
  deriving DecidableEq, Repr

namespace Database

instance : Inhabited Database := ⟨{}⟩

/-- The database after an event. -/
def record (db : Database) (event : Event) : Database where
  points := addTo event.point event.amount db.points
  sorted := sorted_addTo event.point event.amount db.sorted

/-- The database after events in order. -/
def recordAll (db : Database) (events : List Event) : Database :=
  events.foldl record db

/-- Count of a point, or `none` if no event named it. -/
def count? (db : Database) (name : String) : Option UInt64 :=
  db.points.lookup name

/-- Number of points. -/
def size (db : Database) : Nat :=
  db.points.length

/-- Whether there are no points. -/
def isEmpty (db : Database) : Bool :=
  db.points.isEmpty

/-- Number of points with at least one hit. -/
def covered (db : Database) : Nat :=
  db.points.countP (0 < ·.2)

/-- An event changes the count of its own point only, by the hits it brings. -/
theorem count?_record (db : Database) (event : Event) (name : String) :
    (db.record event).count? name =
      if name = event.point then some (saturatingAdd ((db.count? name).getD 0) event.amount)
      else db.count? name := by
  rw [count?, record, lookup_addTo _ _ _ db.sorted]
  split
  · rename_i same
    rw [same, count?]
  · rfl

@[simp] theorem recordAll_nil (db : Database) : db.recordAll [] = db := rfl

@[simp] theorem recordAll_cons (db : Database) (event : Event) (events : List Event) :
    db.recordAll (event :: events) = (db.record event).recordAll events := rfl

end Database

end CycleSim.Coverage
