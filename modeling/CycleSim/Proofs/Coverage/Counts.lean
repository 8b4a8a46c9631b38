import Mathlib.Algebra.Ring.Nat
import Mathlib.Data.List.Nodup
import CycleSim.Coverage.Text

/-!
# The counts of a database

A database is determined by its counts, because its points stand in the order of their names
(`Database.ext_count?`).  After any events each count is the exact sum of the hits that the events
bring to its name, up to the greatest 64-bit number (`Database.count?_recordAll`).  So a database
that was filled from nothing is known from the names that were used (`Database.points_recordAll`),
and its text with it, if these were declared at first (`Database.text_declared`).
-/

namespace CycleSim.Coverage

/-- The number as a count: at most the greatest 64-bit number. -/
def clamped (n : ℕ) : UInt64 :=
  .ofNat (min n (2 ^ 64 - 1))

lemma toNat_clamped (n : ℕ) : (clamped n).toNat = min n (2 ^ 64 - 1) := by
  rw [clamped, UInt64.toNat_ofNat', Nat.mod_eq_of_lt (by omega)]

/-- Numbers that fit a word are not clamped. -/
lemma toNat_clamped_of_lt {n : ℕ} (lt : n < 2 ^ 64) : (clamped n).toNat = n := by
  rw [toNat_clamped]
  omega

/-- Adding counts adds the numbers and clamps the sum. -/
lemma saturatingAdd_eq_clamped (a b : UInt64) :
    saturatingAdd a b = clamped (a.toNat + b.toNat) := by
  rw [← UInt64.toNat_inj, toNat_saturatingAdd, toNat_clamped]
  rfl

/-- Clamping between two additions makes no difference. -/
lemma clamped_clamped_add (n m : ℕ) : clamped ((clamped n).toNat + m) = clamped (n + m) := by
  rw [← UInt64.toNat_inj, toNat_clamped, toNat_clamped, toNat_clamped]
  omega

/-- The exact sum of the hits that events bring to a name. -/
def total (events : List Event) (name : String) : ℕ :=
  ((events.filter (·.point = name)).map (·.amount.toNat)).sum

@[simp] lemma total_nil (name : String) : total [] name = 0 := rfl

@[simp] lemma total_cons (event : Event) (events : List Event) (name : String) :
    total (event :: events) name =
      (if event.point = name then event.amount.toNat else 0) + total events name := by
  unfold total
  by_cases same : event.point = name <;> simp [same]

/-- Hits add up over successive events. -/
lemma total_append (events later : List Event) (name : String) :
    total (events ++ later) name = total events name + total later name := by
  simp [total]

/-- Events bring no hits to a name that they do not use. -/
lemma total_eq_zero {events : List Event} {name : String}
    (unused : ∀ event ∈ events, event.point ≠ name) : total events name = 0 := by
  have none : events.filter (·.point = name) = [] := by
    simpa [List.filter_eq_nil_iff] using unused
  rw [total, none]
  rfl

/-- In sorted points a name has one entry, the one that a look-up finds. -/
lemma mem_iff_lookup {points : List Point} (sorted : points.Pairwise (·.1 < ·.1)) {name : String}
    {count : UInt64} : (name, count) ∈ points ↔ points.lookup name = some count := by
  induction points with
  | nil => simp
  | cons head rest ih =>
    obtain ⟨first, firstCount⟩ := head
    obtain ⟨least, tail⟩ := List.pairwise_cons.mp sorted
    rw [lookup_cons_eq, List.mem_cons, ih tail]
    by_cases same : name = first
    · subst same
      have absent : rest.lookup name = none := lookup_eq_none_of_forall_lt least
      simp [absent, eq_comm]
    · simp [same]

namespace Database

/-- A database names each of its points once. -/
lemma nodup_names (db : Database) : (db.points.map Prod.fst).Nodup := by
  refine List.pairwise_map.mpr (db.sorted.imp fun less equal => ?_)
  rw [equal] at less
  exact String.lt_irrefl _ less

/-- Databases with the same counts are equal. -/
theorem ext_count? {first second : Database}
    (same : ∀ name, first.count? name = second.count? name) : first = second := by
  have perm : first.points.Perm second.points := by
    refine (List.perm_ext_iff_of_nodup (List.Nodup.of_map _ first.nodup_names)
      (List.Nodup.of_map _ second.nodup_names)).mpr fun ⟨name, count⟩ => ?_
    rw [mem_iff_lookup first.sorted, mem_iff_lookup second.sorted]
    exact (congrArg (· = some count) (same name)).to_iff
  have points : first.points = second.points := by
    refine List.Perm.eq_of_pairwise (fun p q _ _ less greater => ?_) first.sorted second.sorted perm
    exact absurd (String.lt_trans less greater) (String.lt_irrefl _)
  cases first
  cases second
  cases points
  rfl

/-- The points of a database are the names that it counts. -/
lemma mem_names_iff {db : Database} {name : String} :
    name ∈ db.points.map Prod.fst ↔ (db.count? name).isSome = true := by
  rw [Option.isSome_iff_exists, List.mem_map]
  constructor
  · rintro ⟨⟨_, count⟩, mem, rfl⟩
    exact ⟨count, (mem_iff_lookup db.sorted).mp mem⟩
  · rintro ⟨count, found⟩
    exact ⟨(name, count), (mem_iff_lookup db.sorted).mpr found, rfl⟩

/-- Databases with the same points have as many. -/
theorem size_eq_of_isSome {first second : Database}
    (same : ∀ name, (first.count? name).isSome = (second.count? name).isSome) :
    first.size = second.size := by
  have perm : (first.points.map Prod.fst).Perm (second.points.map Prod.fst) := by
    refine (List.perm_ext_iff_of_nodup first.nodup_names second.nodup_names).mpr fun name => ?_
    rw [mem_names_iff, mem_names_iff, same]
  have length := perm.length_eq
  rwa [List.length_map, List.length_map] at length

/-- After events the names that they use count what they counted before and the hits of the events,
and the other names what they counted before. -/
theorem count?_recordAll (db : Database) (events : List Event) (name : String) :
    (db.recordAll events).count? name =
      if ∃ event ∈ events, event.point = name then
        some (clamped (((db.count? name).getD 0).toNat + total events name))
      else db.count? name := by
  induction events generalizing db with
  | nil => simp
  | cons event events ih =>
    rw [recordAll_cons, ih, count?_record, total_cons]
    simp only [List.exists_mem_cons_iff]
    by_cases used : ∃ event ∈ events, event.point = name
    · have either : event.point = name ∨ ∃ event ∈ events, event.point = name := .inr used
      rw [if_pos used, if_pos either]
      by_cases same : event.point = name
      · rw [if_pos same.symm, if_pos same, Option.getD_some, saturatingAdd_eq_clamped,
          clamped_clamped_add, Nat.add_assoc]
      · rw [if_neg (Ne.symm same), if_neg same, Nat.zero_add]
    · have unused : total events name = 0 :=
        total_eq_zero fun event mem same => used ⟨event, mem, same⟩
      rw [if_neg used, unused]
      by_cases same : event.point = name
      · have either : event.point = name ∨ ∃ event ∈ events, event.point = name := .inl same
        rw [if_pos same.symm, if_pos either, if_pos same, saturatingAdd_eq_clamped]
        rfl
      · rw [if_neg (Ne.symm same), if_neg (not_or.mpr ⟨same, used⟩)]

/-- Events in order are recorded one list after the other. -/
lemma recordAll_append (db : Database) (events later : List Event) :
    db.recordAll (events ++ later) = (db.recordAll events).recordAll later :=
  List.foldl_append

/-- The points of a database that was filled from nothing are the names used, in their order, with
the hits brought to them. -/
theorem points_recordAll {names : List String} (sorted : names.Pairwise (· < ·))
    {events : List Event}
    (used : ∀ name, (∃ event ∈ events, event.point = name) ↔ name ∈ names) :
    ((default : Database).recordAll events).points =
      names.map fun name => (name, clamped (total events name)) := by
  let expected : Database :=
    ⟨names.map fun name => (name, clamped (total events name)), List.pairwise_map.mpr sorted⟩
  have same : (default : Database).recordAll events = expected := by
    refine ext_count? fun name => ?_
    have empty : (default : Database).count? name = none := rfl
    rw [count?_recordAll, empty, count?]
    by_cases mem : name ∈ names
    · rw [if_pos ((used name).mpr mem), List.lookup_graph _ mem]
      simp
    · have absent : expected.points.lookup name = none := by
        refine List.lookup_eq_none_iff.mpr fun point found => ?_
        obtain ⟨other, there, rfl⟩ := List.mem_map.mp found
        rw [bne_iff_ne]
        rintro rfl
        exact mem there
      rw [if_neg fun named => mem ((used name).mp named), absent]
  rw [same]

end Database

/-! ### Declared points -/

/-- Declaring points brings no hits. -/
lemma total_declare (points : List String) (name : String) :
    total (points.map .declare) name = 0 := by
  induction points with
  | nil => rfl
  | cons point points ih =>
    rw [List.map_cons, total_cons, ih]
    exact ite_self 0

/-- Events behind the declarations of all points that they use, use no other names. -/
lemma exists_declared_iff {points : List String} {events : List Event}
    (known : ∀ event ∈ events, event.point ∈ points) (name : String) :
    (∃ event ∈ points.map Event.declare ++ events, event.point = name) ↔ name ∈ points := by
  constructor
  · rintro ⟨event, mem, rfl⟩
    rcases List.mem_append.mp mem with mem | mem
    · obtain ⟨point, declared, rfl⟩ := List.mem_map.mp mem
      exact declared
    · exact known event mem
  · intro mem
    exact ⟨.declare name, List.mem_append_left _ (List.mem_map_of_mem mem), rfl⟩

/-- A database whose points were all declared at first counts the hits brought to them, and nothing
else. -/
theorem Database.count?_declared {points : List String} {events : List Event}
    (known : ∀ event ∈ events, event.point ∈ points) (name : String) :
    ((default : Database).recordAll (points.map .declare ++ events)).count? name =
      if name ∈ points then some (clamped (total events name)) else none := by
  have empty : (default : Database).count? name = none := rfl
  rw [count?_recordAll, empty, total_append, total_declare]
  simp only [exists_declared_iff known]
  simp

/-- The points of a database whose points were all declared at first are these, in the order of
their names, with the hits brought to them. -/
theorem Database.points_declared {points names : List String} (perm : points.Perm names)
    (sorted : names.Pairwise (· < ·)) {events : List Event}
    (known : ∀ event ∈ events, event.point ∈ names) :
    ((default : Database).recordAll (points.map .declare ++ events)).points =
      names.map fun name => (name, clamped (total events name)) := by
  have known' : ∀ event ∈ events, event.point ∈ points :=
    fun event mem => perm.mem_iff.mpr (known event mem)
  rw [points_recordAll sorted fun name => (exists_declared_iff known' name).trans perm.mem_iff]
  simp only [total_append, total_declare, Nat.zero_add]

/-- A name without quotes and backslashes. -/
def Plain (name : String) : Prop :=
  ∀ c ∈ name.toList, c ≠ '\'' ∧ c ≠ '\\'

instance (name : String) : Decidable (Plain name) :=
  List.decidableBAll _ name.toList

/-- Plain names are written as they are. -/
lemma escape_of_plain {name : List Char} (plain : ∀ c ∈ name, c ≠ '\'' ∧ c ≠ '\\') :
    escape name = name := by
  induction name with
  | nil => rfl
  | cons c rest ih =>
    obtain ⟨here, later⟩ := List.forall_mem_cons.mp plain
    rw [escape, if_neg (not_or.mpr here), ih later]

/-- The record of a plain name. -/
lemma recordText_of_plain {name : String} (plain : Plain name) (count : UInt64) :
    recordText (name, count) = "C '" ++ name ++ "' " ++ toString count.toNat ++ "\n" := by
  rw [recordText, escape_of_plain plain, String.ofList_toList]

/-- The text of such a database has one record for each name, with the hits brought to it. -/
theorem Database.text_declared {points names : List String} (perm : points.Perm names)
    (sorted : names.Pairwise (· < ·)) (plain : ∀ name ∈ names, Plain name) {events : List Event}
    (known : ∀ event ∈ events, event.point ∈ names)
    (few : ∀ name ∈ names, total events name < 2 ^ 64) :
    ((default : Database).recordAll (points.map .declare ++ events)).text =
      String.join ("# rtl-harness coverage v1\n" :: names.map fun name =>
        "C '" ++ name ++ "' " ++ toString (total events name) ++ "\n") := by
  have headline : header ++ "\n" = "# rtl-harness coverage v1\n" := by decide
  rw [text, lines, points_declared perm sorted known, List.map_map, headline]
  congr 2
  refine List.map_congr_left fun name mem => ?_
  rw [Function.comp_apply, recordText_of_plain (plain name mem), toNat_clamped_of_lt (few name mem)]

end CycleSim.Coverage
