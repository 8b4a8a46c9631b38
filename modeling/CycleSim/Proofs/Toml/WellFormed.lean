import Mathlib.Algebra.Ring.Int.Defs
import Mathlib.Data.List.Nodup
import CycleSim.Toml.Node

/-!
# Well-formed trees

A tree is well formed if no table in it holds a name twice and every integer fits into 64 bits.  In
such a tree the entries of a table and its look-ups say the same, so the order of the entries
carries no meaning (`Table.find?_eq_some_iff`).  The operations by which tables grow keep trees well
formed, as long as a new entry has a new name.
-/

namespace CycleSim.Toml

/-- Whether an integer fits into 64 bits; other scalars do. -/
def Scalar.Fits : Scalar → Prop
  | .integer value => -2 ^ 63 ≤ value ∧ value < 2 ^ 63
  | _ => True

namespace Table

variable {ν : Type} {table : Table ν} {name : String} {node : ν} {key : Key}

/-- The names in a table, in the order of the text. -/
def names (table : Table ν) : List String :=
  table.entries.map (·.1.name)

/-! ### Look-ups -/

/-- A name that is not found is not there. -/
lemma find?_eq_none_iff : table.find? name = none ↔ name ∉ table.names := by
  simp [find?, names, List.find?_eq_none]

/-- A node that is found stands in an entry of that name. -/
lemma exists_of_find?_eq_some (found : table.find? name = some node) :
    ∃ key, key.name = name ∧ (key, node) ∈ table.entries := by
  obtain ⟨⟨key, other⟩, first, rfl⟩ := Option.map_eq_some_iff.mp found
  exact ⟨key, by simpa using List.find?_some first, List.mem_of_find?_eq_some first⟩

/-- If names are not repeated, the nodes found are those of the entries. -/
lemma find?_eq_some_iff (distinct : table.names.Nodup) :
    table.find? name = some node ↔ ∃ key, key.name = name ∧ (key, node) ∈ table.entries := by
  refine ⟨exists_of_find?_eq_some, ?_⟩
  rintro ⟨key, rfl, mem⟩
  cases found : table.find? key.name with
  | none => exact absurd (List.mem_map_of_mem mem) (find?_eq_none_iff.mp found)
  | some other =>
    obtain ⟨key', same, mem'⟩ := exists_of_find?_eq_some found
    have entry := List.inj_on_of_nodup_map distinct mem' mem same
    rw [(Prod.mk.inj entry).2]

/-- The first entry of a name is the one that is found. -/
lemma find?_cons {entries : List (Key × ν)} :
    ({ entries := (key, node) :: entries } : Table ν).find? name =
      (if key.name = name then some node else none).or (({ entries } : Table ν).find? name) := by
  by_cases same : key.name = name <;> simp [find?, same]

/-- A new entry is found under its name. -/
lemma find?_push (absent : table.find? key.name = none) :
    (table.push key node).find? key.name = some node := by
  have others : table.entries.find? (·.1.name == key.name) = none :=
    Option.map_eq_none_iff.mp absent
  simp [find?, push, List.find?_append, others]

/-- A replaced node is found under its name. -/
lemma find?_replace {old : ν} (present : table.find? name = some old) :
    (table.replace name node).find? name = some node := by
  obtain ⟨entry, first, -⟩ := Option.map_eq_some_iff.mp present
  have same : entry.1.name = name := by simpa using List.find?_some first
  have kept : (fun e : Key × ν => (if e.1.name = name then (e.1, node) else e).1.name == name) =
      fun e => e.1.name == name := by
    funext e
    split <;> rfl
  simp only [find?, replace, List.find?_map, Function.comp_def, kept, first]
  simp [same]

/-- A name taken out is not found. -/
lemma find?_erase : (table.erase name).find? name = none := by
  simp [find?_eq_none_iff, names, erase]

/-! ### Names -/

@[simp] lemma names_push : (table.push key node).names = table.names ++ [key.name] := by
  simp [names, push]

@[simp] lemma names_replace : (table.replace name node).names = table.names := by
  have kept (e : Key × ν) : (if e.1.name = name then (e.1, node) else e).1.name = e.1.name := by
    split <;> rfl
  simp only [names, replace, List.map_map, Function.comp_def, kept]

/-- Taking a name out leaves names of the table. -/
lemma names_erase_sublist : (table.erase name).names.Sublist table.names :=
  List.filter_sublist.map _

end Table

/-- Whether the names in each table of a tree are distinct and its integers fit into 64 bits. -/
inductive Node.WellFormed : Node → Prop
  | scalar {value : Scalar} (span : Span) : value.Fits → WellFormed (.scalar span value)
  | array {items : List Node} (span : Span) :
    (∀ item ∈ items, WellFormed item) → WellFormed (.array span items)
  | table {table : Table Node} : table.names.Nodup →
    (∀ entry ∈ table.entries, WellFormed entry.2) → WellFormed (.table table)
  | tables {elements : List (Table Node)} :
    (∀ element ∈ elements, WellFormed (.table element)) → WellFormed (.tables elements)

/-- Whether the tree that begins with a table is well formed. -/
def Table.WellFormed (table : Table Node) : Prop :=
  (Node.table table).WellFormed

/-- The elements of a well-formed array of tables are well formed. -/
lemma Node.WellFormed.elements {elements : List (Table Node)} :
    (Node.tables elements).WellFormed → ∀ element ∈ elements, element.WellFormed
  | .tables all => all

namespace Table.WellFormed

variable {table : Table Node} {name : String} {node : Node} {key : Key}

/-- The names in a table of a well-formed tree are distinct. -/
lemma distinct : table.WellFormed → table.names.Nodup
  | .table distinct _ => distinct

/-- The nodes in a table of a well-formed tree are well formed. -/
lemma below : table.WellFormed → ∀ entry ∈ table.entries, entry.2.WellFormed
  | .table _ below => below

/-- A table without entries is well formed. -/
lemma of_entries_eq_nil (empty : table.entries = []) : table.WellFormed :=
  .table (by simp [names, empty]) (by simp [empty])

/-- Only its entries tell whether a table is well formed. -/
lemma of_entries_eq {other : Table Node} (wf : table.WellFormed)
    (same : other.entries = table.entries) : other.WellFormed :=
  .table (by rw [names, same]; exact wf.distinct) (by rw [same]; exact wf.below)

/-- What is found in a well-formed table is well formed. -/
lemma of_find? (wf : table.WellFormed) (found : table.find? name = some node) :
    node.WellFormed := by
  obtain ⟨key, -, mem⟩ := exists_of_find?_eq_some found
  exact wf.below _ mem

/-- A node under a new name keeps a table well formed. -/
lemma push (wf : table.WellFormed) (absent : table.find? key.name = none)
    (added : node.WellFormed) : (table.push key node).WellFormed := by
  refine .table ?_ fun entry mem => ?_
  · rw [names_push]
    exact wf.distinct.append (List.nodup_singleton _) (by simpa using find?_eq_none_iff.mp absent)
  · rcases List.mem_append.mp mem with old | new
    · exact wf.below entry old
    · rw [List.mem_singleton.mp new]
      exact added

/-- Another node under a name keeps a table well formed. -/
lemma replace (wf : table.WellFormed) (put : node.WellFormed) :
    (table.replace name node).WellFormed := by
  refine .table (by rw [names_replace]; exact wf.distinct) fun entry mem => ?_
  obtain ⟨old, kept, rfl⟩ := List.mem_map.mp mem
  split
  · exact put
  · exact wf.below old kept

/-- A table stays well formed when a name is taken out. -/
lemma erase (wf : table.WellFormed) : (table.erase name).WellFormed :=
  .table (wf.distinct.sublist names_erase_sublist) fun entry mem =>
    wf.below entry (List.mem_of_mem_filter mem)

end Table.WellFormed

end CycleSim.Toml
